/-
**Tables: rows with distinct keys.**

Sessions and registry entries are kept by their identifiers.  A table is a list of rows, in the
order in which they were written, of which no two have the same key; writing a row replaces the one
with its key.

Main definitions:

* `Table`, `Table.empty`, `Table.insert`, `Table.keep`, `Table.erase`;
* `Table.find?`, `Table.size`.

Main results:

* `cut_concat` — the last of a row, when the row is cut;
* `Table.toList_insert_of_fresh`, `Table.toList_erase_of_mem` — what writing a new row and erasing a
  row do to the others;
* `Table.find?_eq_some_iff` — a look-up gives the row of the table that has the key;
* `Table.find?_insert`, `Table.find?_keep` — what the operations do to it;
* `Table.size_insert`, `Table.size_keep_add_size_keep` — what they do to the number of rows.
-/
set_option autoImplicit false

namespace ConferenceAuth

/-! ### Rows -/

/-- **The last of a row** is where the row is cut, or it stands behind the cut. -/
theorem cut_concat {α : Type} {row before since : List α} {last x : α}
    (h : row ++ [last] = before ++ x :: since) :
    (row = before ∧ last = x ∧ since = []) ∨
      ∃ since', since = since' ++ [last] ∧ row = before ++ x :: since' := by
  rcases List.eq_nil_or_concat since with rfl | ⟨since', y, rfl⟩
  · obtain ⟨hrow, hlast⟩ := List.append_inj' h rfl
    exact Or.inl ⟨hrow, List.singleton_inj.1 hlast, rfl⟩
  · rw [List.concat_eq_append, ← List.cons_append, ← List.append_assoc] at h
    obtain ⟨hrow, hlast⟩ := List.append_inj' h rfl
    exact Or.inr ⟨since', by rw [List.concat_eq_append, hlast], hrow⟩

/-! ### Tables -/

/-- A table: rows in the order of writing, of which no two have the same key. -/
structure Table (α : Type) (key : α → String) where
  toList : List α
  /-- No two rows have the same key. -/
  keys_nodup : (toList.map key).Nodup

namespace Table

variable {α : Type} {key : α → String}

@[ext] theorem ext {s t : Table α key} (h : s.toList = t.toList) : s = t := by
  cases s; cases t; cases h; rfl

/-! ### Operations -/

def empty : Table α key := ⟨[], by simp⟩

def keep (t : Table α key) (p : α → Bool) : Table α key :=
  ⟨t.toList.filter p, t.keys_nodup.sublist (List.filter_sublist.map key)⟩

/-- The table without the row of a key. -/
def erase (t : Table α key) (k : String) : Table α key := t.keep (key · != k)

/-- The table with a row, which replaces the one with its key. -/
def insert (t : Table α key) (x : α) : Table α key where
  toList := (t.erase (key x)).toList ++ [x]
  keys_nodup := by
    rw [List.map_append, List.nodup_append]
    refine ⟨(t.erase (key x)).keys_nodup, by simp, ?_⟩
    intro a ha b hb
    simp only [erase, keep, List.mem_map, List.mem_filter, bne_iff_ne] at ha
    obtain ⟨y, ⟨_, hy⟩, rfl⟩ := ha
    simp only [List.map_cons, List.map_nil, List.mem_singleton] at hb
    exact hb ▸ hy

def find? (t : Table α key) (k : String) : Option α := t.toList.find? (key · == k)

def size (t : Table α key) : Nat := t.toList.length

/-! ### Rows -/

@[simp] theorem toList_empty : (empty : Table α key).toList = [] := rfl

@[simp] theorem toList_keep (t : Table α key) (p : α → Bool) :
    (t.keep p).toList = t.toList.filter p := rfl

@[simp] theorem toList_erase (t : Table α key) (k : String) :
    (t.erase k).toList = t.toList.filter (key · != k) := rfl

@[simp] theorem toList_insert (t : Table α key) (x : α) :
    (t.insert x).toList = t.toList.filter (key · != key x) ++ [x] := rfl

/-- A row with a new key goes to the end. -/
theorem toList_insert_of_fresh {t : Table α key} {x : α} (h : ∀ y ∈ t.toList, key y ≠ key x) :
    (t.insert x).toList = t.toList ++ [x] := by
  rw [toList_insert, List.filter_eq_self.2 (fun y hy => bne_iff_ne.2 (h y hy))]

/-- **The row of a key is erased, and nothing else**: the others stay, in their order. -/
theorem toList_erase_of_mem {t : Table α key} {x : α} (hx : x ∈ t.toList) :
    ∃ before after, t.toList = before ++ x :: after ∧
      (t.erase (key x)).toList = before ++ after := by
  obtain ⟨before, after, hrows⟩ := List.append_of_mem hx
  have hnodup := t.keys_nodup
  rw [hrows, List.map_append, List.map_cons, List.nodup_append, List.nodup_cons] at hnodup
  obtain ⟨-, ⟨hafter, -⟩, hbefore⟩ := hnodup
  have hkeep : ∀ y ∈ before ++ after, (key y != key x) = true := by
    intro y hy
    rw [bne_iff_ne]
    rcases List.mem_append.1 hy with hy | hy
    · exact hbefore _ (List.mem_map_of_mem hy) _ List.mem_cons_self
    · exact fun heq => hafter (heq ▸ List.mem_map_of_mem hy)
  refine ⟨before, after, hrows, ?_⟩
  rw [toList_erase, hrows, List.filter_append, List.filter_cons_of_neg (by simp),
    ← List.filter_append, List.filter_eq_self.2 hkeep]

/-! ### Look-up -/

/-- Rows of a table with the same key are the same. -/
theorem eq_of_key_eq {t : Table α key} {x y : α} (hx : x ∈ t.toList) (hy : y ∈ t.toList)
    (h : key x = key y) : x = y := by
  obtain ⟨rows, nodup⟩ := t
  induction rows with
  | nil => cases hx
  | cons z rows ih =>
      simp only [List.map_cons, List.nodup_cons, List.mem_map, not_exists, not_and] at nodup
      rcases List.mem_cons.1 hx with hx | hx <;> rcases List.mem_cons.1 hy with hy | hy
      · rw [hx, hy]
      · exact absurd (hx ▸ h.symm) (nodup.1 y hy)
      · exact absurd (hy ▸ h) (nodup.1 x hx)
      · exact ih nodup.2 hx hy

/-- **A look-up gives the row that has the key.** -/
theorem find?_eq_some_iff {t : Table α key} {k : String} {x : α} :
    t.find? k = some x ↔ x ∈ t.toList ∧ key x = k := by
  constructor
  · intro h
    exact ⟨List.mem_of_find?_eq_some h, by simpa using List.find?_some h⟩
  · rintro ⟨hx, rfl⟩
    cases hf : t.find? (key x) with
    | none =>
        have := List.find?_eq_none.1 hf x hx
        simp at this
    | some y =>
        have hy : key y = key x := by simpa using List.find?_some hf
        rw [eq_of_key_eq (List.mem_of_find?_eq_some hf) hx hy]

theorem find?_eq_none_iff {t : Table α key} {k : String} :
    t.find? k = none ↔ ∀ x ∈ t.toList, key x ≠ k := by
  simp [find?, List.find?_eq_none]

@[simp] theorem find?_empty (k : String) : (empty : Table α key).find? k = none := rfl

/-- A written row is found under its key; under the others nothing changes. -/
theorem find?_insert (t : Table α key) (x : α) (k : String) :
    (t.insert x).find? k = if key x = k then some x else t.find? k := by
  by_cases h : key x = k
  · rw [if_pos h, find?_eq_some_iff]
    exact ⟨by simp, h⟩
  · rw [if_neg h]
    apply Option.ext
    intro y
    rw [find?_eq_some_iff, find?_eq_some_iff]
    simp only [toList_insert, List.mem_append, List.mem_filter, bne_iff_ne, List.mem_singleton]
    constructor
    · rintro ⟨⟨hy, _⟩ | rfl, hk⟩
      · exact ⟨hy, hk⟩
      · exact absurd hk h
    · rintro ⟨hy, hk⟩
      exact ⟨Or.inl ⟨hy, fun e => h (e ▸ hk)⟩, hk⟩

/-- Of the rows that pass a test, the one with the key is the one of the table, if it passes. -/
theorem find?_keep (t : Table α key) (p : α → Bool) (k : String) :
    (t.keep p).find? k = (t.find? k).filter p := by
  apply Option.ext
  intro y
  rw [Option.filter_eq_some_iff, find?_eq_some_iff, find?_eq_some_iff]
  simp only [toList_keep, List.mem_filter]
  constructor
  · rintro ⟨⟨hy, hp⟩, hk⟩
    exact ⟨⟨hy, hk⟩, hp⟩
  · rintro ⟨⟨hy, hk⟩, hp⟩
    exact ⟨⟨hy, hp⟩, hk⟩

/-! ### Size -/

@[simp] theorem size_empty : (empty : Table α key).size = 0 := rfl

/-- A row with a new key makes a table larger by one. -/
theorem size_insert {t : Table α key} {x : α} (h : ∀ y ∈ t.toList, key y ≠ key x) :
    (t.insert x).size = t.size + 1 := by
  rw [size, toList_insert_of_fresh h, List.length_append]
  rfl

/-- The rows that pass a test and those that fail it are all the rows. -/
theorem size_keep_add_size_keep (t : Table α key) (p : α → Bool) :
    (t.keep p).size + (t.keep fun x => !p x).size = t.size := by
  simp only [size, toList_keep]
  induction t.toList with
  | nil => rfl
  | cons x rows ih =>
      cases hp : p x <;> simp [hp] <;> omega

theorem size_keep_le (t : Table α key) (p : α → Bool) : (t.keep p).size ≤ t.size :=
  List.length_filter_le ..

end Table

end ConferenceAuth
