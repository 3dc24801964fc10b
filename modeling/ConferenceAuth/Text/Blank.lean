/-
**Blanks and trimming.**

Settings are read after the blanks around them have been removed.  A blank is a character with the
Unicode property `White_Space`: besides the ASCII blanks it includes the no-break space, the spaces
of the general punctuation block and the ideographic space, so the test on ASCII characters alone
would be too narrow.

Main definitions:

* `Text.isBlank` — the property `White_Space`, as a table of twenty-five code points;
* `Text.trim` — a text without the blanks at both ends;
* `Text.TrimsTo` — a text stands between blanks.

Main results:

* `Text.trim_eq_self` — a text whose ends are not blank is left alone;
* `Text.trimsTo_iff` — trimming finds what stands between the blanks.
-/
set_option autoImplicit false

namespace ConferenceAuth

namespace Text

/-! ### Blanks -/

/-- The characters with the Unicode property `White_Space`. -/
def isBlank (c : Char) : Bool :=
  let n := c.toNat
  (0x09 ≤ n && n ≤ 0x0D) || n == 0x20 || n == 0x85 || n == 0xA0 || n == 0x1680 ||
    (0x2000 ≤ n && n ≤ 0x200A) || n == 0x2028 || n == 0x2029 || n == 0x202F || n == 0x205F ||
    n == 0x3000

/-! ### Trimming -/

def trimStart (cs : List Char) : List Char := cs.dropWhile isBlank

def trimEnd (cs : List Char) : List Char := (cs.reverse.dropWhile isBlank).reverse

/-- A text without the blanks at both ends. -/
def trim (cs : List Char) : List Char := trimEnd (trimStart cs)

@[simp] theorem trimStart_nil : trimStart [] = [] := rfl

@[simp] theorem trim_nil : trim [] = [] := rfl

theorem trimStart_cons_of_blank {c : Char} {cs : List Char} (h : isBlank c = true) :
    trimStart (c :: cs) = trimStart cs := List.dropWhile_cons_of_pos h

theorem trimStart_cons_of_not_blank {c : Char} {cs : List Char} (h : isBlank c = false) :
    trimStart (c :: cs) = c :: cs := List.dropWhile_cons_of_neg (by simp [h])

/-- Blanks in front of a text do not matter. -/
theorem trim_append_left {bs cs : List Char} (h : ∀ b ∈ bs, isBlank b = true) :
    trim (bs ++ cs) = trim cs := by
  simp [trim, trimStart, List.dropWhile_append_of_pos h]

/-- Nor do blanks behind it. -/
theorem trim_append_right {bs cs : List Char} (h : ∀ b ∈ bs, isBlank b = true) :
    trim (cs ++ bs) = trim cs := by
  have hend : ∀ ds, trimEnd (ds ++ bs) = trimEnd ds := by
    intro ds
    rw [trimEnd, List.reverse_append,
      List.dropWhile_append_of_pos fun b hb => h b (List.mem_reverse.1 hb), trimEnd]
  rw [trim, trim, trimStart, List.dropWhile_append]
  split
  · next hblank =>
    have hstart : trimStart bs = [] := by
      simpa [trimStart] using @List.dropWhile_append_of_pos _ isBlank bs [] h
    rw [List.isEmpty_iff] at hblank
    rw [trimStart, hblank]
    exact congrArg trimEnd hstart
  · exact hend (trimStart cs)

/-- A text whose ends are not blank is left alone. -/
theorem trim_eq_self {cs : List Char} (first : ∀ c ∈ cs.head?, isBlank c = false)
    (last : ∀ c ∈ cs.getLast?, isBlank c = false) : trim cs = cs := by
  have hs : trimStart cs = cs := by
    cases cs with
    | nil => rfl
    | cons c cs => exact trimStart_cons_of_not_blank (first c rfl)
  rw [trim, hs, trimEnd]
  rw [List.getLast?_eq_head?_reverse] at last
  cases hr : cs.reverse with
  | nil => simp_all
  | cons c rs =>
      rw [hr] at last
      rw [List.dropWhile_cons_of_neg (by simp [last c rfl]), ← hr, List.reverse_reverse]

/-! ### What stands between blanks -/

/-- **A text stands between blanks**: around it there are blanks only, and its ends are none. -/
structure TrimsTo (cs ds : List Char) : Prop where
  split : ∃ front back, cs = front ++ (ds ++ back) ∧ (∀ c ∈ front, isBlank c = true) ∧
    ∀ c ∈ back, isBlank c = true
  ne_nil : ds ≠ []
  first : ∀ c ∈ ds.head?, isBlank c = false
  last : ∀ c ∈ ds.getLast?, isBlank c = false

/-- The blanks at the front are dropped, and what is left starts with no blank. -/
theorem trimStart_split (cs : List Char) :
    (∃ front, cs = front ++ trimStart cs ∧ ∀ c ∈ front, isBlank c = true) ∧
      ∀ c ∈ (trimStart cs).head?, isBlank c = false := by
  induction cs with
  | nil => exact ⟨⟨[], rfl, fun _ h => nomatch h⟩, fun _ h => nomatch h⟩
  | cons c cs ih =>
      cases hc : isBlank c with
      | true =>
          rw [trimStart_cons_of_blank hc]
          obtain ⟨⟨front, hcs, hfront⟩, hhead⟩ := ih
          exact ⟨⟨c :: front, congrArg (c :: ·) hcs, List.forall_mem_cons.2 ⟨hc, hfront⟩⟩, hhead⟩
      | false =>
          rw [trimStart_cons_of_not_blank hc]
          refine ⟨⟨[], rfl, fun _ h => nomatch h⟩, fun d hd => ?_⟩
          rw [List.head?_cons, Option.mem_some_iff] at hd
          exact hd ▸ hc

/-- The blanks at the end are dropped, and what is left ends with no blank. -/
theorem trimEnd_split (cs : List Char) :
    (∃ back, cs = trimEnd cs ++ back ∧ ∀ c ∈ back, isBlank c = true) ∧
      ∀ c ∈ (trimEnd cs).getLast?, isBlank c = false := by
  -- from behind, the end is the front
  have hreverse : trimEnd cs = (trimStart cs.reverse).reverse := rfl
  obtain ⟨⟨front, hcs, hfront⟩, hhead⟩ := trimStart_split cs.reverse
  rw [hreverse, List.getLast?_reverse]
  refine ⟨⟨front.reverse, ?_, fun c hc => hfront c (List.mem_reverse.1 hc)⟩, hhead⟩
  rw [← List.reverse_append, ← hcs, List.reverse_reverse]

/-- **Trimming finds what stands between the blanks**, if there is anything. -/
theorem trimsTo_iff {cs ds : List Char} : TrimsTo cs ds ↔ trim cs = ds ∧ ds ≠ [] := by
  constructor
  · rintro ⟨⟨front, back, rfl, hfront, hback⟩, hne, hfirst, hlast⟩
    refine ⟨?_, hne⟩
    calc trim (front ++ (ds ++ back)) = trim (ds ++ back) := trim_append_left hfront
      _ = trim ds := trim_append_right hback
      _ = ds := trim_eq_self hfirst hlast
  · rintro ⟨rfl, hne⟩
    obtain ⟨⟨front, hcs, hfront⟩, hhead⟩ := trimStart_split cs
    obtain ⟨⟨back, hrest, hback⟩, hlast⟩ := trimEnd_split (trimStart cs)
    refine ⟨⟨front, back, hcs.trans (congrArg (front ++ ·) hrest), hfront, hback⟩, hne, ?_, hlast⟩
    -- what is left at the end starts as before
    obtain ⟨c, ds, htrim⟩ := List.exists_cons_of_ne_nil hne
    intro d hd
    rw [htrim] at hd
    refine hhead d ?_
    rw [hrest, show trimEnd (trimStart cs) = c :: ds from htrim]
    exact hd

end Text

end ConferenceAuth
