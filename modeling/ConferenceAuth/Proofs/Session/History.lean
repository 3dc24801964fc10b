/-
**The history of a store of sessions.**

A store is changed in four ways: a session is created, the sessions of a room are dropped, those
that have reached a lifetime by a given time are dropped, or all are.  The changes come in any
order, and the given times may go back and forth.  When no identifier is used for two sessions, what
is in the store afterwards can be read off the history: the sessions that have been created, but for
those that a later change has dropped.

Main definitions:

* `StoreChange`, `Keeper.change`, `Keeper.replay` — the changes, alone and in a row;
* `StoreChange.Drops` — whether a change drops a session;
* `createdBy`, `Survives` — the sessions that have been created, and those not dropped since.

Main results:

* `Keeper.mem_change`, `Survives.concat_iff` — one more change, of a store and of a history;
* `Keeper.mem_replay` — a row of changes;
* `store_holds_what_survives` — **a store holds exactly what survives its history**.
-/
import ConferenceAuth.Session.Keeper

set_option autoImplicit false

namespace ConferenceAuth

/-! ### Changes -/

/-- A change of a store. -/
inductive StoreChange where
  | create (s : Session)
  | removeRoom (room : String)
  | expire (now : Int) (lifetime : Nat)
  | clear
  deriving DecidableEq, Repr

namespace StoreChange

/-- **A change drops a session**: the session is of the room that is removed, or it has reached the
lifetime by the given time, or all sessions are dropped. -/
def Drops (c : StoreChange) (s : Session) : Prop :=
  match c with
  | create _ => False
  | removeRoom room => s.room = room
  | expire now lifetime => s.createdAt ≤ now ∧ lifetime ≤ now - s.createdAt
  | clear => True

/-- The session that a change creates, if it does. -/
def created? : StoreChange → Option Session
  | create s => some s
  | _ => none

theorem created?_eq_some_iff {c : StoreChange} {s : Session} :
    c.created? = some s ↔ c = .create s := by
  cases c <;> simp [created?]

end StoreChange

/-- The sessions that a row of changes creates, in order. -/
def createdBy (changes : List StoreChange) : List Session :=
  changes.filterMap StoreChange.created?

@[simp] theorem createdBy_append (changes changes' : List StoreChange) :
    createdBy (changes ++ changes') = createdBy changes ++ createdBy changes' :=
  List.filterMap_append

/-- A session that is created next has a new identifier, when none is used twice. -/
theorem id_ne_of_created {done changes : List StoreChange} {c : StoreChange} {s s' : Session}
    (h : ((createdBy (done ++ [c] ++ changes)).map (·.id)).Nodup) (hs : s ∈ createdBy done)
    (hc : c.created? = some s') : s.id ≠ s'.id := by
  rw [createdBy_append, createdBy_append, List.map_append, List.map_append] at h
  have hdone := (List.nodup_append.1 h).1
  have hs' : s' ∈ createdBy [c] := List.mem_filterMap.2 ⟨c, List.mem_singleton_self c, hc⟩
  exact (List.nodup_append.1 hdone).2.2 _ (List.mem_map_of_mem hs) _ (List.mem_map_of_mem hs')

/-- **A session survives a history**: it has been created, and no later change has dropped it. -/
def Survives (changes : List StoreChange) (s : Session) : Prop :=
  ∃ before after, changes = before ++ .create s :: after ∧ ∀ c ∈ after, ¬ c.Drops s

theorem Survives.mem_createdBy {changes : List StoreChange} {s : Session}
    (h : Survives changes s) : s ∈ createdBy changes := by
  obtain ⟨before, after, rfl, -⟩ := h
  exact List.mem_filterMap.2 ⟨.create s, by simp, rfl⟩

/-- **One more change** creates a session, or drops some of those that have survived so far. -/
theorem Survives.concat_iff {changes : List StoreChange} {c : StoreChange} {s : Session} :
    Survives (changes ++ [c]) s ↔ c.created? = some s ∨ (Survives changes s ∧ ¬ c.Drops s) := by
  rw [StoreChange.created?_eq_some_iff]
  constructor
  · rintro ⟨before, after, heq, hafter⟩
    rcases cut_concat heq with ⟨-, hc, -⟩ | ⟨after, rfl, rfl⟩
    · exact Or.inl hc
    · refine Or.inr ⟨⟨before, after, rfl, fun c hc => hafter c ?_⟩, hafter _ ?_⟩ <;> simp [*]
  · rintro (rfl | ⟨⟨before, after, rfl, hafter⟩, hc⟩)
    · exact ⟨changes, [], rfl, by simp⟩
    · refine ⟨before, after ++ [c], by simp, fun c' hc' => ?_⟩
      rcases List.mem_append.1 hc' with hc' | hc'
      · exact hafter c' hc'
      · rw [List.mem_singleton.1 hc']
        exact hc

namespace Keeper

/-- **One change**, of a keeper with its metrics. -/
def change (k : Keeper × Metrics) : StoreChange → Keeper × Metrics
  | .create s => k.1.create k.2 s
  | .removeRoom room => k.1.removeRoom k.2 room
  | .expire now lifetime => k.1.expire k.2 now lifetime
  | .clear => k.1.clear k.2

/-- **A row of changes.** -/
def replay (k : Keeper × Metrics) (changes : List StoreChange) : Keeper × Metrics :=
  changes.foldl change k

/-- **What a change does to a store**, when a created session has a new identifier. -/
theorem mem_change {k : Keeper × Metrics} {c : StoreChange} {s : Session}
    (hnew : ∀ s', c.created? = some s' → ∀ y ∈ k.1.sessions.toList, y.id ≠ s'.id) :
    s ∈ (change k c).1.sessions.toList ↔
      c.created? = some s ∨ (s ∈ k.1.sessions.toList ∧ ¬ c.Drops s) := by
  cases c with
  | create s' =>
      show s ∈ (k.1.sessions.insert s').toList ↔ _
      rw [Table.toList_insert_of_fresh (hnew s' rfl), List.mem_append, List.mem_singleton]
      simp [StoreChange.created?, StoreChange.Drops, or_comm, eq_comm]
  | removeRoom room =>
      show s ∈ k.1.sessions.toList.filter _ ↔ _
      rw [List.mem_filter, bne_iff_ne]
      simp [StoreChange.created?, StoreChange.Drops]
  | expire now lifetime =>
      show s ∈ k.1.sessions.toList.filter _ ↔ _
      rw [List.mem_filter, Bool.not_eq_true', ← Bool.not_eq_true, Session.expired_iff]
      simp [StoreChange.created?, StoreChange.Drops]
  | clear =>
      show s ∈ [] ↔ _
      simp [StoreChange.created?, StoreChange.Drops]

/-- **A row of changes leads from the survivors of one history to those of the longer one**, when no
identifier is used twice. -/
theorem mem_replay {done changes : List StoreChange} {k : Keeper × Metrics}
    (h : ∀ s, s ∈ k.1.sessions.toList ↔ Survives done s)
    (hids : ((createdBy (done ++ changes)).map (·.id)).Nodup) (s : Session) :
    s ∈ (replay k changes).1.sessions.toList ↔ Survives (done ++ changes) s := by
  induction changes generalizing done k with
  | nil => rw [List.append_nil]; exact h s
  | cons c changes ih =>
      rw [List.append_cons] at hids ⊢
      refine ih (fun s => ?_) hids
      rw [Survives.concat_iff, ← h s]
      exact mem_change fun s' hs' y hy => id_ne_of_created hids ((h y).1 hy).mem_createdBy hs'

end Keeper

/-! ### What a store holds -/

/-- **A store holds exactly what survives its history.**  Take any keeper without sessions and any
row of changes that uses no identifier for two sessions.  Afterwards

* a look-up gives a session exactly if the session has the identifier and survives the row;
* the size of the store is the number of the sessions that survive;
* what a look-up gave after the first few changes, and what it gives after all of them, is the same
  session, with all its fields. -/
theorem store_holds_what_survives {k : Keeper × Metrics} (hk : k.1.sessions = .empty)
    {changes : List StoreChange} (hids : ((createdBy changes).map (·.id)).Nodup) :
    (∀ id s, (Keeper.replay k changes).1.sessions.get? id = some s ↔
      s.id = id ∧ Survives changes s) ∧
    (∃ survivors : List Session, survivors.Nodup ∧
      (∀ s, s ∈ survivors ↔ Survives changes s) ∧
      (Keeper.replay k changes).1.sessions.size = survivors.length) ∧
    (∀ before after, changes = before ++ after → ∀ id s s',
      (Keeper.replay k before).1.sessions.get? id = some s →
      (Keeper.replay k changes).1.sessions.get? id = some s' → s' = s) := by
  have hempty : ∀ s, s ∈ k.1.sessions.toList ↔ Survives [] s := by
    intro s
    rw [hk]
    simp [Survives]
  have hmem := Keeper.mem_replay hempty hids
  rw [List.nil_append] at hmem
  refine ⟨fun id s => ?_, ⟨_, ?_, hmem, rfl⟩, ?_⟩
  · rw [Table.find?_eq_some_iff, hmem, and_comm]
  · exact List.Pairwise.of_map Session.id (fun _ _ hne heq => hne (heq ▸ rfl))
      (Keeper.replay k changes).1.sessions.keys_nodup
  · rintro before after rfl id s s' hs hs'
    have hbefore : ((createdBy before).map (·.id)).Nodup := by
      rw [createdBy_append, List.map_append] at hids
      exact (List.nodup_append.1 hids).1
    obtain ⟨hs, hid⟩ := Table.find?_eq_some_iff.1 hs
    obtain ⟨hs', hid'⟩ := Table.find?_eq_some_iff.1 hs'
    have hcreated : s ∈ createdBy (before ++ after) := by
      rw [createdBy_append]
      exact List.mem_append_left _ ((Keeper.mem_replay hempty hbefore s).1 hs).mem_createdBy
    have hcreated' : s' ∈ createdBy (before ++ after) := ((hmem s').1 hs').mem_createdBy
    -- both have been created under the same identifier
    exact Table.eq_of_key_eq (t := ⟨createdBy (before ++ after), hids⟩) hcreated' hcreated
      (hid'.trans hid.symm)

/-- When the clock has been set back, an expiry drops a session that has just reached the lifetime,
and leaves alone the one that seems to have been created in the future. -/
theorem survives_clock_set_back :
    let old : Session := ⟨"1", "machine", "alice", "hall", 100⟩
    let future : Session := ⟨"2", "machine", "bob", "hall", 900⟩
    let changes := [.create old, .create future, .expire 150 50, .removeRoom "Hall"]
    let k : Keeper × Metrics := ({ lifetime := 50, disableAutologin := false }, {})
    (Keeper.replay k changes).1.sessions.get? "1" = none ∧
      (Keeper.replay k changes).1.sessions.get? "2" = some future := by
  intro old future changes k
  have hsurvives : Survives changes future :=
    ⟨[.create old], [.expire 150 50, .removeRoom "Hall"], rfl, by simp [StoreChange.Drops, future]⟩
  exact ⟨rfl, ((store_holds_what_survives rfl (by decide)).1 "2" future).2 ⟨rfl, hsurvives⟩⟩

end ConferenceAuth
