/-
**Expiries in a row, and in another order.**

A session that has reached its lifetime at one time has reached it at every later one.  So two
expiries with one lifetime drop what a single expiry drops at the later of their times, whichever
comes first, and a sweep that is made late or twice makes no difference.  Expiries with lifetimes of
their own, and the removal of a room, look at one session at a time; in a row of them the order does
not matter.

Main definitions:

* `Keeper.removedBy` — how many sessions a change removes, which is what the caller is told.

Main results:

* `Session.expired_mono`, `Session.expired_max` — **what has expired stays expired**;
* `Table.keep_keep`, `Table.keep_comm` — two tests of the rows of a table;
* `SessionStore.expire_expire`, `SessionStore.expire_comm`, `SessionStore.expire_removeRoom` — two
  changes of a store;
* `expiries_compose_and_commute` — the same of a keeper with its gauge and of the counts.
-/
import ConferenceAuth.Proofs.Session.History

set_option autoImplicit false

namespace ConferenceAuth

/-! ### Tests of the rows of a table -/

namespace Table

variable {α : Type} {key : α → String}

/-- The rows that pass one test and then another. -/
theorem keep_keep (t : Table α key) (p q : α → Bool) :
    (t.keep p).keep q = t.keep fun x => p x && q x := by
  ext1
  simp only [toList_keep, List.filter_filter, Bool.and_comm]

/-- Which of two tests comes first does not matter. -/
theorem keep_comm (t : Table α key) (p q : α → Bool) : (t.keep p).keep q = (t.keep q).keep p := by
  rw [keep_keep, keep_keep]
  simp only [Bool.and_comm]

end Table

/-! ### Expired sessions -/

/-- **What has expired stays expired**, as time goes on. -/
theorem Session.expired_mono {s : Session} {lifetime : Nat} {t₁ t₂ : Int} (h : t₁ ≤ t₂)
    (hs : s.expired t₁ lifetime = true) : s.expired t₂ lifetime = true := by
  rw [expired_iff] at hs ⊢
  omega

/-- At the later of two times that has expired which has at one of them. -/
theorem Session.expired_max (s : Session) (lifetime : Nat) (t₁ t₂ : Int) :
    s.expired (max t₁ t₂) lifetime = (s.expired t₁ lifetime || s.expired t₂ lifetime) := by
  rw [Bool.eq_iff_iff, Bool.or_eq_true]
  constructor
  · intro hs
    rcases Int.le_total t₁ t₂ with h | h
    · exact Or.inr (Int.max_eq_right h ▸ hs)
    · exact Or.inl (Int.max_eq_left h ▸ hs)
  · rintro (hs | hs)
    · exact expired_mono (Int.le_max_left t₁ t₂) hs
    · exact expired_mono (Int.le_max_right t₁ t₂) hs

/-! ### Changes of a store -/

namespace SessionStore

/-- **Two expiries in a row are one**, at the later of their times. -/
theorem expire_expire (t : SessionStore) (t₁ t₂ : Int) (lifetime : Nat) :
    (t.expire t₁ lifetime).expire t₂ lifetime = t.expire (max t₁ t₂) lifetime := by
  unfold expire
  rw [Table.keep_keep]
  simp only [Session.expired_max, Bool.not_or]

/-- Which of two expiries comes first does not matter. -/
theorem expire_comm (t : SessionStore) (t₁ t₂ : Int) (lifetime₁ lifetime₂ : Nat) :
    (t.expire t₁ lifetime₁).expire t₂ lifetime₂ = (t.expire t₂ lifetime₂).expire t₁ lifetime₁ :=
  Table.keep_comm ..

/-- Nor does it matter whether a room is removed before an expiry or after it. -/
theorem expire_removeRoom (t : SessionStore) (t₁ : Int) (lifetime : Nat) (room : String) :
    (t.expire t₁ lifetime).removeRoom room = (t.removeRoom room).expire t₁ lifetime :=
  Table.keep_comm ..

/-- What is removed step by step is removed altogether. -/
theorem dropped_add_dropped {t u v : SessionStore} (hu : u.size ≤ t.size) (hv : v.size ≤ u.size) :
    dropped t u + dropped u v = dropped t v := by
  unfold dropped
  omega

end SessionStore

/-! ### Changes of a keeper -/

namespace Keeper

/-- How many sessions a change removes. -/
def removedBy (k : Keeper × Metrics) (c : StoreChange) : Nat :=
  SessionStore.dropped k.1.sessions (change k c).1.sessions

/-- An expiry leaves the sessions that have not reached the lifetime by the given time. -/
theorem mem_change_expire {k : Keeper × Metrics} {now : Int} {lifetime : Nat} {s : Session} :
    s ∈ (change k (.expire now lifetime)).1.sessions.toList ↔
      s ∈ k.1.sessions.toList ∧ ¬ (s.createdAt ≤ now ∧ lifetime ≤ now - s.createdAt) := by
  have hnone : (StoreChange.expire now lifetime).created? = none := rfl
  rw [mem_change (by rw [hnone]; nofun), hnone]
  exact or_iff_right nofun

/-- The sessions that a change removes are missing afterwards, when it creates none. -/
theorem size_change_expire_add_removedBy (k : Keeper × Metrics) (now : Int) (lifetime : Nat) :
    (change k (.expire now lifetime)).1.sessions.size + removedBy k (.expire now lifetime) =
      k.1.sessions.size :=
  Nat.add_sub_of_le (SessionStore.size_expire_le ..)

end Keeper

/-- **Expiries compose, and they commute with one another and with the removal of a room.**  Of any
keeper, with any sessions, and its metrics,

* an expiry leaves exactly the sessions that have not reached the lifetime by the given time, and it
  removes the others;
* two expiries with one lifetime, the clock going on or back between them, leave what a single one
  leaves at the later of their times, and they remove as many together;
* two expiries with any lifetimes lead to the same in either order;
* so do an expiry and the removal of a room. -/
theorem expiries_compose_and_commute (k : Keeper × Metrics) :
    (∀ (now : Int) (lifetime : Nat),
      (∀ s, s ∈ (Keeper.change k (.expire now lifetime)).1.sessions.toList ↔
        s ∈ k.1.sessions.toList ∧ ¬ (s.createdAt ≤ now ∧ lifetime ≤ now - s.createdAt)) ∧
      (Keeper.change k (.expire now lifetime)).1.sessions.size +
        Keeper.removedBy k (.expire now lifetime) = k.1.sessions.size) ∧
    (∀ (t₁ t₂ : Int) (lifetime : Nat),
      Keeper.replay k [.expire t₁ lifetime, .expire t₂ lifetime] =
        Keeper.replay k [.expire (max t₁ t₂) lifetime] ∧
      Keeper.removedBy k (.expire t₁ lifetime) +
          Keeper.removedBy (Keeper.change k (.expire t₁ lifetime)) (.expire t₂ lifetime) =
        Keeper.removedBy k (.expire (max t₁ t₂) lifetime)) ∧
    (∀ (t₁ t₂ : Int) (lifetime₁ lifetime₂ : Nat),
      Keeper.replay k [.expire t₁ lifetime₁, .expire t₂ lifetime₂] =
        Keeper.replay k [.expire t₂ lifetime₂, .expire t₁ lifetime₁]) ∧
    (∀ (now : Int) (lifetime : Nat) (room : String),
      Keeper.replay k [.expire now lifetime, .removeRoom room] =
        Keeper.replay k [.removeRoom room, .expire now lifetime]) := by
  refine ⟨fun now lifetime =>
      ⟨fun s => Keeper.mem_change_expire, Keeper.size_change_expire_add_removedBy k now lifetime⟩,
    fun t₁ t₂ lifetime => ⟨?_, ?_⟩, fun t₁ t₂ lifetime₁ lifetime₂ => ?_,
    fun now lifetime room => ?_⟩
  -- the gauge shows the last store only, so two changes do what they do to the store
  · exact congrArg (k.1.withSessions k.2)
      (SessionStore.expire_expire k.1.sessions t₁ t₂ lifetime)
  · have hlate : (Keeper.change k (.expire (max t₁ t₂) lifetime)).1.sessions =
        SessionStore.expire (SessionStore.expire k.1.sessions t₁ lifetime) t₂ lifetime :=
      (SessionStore.expire_expire ..).symm
    rw [Keeper.removedBy, Keeper.removedBy, Keeper.removedBy, hlate]
    exact SessionStore.dropped_add_dropped (SessionStore.size_expire_le ..)
      (SessionStore.size_expire_le ..)
  · exact congrArg (k.1.withSessions k.2)
      (SessionStore.expire_comm k.1.sessions t₁ t₂ lifetime₁ lifetime₂)
  · exact congrArg (k.1.withSessions k.2)
      (SessionStore.expire_removeRoom k.1.sessions now lifetime room)

end ConferenceAuth
