/-
**What becomes of the identifiers of sessions.**

As a backend goes on, sessions are opened under identifiers that have not been given out before, and
are dropped.  So an identifier that has been given out and is unknown to an authority stays unknown
to it for ever.  And a backend that is only enlarged by new authorities leaves the others alone; the
new ones know nobody.

Main definitions:

* `Backend.Follows` — a backend comes after another one;
* `Backend.Enlarged` — a backend has more authorities than another one, and that is all.

Main results:

* `Backend.Follows.session?_eq_some` — **what has been forgotten is never known again**;
* `Backend.follows_tend`, `Backend.follows_authenticate`, `Chain.follows_router` — whatever happens,
  what comes after it follows;
* `Backend.Enlarged.stepAt` — a new authority may be started and stopped;
* `Backend.Enlarged.follows`.
-/
import ConferenceAuth.Proofs.Http.Disclosure

set_option autoImplicit false

namespace ConferenceAuth

namespace Backend

/-! ### One after the other -/

/-- **A backend comes after another one**: identifiers of sessions have been given out from the same
source, and what is stored was stored before or has got one that is new. -/
structure Follows (b b' : Backend) : Prop where
  nth : b'.sessionIds.nth = b.sessionIds.nth
  issued : b.sessionIds.issued ≤ b'.sessionIds.issued
  stores : ∀ a s, b'.Stores a s → b.Stores a s ∨
    (¬ b.sessionIds.HasIssued s.id ∧ b'.sessionIds.HasIssued s.id)

namespace Follows

variable {b b' b'' : Backend}

/-- What has been given out stays given out. -/
theorem hasIssued (h : b.Follows b') {id : String} (hid : b.sessionIds.HasIssued id) :
    b'.sessionIds.HasIssued id := by
  obtain ⟨n, hn, rfl⟩ := hid
  exact ⟨n, Nat.lt_of_lt_of_le hn h.issued, congrFun h.nth n⟩

theorem distinct (h : b.Follows b') (hids : b.sessionIds.Distinct) : b'.sessionIds.Distinct := by
  intro m n hmn
  rw [h.nth] at hmn
  exact hids m n hmn

/-- What is stored has identifiers that have been given out. -/
theorem hasIssued_of_stores (h : b.Follows b')
    (hissued : ∀ a s, b.Stores a s → b.sessionIds.HasIssued s.id) (a : AuthorityRef) (s : Session)
    (hs : b'.Stores a s) : b'.sessionIds.HasIssued s.id := by
  rcases h.stores a s hs with hs | ⟨-, hs⟩
  · exact h.hasIssued (hissued a s hs)
  · exact hs

/-- Where no identifier is given out and nothing is stored anew, a backend goes on. -/
theorem of_stores (hids : b'.sessionIds = b.sessionIds)
    (hstores : ∀ a s, b'.Stores a s → b.Stores a s) : b.Follows b' :=
  ⟨by rw [hids], Nat.le_of_eq (by rw [hids]), fun a s hs => Or.inl (hstores a s hs)⟩

theorem refl (b : Backend) : b.Follows b := of_stores rfl fun _ _ hs => hs

theorem trans (h : b.Follows b') (h' : b'.Follows b'') : b.Follows b'' := by
  refine ⟨h'.nth.trans h.nth, Nat.le_trans h.issued h'.issued, fun a s hs => ?_⟩
  rcases h'.stores a s hs with hs | ⟨hnew, hs⟩
  · exact (h.stores a s hs).imp_right fun ⟨hnew, hs⟩ => ⟨hnew, h'.hasIssued hs⟩
  · exact Or.inr ⟨fun hold => hnew (h.hasIssued hold), hs⟩

/-- **What has been forgotten is never known again**: who knows an identifier that was given out
before has known it then. -/
theorem session?_eq_some (h : b.Follows b') {id : String} (hid : b.sessionIds.HasIssued id)
    {a : AuthorityRef} {s : Session} (hs : b'.session? a id = some s) :
    b.session? a id = some s := by
  rw [session?_eq_some_iff] at hs ⊢
  obtain ⟨hs, rfl⟩ := hs
  exact ⟨(h.stores a s hs).resolve_right fun hnew => hnew.1 hid, rfl⟩

/-- Only the authorities and the identifiers matter. -/
theorem congr (h : b.Follows b') (has : b''.authorities = b'.authorities)
    (hids : b''.sessionIds = b'.sessionIds) : b.Follows b'' := by
  refine h.trans (of_stores hids fun a s hs => ?_)
  rw [Stores, authority?, has] at hs
  exact hs

end Follows

/-! ### What may happen -/

/-- Upkeep opens no session. -/
theorem follows_tend (b : Backend) (u : Upkeep) : b.Follows (b.tend u) :=
  .of_stores (b.sessionIds_tend u) fun _ _ => stores_of_stores_tend

/-- A session that is opened gets an identifier that is new. -/
theorem follows_openSession {b : Backend} (hids : b.sessionIds.Distinct) (a : AuthorityRef)
    (machineUid identity room : String) :
    b.Follows (b.openSession a machineUid identity room).2 := by
  rw [openSession_eq_stepAt]
  refine ⟨rfl, Nat.le_succ b.sessionIds.issued, fun a' s hs => ?_⟩
  rcases stores_of_stores_stepAt hs with hs | ⟨-, hs⟩
  · exact Or.inl hs
  · cases hs
    exact Or.inr ⟨hids.not_hasIssued_current, b.sessionIds.hasIssued_advance_current⟩

theorem follows_authenticate {b : Backend} (hids : b.sessionIds.Distinct) (a : AuthorityRef)
    (machineUid identity room : String) :
    b.Follows (b.authenticate a machineUid identity room).2 := by
  rcases b.authenticate_cases a machineUid identity room with ⟨-, heq⟩ | heq <;> rw [heq]
  · exact follows_openSession hids a machineUid identity room
  · exact .refl b

end Backend

theorem Chain.follows_router (c : Chain) (r : Request) {b : Backend}
    (hids : b.sessionIds.Distinct) : b.Follows (c.router r b).2 := by
  rcases c.router_cases r b with ⟨a, machineUid, identity, room, -, heq, -⟩ | ⟨has, hsame, -⟩
  · rw [heq]
    exact (Backend.follows_openSession hids a machineUid identity room).congr rfl rfl
  · exact (Backend.Follows.refl b).congr has hsame

/-! ### More authorities -/

namespace Backend

/-- **A backend has more authorities than another one, and that is all**: those that were there are
as they were, and the new ones have no sessions. -/
structure Enlarged (b b' : Backend) : Prop where
  kept : ∀ a x, b.authority? a = some x → b'.authority? a = some x
  added : ∀ a x, b.authority? a = none → b'.authority? a = some x → x.keeper.sessions = .empty
  sessionIds : b'.sessionIds = b.sessionIds

namespace Enlarged

variable {b b' b'' : Backend}

theorem refl (b : Backend) : b.Enlarged b where
  kept _ _ hx := hx
  added _ _ hnone hx := nomatch hnone.symm.trans hx
  sessionIds := rfl

/-- Only the authorities and the identifiers matter. -/
theorem congr (h : b.Enlarged b') (has : b''.authorities = b'.authorities)
    (hids : b''.sessionIds = b'.sessionIds) : b.Enlarged b'' := by
  have hauthority : b''.authority? = b'.authority? := by
    funext a
    rw [authority?, has, authority?]
  exact ⟨hauthority ▸ h.kept, hauthority ▸ h.added, hids.trans h.sessionIds⟩

/-- **A new authority may take any step in which no session is opened.** -/
theorem stepAt (h : b.Enlarged b') {r : AuthorityRef} (hr : b.authority? r = none)
    {st : KeeperStep} (hst : st.session? b'.now = none) : b.Enlarged (b'.stepAt r st) := by
  refine ⟨fun a x hx => ?_, fun a y hnone hy => ?_, (b'.sessionIds_stepAt r st).trans h.sessionIds⟩
  · have hne : r ≠ a := by
      rintro rfl
      rw [hr] at hx
      cases hx
    rw [authority?_stepAt, h.kept a x hx, Option.map_some, if_neg hne]
  · rw [authority?_stepAt] at hy
    obtain ⟨x, hx, rfl⟩ := Option.map_eq_some_iff.1 hy
    have hempty := h.added a x hnone hx
    split
    · -- what it stores now, it would have stored before
      refine Table.ext (List.eq_nil_iff_forall_not_mem.2 fun s hs => ?_)
      rcases Moment.mem_or_created_of_mem_step hs with hs | hs
      · rw [moment, hempty] at hs
        cases hs
      · rw [moment, hst] at hs
        cases hs
    · exact hempty

/-- What stores nothing new comes after what was there. -/
theorem follows (h : b.Enlarged b') : b.Follows b' := by
  refine .of_stores h.sessionIds fun a s hs => ?_
  obtain ⟨x, hx, hs⟩ := hs
  cases hold : b.authority? a with
  | none =>
      rw [h.added a x hold hx] at hs
      cases hs
  | some y =>
      obtain rfl : y = x := Option.some.inj ((h.kept a y hold).symm.trans hx)
      exact ⟨y, hold, hs⟩

end Enlarged

theorem enlarged_enroll (b : Backend) (variant : AuthorityVariant) (config : GatewayConfig) :
    b.Enlarged (b.enroll (.ofVariant variant config)) := by
  refine ⟨fun a x hx => ?_, fun a x hnone hx => ?_, rfl⟩
  · exact (List.getElem?_append_left (List.getElem?_eq_some_iff.1 hx).1).trans hx
  · rw [authority?, List.getElem?_eq_none_iff] at hnone
    rw [authority?, enroll, List.getElem?_append_right hnone] at hx
    rw [List.mem_singleton.1 (List.mem_of_getElem? hx)]
    rfl

end Backend

end ConferenceAuth
