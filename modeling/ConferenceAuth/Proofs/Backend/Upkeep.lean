/-
**What happens to stored sessions without a login.**

Whatever is done to one authority of a backend is a step of its keeper, with the time and the
metrics of the backend, and leaves the other authorities alone; and when time passes, every keeper
takes a step.  So what is known of the steps of a keeper holds of a backend: sessions are stored
that were stored before, and besides them only the session that is being opened.

Main definitions:

* `Backend.Stores` — an authority of a backend stores a session;
* `Backend.moment`, `Backend.stepAt` — an authority at the time of the backend, and a step of it;
* `Upkeep`, `Backend.tend` — what happens to a backend without a session being opened.

Main results:

* `Backend.session?_eq_some_iff` — a look-up finds what is stored;
* `Backend.stores_of_stores_stepAt` — where the sessions of a backend come from;
* `Backend.authority?_elapse` — as time passes, every keeper takes a step;
* `Backend.tend_cases` — what upkeep does;
* `Backend.stores_of_stores_tend` — **no session appears without being opened**.
-/
import ConferenceAuth.Backend
import ConferenceAuth.Proofs.Session.Effect

set_option autoImplicit false

namespace ConferenceAuth

namespace Backend

/-- **An authority stores a session.** -/
def Stores (b : Backend) (a : AuthorityRef) (s : Session) : Prop :=
  ∃ x, b.authority? a = some x ∧ s ∈ x.keeper.sessions.toList

instance (b : Backend) (a : AuthorityRef) (s : Session) : Decidable (b.Stores a s) :=
  decidable_of_iff ((b.authority? a).any fun x => decide (s ∈ x.keeper.sessions.toList)) <| by
    simp [Stores, Option.any_eq_true]

/-- **A look-up finds the stored session that has the identifier.** -/
theorem session?_eq_some_iff {b : Backend} {a : AuthorityRef} {id : String} {s : Session} :
    b.session? a id = some s ↔ b.Stores a s ∧ s.id = id := by
  constructor
  · intro h
    obtain ⟨x, hx, hs⟩ := Option.bind_eq_some_iff.1 h
    obtain ⟨hmem, hid⟩ := Table.find?_eq_some_iff.1 hs
    exact ⟨⟨x, hx, hmem⟩, hid⟩
  · rintro ⟨⟨x, hx, hs⟩, hid⟩
    rw [session?, hx]
    exact Table.find?_eq_some_iff.2 ⟨hs, hid⟩

/-- The number that the next authority gets is that of none. -/
theorem authority?_nextRef (b : Backend) : b.authority? b.nextRef = none :=
  List.getElem?_eq_none (Nat.le_refl _)

/-! ### One authority -/

/-- An authority, with the time and the metrics of its backend. -/
def moment (b : Backend) (x : Authority) : Moment := ⟨b.now, x.keeper, b.metrics⟩

/-- **The backend after a step of one of its authorities.** -/
def stepAt (b : Backend) (a : AuthorityRef) (st : KeeperStep) : Backend :=
  match b.authority? a with
  | none => b
  | some x => b.updateKeeper a (((b.moment x).step st).keeper, ((b.moment x).step st).metrics)

theorem conferenceEnded_eq_stepAt (b : Backend) (a : AuthorityRef) (room : String) :
    b.conferenceEnded a room = b.stepAt a (.conferenceEnded room) := rfl

theorem stopAuthority_eq_stepAt (b : Backend) (a : AuthorityRef) :
    b.stopAuthority a = b.stepAt a .stop := rfl

theorem startAuthority_eq_stepAt (b : Backend) (a : AuthorityRef) (runtime : Bool) :
    (b.startAuthority a runtime).2 = b.stepAt a (.start runtime) := by
  unfold startAuthority stepAt
  cases b.authority? a <;> rfl

/-- A session that is opened is created at its authority. -/
theorem openSession_eq_stepAt (b : Backend) (a : AuthorityRef)
    (machineUid identity room : String) :
    (b.openSession a machineUid identity room).2 =
      { b.stepAt a (.create b.sessionIds.current machineUid identity room) with
        sessionIds := b.sessionIds.advance } := rfl

/-- A step of one authority leaves the others alone. -/
theorem authority?_stepAt (b : Backend) (a a' : AuthorityRef) (st : KeeperStep) :
    (b.stepAt a st).authority? a' =
      (b.authority? a').map fun x =>
        if a = a' then { x with keeper := ((b.moment x).step st).keeper } else x := by
  unfold stepAt
  cases ha : b.authority? a with
  | none =>
      by_cases h : a = a'
      · subst h
        simp [ha]
      · simp [h]
  | some x =>
      rw [authority?_updateKeeper]
      by_cases h : a = a'
      · subst h
        simp [ha]
      · simp [h]

/-- **A session that is stored after a step was stored before it, or the step has created it.** -/
theorem stores_of_stores_stepAt {b : Backend} {a a' : AuthorityRef} {st : KeeperStep} {s : Session}
    (h : (b.stepAt a st).Stores a' s) :
    b.Stores a' s ∨ (a' = a ∧ st.session? b.now = some s) := by
  obtain ⟨x', hx', hs⟩ := h
  rw [authority?_stepAt] at hx'
  obtain ⟨x, hx, rfl⟩ := Option.map_eq_some_iff.1 hx'
  by_cases heq : a = a'
  · simp only [if_pos heq] at hs
    rcases Moment.mem_or_created_of_mem_step hs with hs | hs
    · exact Or.inl ⟨x, hx, hs⟩
    · exact Or.inr ⟨heq.symm, hs⟩
  · simp only [if_neg heq] at hs
    exact Or.inl ⟨x, hx, hs⟩

/-! ### All authorities -/

/-- Whom a sweep leaves does not depend on what has been measured. -/
theorem authorities_tickAll (now : Int) (as : List Authority) (m m' : Metrics) :
    (tickAll now as m).1 = as.map fun x => { x with keeper := (x.keeper.tick m' now).1 } := by
  have hkeeper : ∀ (k : Keeper) (m : Metrics), (k.tick m now).1 = (k.tick m' now).1 := by
    intro k m
    unfold Keeper.tick
    split
    · rfl
    · split <;> rfl
  induction as generalizing m with
  | nil => rfl
  | cons x as ih =>
      simp only [tickAll, Authority.withKeeper, List.map_cons, ih, hkeeper x.keeper m]

/-- **As time passes, every authority takes a step.** -/
theorem authority?_elapse (b : Backend) (ms : Nat) (a : AuthorityRef) :
    (b.elapse ms).authority? a =
      (b.authority? a).map fun x =>
        { x with keeper := ((b.moment x).step (.advance ms)).keeper } := by
  show (tickAll (b.now + ms) b.authorities b.metrics).1[a]? = _
  rw [authorities_tickAll (b.now + ms) b.authorities b.metrics b.metrics, List.getElem?_map]
  rfl

theorem stores_of_stores_elapse {b : Backend} {ms : Nat} {a : AuthorityRef} {s : Session}
    (h : (b.elapse ms).Stores a s) : b.Stores a s := by
  obtain ⟨x', hx', hs⟩ := h
  rw [authority?_elapse] at hx'
  obtain ⟨x, hx, rfl⟩ := Option.map_eq_some_iff.1 hx'
  rcases Moment.mem_or_created_of_mem_step hs with hs | hs
  · exact ⟨x, hx, hs⟩
  · cases hs

end Backend

/-! ### Upkeep -/

/-- What happens to a backend without a session being opened. -/
inductive Upkeep where
  /-- An authority is built, not running and without sessions. -/
  | enroll (variant : AuthorityVariant) (config : GatewayConfig)
  | conferenceEnded (a : AuthorityRef) (room : String)
  | start (a : AuthorityRef) (runtime : Bool)
  | stop (a : AuthorityRef)
  | elapse (ms : Nat)
  | setReady (x : HealthRef) (ready : Bool)

namespace Backend

def tend (b : Backend) : Upkeep → Backend
  | .enroll variant config => b.enroll (.ofVariant variant config)
  | .conferenceEnded a room => b.conferenceEnded a room
  | .start a runtime => (b.startAuthority a runtime).2
  | .stop a => b.stopAuthority a
  | .elapse ms => b.elapse ms
  | .setReady x ready => b.setReady x ready

/-- **What upkeep does.**  One authority takes a step in which no session is opened, or one is built,
or time passes, or a health state changes. -/
theorem tend_cases (b : Backend) (u : Upkeep) :
    (∃ a st, b.tend u = b.stepAt a st ∧ st.session? b.now = none) ∨
    (∃ variant config, b.tend u = b.enroll (.ofVariant variant config)) ∨
    (∃ ms, b.tend u = b.elapse ms) ∨
    (∃ x ready, b.tend u = b.setReady x ready) := by
  cases u with
  | enroll variant config => exact Or.inr (Or.inl ⟨variant, config, rfl⟩)
  | conferenceEnded a room =>
      exact Or.inl ⟨a, .conferenceEnded room, b.conferenceEnded_eq_stepAt a room, rfl⟩
  | start a runtime => exact Or.inl ⟨a, .start runtime, b.startAuthority_eq_stepAt a runtime, rfl⟩
  | stop a => exact Or.inl ⟨a, .stop, b.stopAuthority_eq_stepAt a, rfl⟩
  | elapse ms => exact Or.inr (Or.inr (Or.inl ⟨ms, rfl⟩))
  | setReady x ready => exact Or.inr (Or.inr (Or.inr ⟨x, ready, rfl⟩))

/-- An authority that is built stores nothing. -/
theorem stores_of_stores_enroll {b : Backend} {variant : AuthorityVariant} {config : GatewayConfig}
    {a : AuthorityRef} {s : Session} (h : (b.enroll (.ofVariant variant config)).Stores a s) :
    b.Stores a s := by
  obtain ⟨x, hx, hs⟩ := h
  rw [authority?, enroll, List.getElem?_append] at hx
  split at hx
  · exact ⟨x, hx, hs⟩
  · have hnew : x = .ofVariant variant config :=
      List.mem_singleton.1 (List.mem_of_getElem? hx)
    subst hnew
    cases hs

/-- The first authority that is built has no sessions, and there is no other one. -/
theorem not_stores_enroll_of_nil {b : Backend} (hnil : b.authorities = [])
    {variant : AuthorityVariant} {config : GatewayConfig} {a : AuthorityRef} {s : Session} :
    ¬ (b.enroll (.ofVariant variant config)).Stores a s := by
  intro h
  obtain ⟨x, hx, -⟩ := stores_of_stores_enroll h
  rw [authority?, hnil] at hx
  cases hx

/-- **No session appears without being opened.** -/
theorem stores_of_stores_tend {b : Backend} {u : Upkeep} {a : AuthorityRef} {s : Session}
    (h : (b.tend u).Stores a s) : b.Stores a s := by
  rcases b.tend_cases u with ⟨a', st, heq, hst⟩ | ⟨variant, config, heq⟩ | ⟨ms, heq⟩ |
    ⟨x, ready, heq⟩ <;> rw [heq] at h
  · rcases stores_of_stores_stepAt h with h | ⟨-, hcreated⟩
    · exact h
    · rw [hst] at hcreated
      cases hcreated
  · exact stores_of_stores_enroll h
  · exact stores_of_stores_elapse h
  · exact h

theorem sessionIds_stepAt (b : Backend) (a : AuthorityRef) (st : KeeperStep) :
    (b.stepAt a st).sessionIds = b.sessionIds := by
  unfold stepAt
  split <;> rfl

/-- Upkeep uses no identifier of a session. -/
theorem sessionIds_tend (b : Backend) (u : Upkeep) : (b.tend u).sessionIds = b.sessionIds := by
  rcases b.tend_cases u with ⟨a, st, heq, -⟩ | ⟨variant, config, heq⟩ | ⟨ms, heq⟩ |
    ⟨x, ready, heq⟩ <;> rw [heq]
  · exact b.sessionIds_stepAt a st
  · rfl
  · rfl
  · rfl

theorem isSome_authority?_stepAt (b : Backend) (a a' : AuthorityRef) (st : KeeperStep) :
    ((b.stepAt a st).authority? a').isSome = (b.authority? a').isSome := by
  rw [authority?_stepAt, Option.isSome_map]

/-- Whoever refers to an authority finds it there afterwards. -/
theorem isSome_authority?_tend {b : Backend} {a : AuthorityRef} (h : (b.authority? a).isSome = true)
    (u : Upkeep) : ((b.tend u).authority? a).isSome = true := by
  rcases b.tend_cases u with ⟨a', st, heq, -⟩ | ⟨variant, config, heq⟩ | ⟨ms, heq⟩ |
    ⟨x, ready, heq⟩ <;> rw [heq]
  · rw [isSome_authority?_stepAt]
    exact h
  · obtain ⟨x, hx⟩ := Option.isSome_iff_exists.1 h
    have hkept : (b.enroll (.ofVariant variant config)).authority? a = some x :=
      (List.getElem?_append_left (List.getElem?_eq_some_iff.1 hx).1).trans hx
    rw [hkept]
    rfl
  · rw [authority?_elapse, Option.isSome_map]
    exact h
  · exact h

end Backend

end ConferenceAuth
