/-
**What one step does to the sessions and to the metrics.**

Some of the things that may happen to a keeper write to its store.  A step that writes adds the
session that it creates, or drops some of those that are stored; it leaves the number of the
sessions that are then stored in the gauge, whatever was there before, and the sweeper counts what
it has dropped.  A step that does not write changes neither the sessions nor the metrics.

Main definitions:

* `KeeperStep.session?` — the session that a step creates;
* `Moment.writes` — whether a step writes to the store;
* `Moment.lost`, `Moment.swept` — how many sessions a step drops, and how many the sweeper does.

Main results:

* `Moment.step_cases` — **what a step does**;
* `Moment.mem_or_created_of_mem_step` — where a stored session comes from;
* `Moment.size_step_add_lost`, `Moment.size_step_of_created` — how the number of sessions changes;
* `Moment.active_step`, `Moment.expired_step` — what the gauge and the counter show.
-/
import ConferenceAuth.Proofs.Session.Run

set_option autoImplicit false

namespace ConferenceAuth

/-- Of a table of which no row is kept nothing is left. -/
theorem Table.keep_false {α : Type} {key : α → String} (t : Table α key) :
    t.keep (fun _ => false) = .empty := by
  ext1
  simp

/-- The session that a step creates at a time, if it does. -/
def KeeperStep.session? (now : Int) : KeeperStep → Option Session
  | create id machineUid identity room => some ⟨id, machineUid, identity, room, now⟩
  | _ => none

namespace Moment

/-! ### What a step does -/

/-- Whether a step writes to the store. -/
def writes (x : Moment) : KeeperStep → Bool
  | .get _ => false
  | .conferenceEnded _ => x.keeper.disableAutologin
  | .start runtime => !x.keeper.running && runtime
  | .advance ms => x.keeper.sweeper.any fun w => w.due ≤ x.now + ms
  | _ => true

/-- By how many sessions the store is smaller after a step. -/
def lost (x : Moment) (st : KeeperStep) : Nat :=
  SessionStore.dropped x.keeper.sessions (x.step st).keeper.sessions

/-- How many sessions the sweeper drops in a step. -/
def swept (x : Moment) : KeeperStep → Nat
  | .start runtime => x.lost (.start runtime)
  | .advance ms => x.lost (.advance ms)
  | _ => 0

/-- Where the sweeper goes through the store, what is lost is swept. -/
theorem swept_of_sweeps {x : Moment} {st : KeeperStep} (h : st.Sweeps) :
    st.session? x.now = none ∧ x.swept st = x.lost st := by
  cases st with
  | start runtime => exact ⟨rfl, rfl⟩
  | advance ms => exact ⟨rfl, rfl⟩
  | _ => exact h.elim

theorem swept_of_not_sweeps {x : Moment} {st : KeeperStep} (h : ¬ st.Sweeps) : x.swept st = 0 := by
  cases st with
  | start runtime => exact absurd trivial h
  | advance ms => exact absurd trivial h
  | _ => rfl

/-- **What a step does.**  Either it does not write, and then neither the sessions nor the metrics
change; or it writes, and then a session is added or some are dropped, the gauge shows how many are
stored, and what the sweeper has dropped is counted. -/
theorem step_cases (x : Moment) (st : KeeperStep) :
    (x.writes st = false ∧ (x.step st).keeper.sessions = x.keeper.sessions ∧
      (x.step st).metrics = x.metrics) ∨
    (x.writes st = true ∧
      ((∃ s, st.session? x.now = some s ∧
          (x.step st).keeper.sessions = x.keeper.sessions.insert s) ∨
        (st.session? x.now = none ∧
          ∃ p, (x.step st).keeper.sessions = x.keeper.sessions.keep p)) ∧
      (x.step st).metrics =
        (x.metrics.setActive (x.step st).keeper.sessions.size).addExpired (x.swept st)) := by
  cases st with
  | create id machineUid identity room => exact Or.inr ⟨rfl, Or.inl ⟨_, rfl, rfl⟩, rfl⟩
  | get id => exact Or.inl ⟨rfl, rfl, rfl⟩
  | removeRoom room => exact Or.inr ⟨rfl, Or.inr ⟨rfl, _, rfl⟩, rfl⟩
  | expire asOf lifetime => exact Or.inr ⟨rfl, Or.inr ⟨rfl, _, rfl⟩, rfl⟩
  | clear => exact Or.inr ⟨rfl, Or.inr ⟨rfl, _, (Table.keep_false _).symm⟩, rfl⟩
  | conferenceEnded room =>
      cases hdrop : x.keeper.disableAutologin with
      | false => exact Or.inl (by simp [writes, step, withKeeper, Keeper.conferenceEnded, hdrop])
      | true =>
          have heq : x.step (.conferenceEnded room) = x.step (.removeRoom room) := by
            simp [step, Keeper.conferenceEnded, hdrop]
          refine Or.inr ⟨hdrop, Or.inr ⟨rfl, (·.room != room), ?_⟩, ?_⟩ <;> rw [heq] <;> rfl
  | start runtime =>
      cases hstart : !x.keeper.running && runtime with
      | false =>
          refine Or.inl ⟨hstart, ?_⟩
          simp only [step, withKeeper, Keeper.start]
          split
          · exact ⟨rfl, rfl⟩
          · next hrunning => simp [show runtime = false by simpa [hrunning] using hstart]
      | true =>
          obtain ⟨hrunning, hruntime⟩ := Bool.and_eq_true_iff.1 hstart
          rw [Bool.not_eq_true'] at hrunning
          have heq : x.step (.start runtime) = x.withKeeper
              ({ x.keeper with sweeper := some ⟨x.now + sweepInterval⟩ }.sweep x.metrics x.now) := by
            simp [step, Keeper.start, hrunning, hruntime]
          refine Or.inr ⟨hstart, Or.inr ⟨rfl, fun s => !s.expired x.now x.keeper.lifetime, ?_⟩, ?_⟩
          · rw [heq]
            rfl
          · simp only [swept, lost, heq]
            rfl
  | stop => exact Or.inr ⟨rfl, Or.inr ⟨rfl, _, (Table.keep_false _).symm⟩, rfl⟩
  | advance ms =>
      cases hdue : x.keeper.sweeper.any fun w => w.due ≤ x.now + ms with
      | false =>
          refine Or.inl ⟨hdue, ?_⟩
          simp only [step, withKeeper, Keeper.tick]
          split
          · exact ⟨rfl, rfl⟩
          · next w hw => simp [show ¬ w.due ≤ x.now + ms by simpa [hw] using hdue]
      | true =>
          obtain ⟨w, hw, hle⟩ := (Option.any_eq_true _ _).1 hdue
          have heq : x.step (.advance ms) = { x with now := x.now + ms }.withKeeper
              ({ x.keeper with sweeper := some ⟨nextDue w.due (x.now + ms)⟩ }.sweep
                x.metrics (x.now + ms)) := by
            simp [step, Keeper.tick, hw, of_decide_eq_true hle]
          refine Or.inr ⟨hdue, Or.inr ⟨rfl, fun s => !s.expired (x.now + ms) x.keeper.lifetime, ?_⟩, ?_⟩
          · rw [heq]
            rfl
          · simp only [swept, lost, heq]
            rfl

/-! ### The sessions -/

/-- A step that does not write leaves the sessions alone. -/
theorem sessions_step_of_not_writes (x : Moment) {st : KeeperStep} (h : x.writes st ≠ true) :
    (x.step st).keeper.sessions = x.keeper.sessions := by
  rcases x.step_cases st with ⟨-, heq, -⟩ | ⟨hw, -, -⟩
  · exact heq
  · exact absurd hw h

/-- **A session that is stored after a step was stored before it, or the step has created it.** -/
theorem mem_or_created_of_mem_step {x : Moment} {st : KeeperStep} {s : Session}
    (hs : s ∈ (x.step st).keeper.sessions.toList) :
    s ∈ x.keeper.sessions.toList ∨ st.session? x.now = some s := by
  rcases x.step_cases st with ⟨-, heq, -⟩ | ⟨-, ⟨s', hs', heq⟩ | ⟨-, p, heq⟩, -⟩ <;> rw [heq] at hs
  · exact Or.inl hs
  · rcases List.mem_append.1 hs with hs | hs
    · exact Or.inl (List.mem_filter.1 hs).1
    · rw [List.mem_singleton.1 hs]
      exact Or.inr hs'
  · exact Or.inl (List.mem_filter.1 hs).1

/-- **What a step drops is missing afterwards**, when it creates nothing. -/
theorem size_step_add_lost {x : Moment} {st : KeeperStep} (h : st.session? x.now = none) :
    (x.step st).keeper.sessions.size + x.lost st = x.keeper.sessions.size := by
  have hle : (x.step st).keeper.sessions.size ≤ x.keeper.sessions.size := by
    rcases x.step_cases st with ⟨-, heq, -⟩ | ⟨-, ⟨s, hs, -⟩ | ⟨-, p, heq⟩, -⟩
    · exact Nat.le_of_eq (congrArg Table.size heq)
    · rw [h] at hs
      cases hs
    · rw [heq]
      exact Table.size_keep_le x.keeper.sessions p
  rw [lost, SessionStore.dropped]
  omega

/-- **A session with a new identifier is one more**, and nothing is dropped for it. -/
theorem size_step_of_created {x : Moment} {st : KeeperStep} {s : Session}
    (h : st.session? x.now = some s) (hnew : ∀ y ∈ x.keeper.sessions.toList, y.id ≠ s.id) :
    (x.step st).keeper.sessions.size = x.keeper.sessions.size + 1 := by
  cases st with
  | create id machineUid identity room =>
      cases h
      exact Table.size_insert hnew
  | _ => cases h

/-! ### The metrics -/

/-- The gauge shows the size of the store that a step has written to. -/
theorem active_step (x : Moment) (st : KeeperStep) :
    (x.step st).metrics.active =
      if x.writes st then some (x.step st).keeper.sessions.size else x.metrics.active := by
  rcases x.step_cases st with ⟨hw, -, hm⟩ | ⟨hw, -, hm⟩ <;> rw [hm, hw] <;> rfl

/-- **The counter of expired sessions grows by what the sweeper drops**, and by nothing else. -/
theorem expired_step (x : Moment) (st : KeeperStep) :
    (x.step st).metrics.expired = x.metrics.expired + x.swept st := by
  rcases x.step_cases st with ⟨-, heq, hm⟩ | ⟨-, -, hm⟩
  · have hnone : x.swept st = 0 := by
      by_cases hst : st.Sweeps
      · rw [(swept_of_sweeps hst).2, lost, heq, SessionStore.dropped, Nat.sub_self]
      · exact swept_of_not_sweeps hst
    rw [hm, hnone, Nat.add_zero]
  · rw [hm]
    rfl

end Moment

end ConferenceAuth
