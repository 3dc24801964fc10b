/-
**Where the sessions have gone.**

A session that has been created is stored until it is dropped, and there are three ways to be told
of a session that is dropped: who asks for the sessions of a room or for the expired ones to be
dropped gets their number for an answer; what the sweeper drops is counted; and nobody is told when
the sessions are dropped because a conference has ended, or all of them at once.  Together with the
sessions that are still stored these are all sessions that have ever been created, and the gauge
shows how many are stored.

Main definitions:

* `KeeperStep.newId?`, `createdIds` — the identifiers of the sessions that are created;
* `Moment.returned?`, `Moment.untold` — the number that a step answers with, and the number of the
  sessions that it drops without telling anybody;
* `Moment.total` — a number summed up over a run.

Main results:

* `Moment.lost_eq` — a session is dropped in one of the three ways;
* `Moment.balance_step`, `Moment.balance_run` — **the account of a step and of a run**;
* `created_sessions_are_accounted_for` — the account of a new keeper, with its gauge and its counter.
-/
import ConferenceAuth.Proofs.Session.Effect

set_option autoImplicit false

namespace ConferenceAuth

/-! ### Identifiers -/

/-- The identifier of the session that a step creates, if it does. -/
def KeeperStep.newId? : KeeperStep → Option String
  | create id _ _ _ => some id
  | _ => none

theorem KeeperStep.newId?_eq (st : KeeperStep) (now : Int) :
    st.newId? = (st.session? now).map (·.id) := by
  cases st <;> rfl

/-- The identifiers of the sessions that a row of steps creates, in order. -/
def createdIds (steps : List KeeperStep) : List String := steps.filterMap KeeperStep.newId?

theorem createdIds_cons (st : KeeperStep) (steps : List KeeperStep) :
    createdIds (st :: steps) = st.newId?.toList ++ createdIds steps := by
  rw [createdIds, List.filterMap_cons]
  cases st.newId? <;> rfl

namespace Moment

/-! ### Three ways to be dropped -/

/-- The number that a step answers with, if it does: how many sessions were dropped. -/
def returned? (x : Moment) : KeeperStep → Option Nat
  | .removeRoom room =>
      some (SessionStore.dropped x.keeper.sessions (SessionStore.removeRoom x.keeper.sessions room))
  | .expire asOf lifetime =>
      some (SessionStore.dropped x.keeper.sessions
        (SessionStore.expire x.keeper.sessions asOf lifetime))
  | _ => none

def returned (x : Moment) (st : KeeperStep) : Nat := (x.returned? st).getD 0

/-- How many sessions a step drops without telling anybody. -/
def untold (x : Moment) : KeeperStep → Nat
  | .conferenceEnded room => x.lost (.conferenceEnded room)
  | .clear => x.lost .clear
  | .stop => x.lost .stop
  | _ => 0

/-- The number that a step answers with is that of the sessions that it drops. -/
theorem lost_of_returned? {x : Moment} {st : KeeperStep} {n : Nat} (h : x.returned? st = some n) :
    st.session? x.now = none ∧ x.lost st = n := by
  cases st <;> cases h <;> exact ⟨rfl, rfl⟩

/-- **A session is dropped in one of three ways.** -/
theorem lost_eq {x : Moment} {st : KeeperStep} (h : st.session? x.now = none) :
    x.lost st = x.returned st + x.swept st + x.untold st := by
  cases st with
  | create id machineUid identity room => cases h
  | get id => exact Nat.sub_self _
  | removeRoom room => rfl
  | expire asOf lifetime => rfl
  | _ => simp [returned, returned?, swept, untold]

/-! ### The account -/

/-- **The account of a step.** -/
theorem balance_step {x : Moment} {st : KeeperStep}
    (hnew : ∀ id, st.newId? = some id → ∀ s ∈ x.keeper.sessions.toList, s.id ≠ id) :
    x.keeper.sessions.size + x.metrics.expired + st.newId?.toList.length =
      (x.step st).keeper.sessions.size + (x.step st).metrics.expired +
        x.returned st + x.untold st := by
  rw [expired_step]
  cases hs : st.session? x.now with
  | none =>
      have hid : st.newId? = none := by rw [st.newId?_eq x.now, hs]; rfl
      have hsize := size_step_add_lost hs
      rw [lost_eq hs] at hsize
      rw [hid, Option.toList_none, List.length_nil]
      omega
  | some s =>
      have hid : st.newId? = some s.id := by rw [st.newId?_eq x.now, hs]; rfl
      have hsize := size_step_of_created hs (hnew s.id hid)
      cases st with
      | create id machineUid identity room =>
          rw [hsize]
          simp only [KeeperStep.newId?, Option.toList_some, List.length_singleton, returned,
            returned?, swept, untold, Option.getD_none]
          omega
      | _ => cases hs

/-- A number summed up over a run. -/
def total (f : Moment → KeeperStep → Nat) (x : Moment) : List KeeperStep → Nat
  | [] => 0
  | st :: steps => f x st + total f (x.step st) steps

/-- **The account of a run** in which no identifier is used twice. -/
theorem balance_run {x : Moment} {steps : List KeeperStep}
    (hnew : ∀ s ∈ x.keeper.sessions.toList, s.id ∉ createdIds steps)
    (hids : (createdIds steps).Nodup) :
    x.keeper.sessions.size + x.metrics.expired + (createdIds steps).length =
      (x.run steps).keeper.sessions.size + (x.run steps).metrics.expired +
        x.total returned steps + x.total untold steps := by
  induction steps generalizing x with
  | nil => rfl
  | cons st steps ih =>
      rw [createdIds_cons] at hnew hids ⊢
      obtain ⟨-, hlater, hdisjoint⟩ := List.nodup_append.1 hids
      have hfresh : ∀ id, st.newId? = some id → ∀ s ∈ x.keeper.sessions.toList, s.id ≠ id := by
        rintro id hid s hs rfl
        exact hnew s hs (List.mem_append_left _ (by simp [hid]))
      have hnew' : ∀ s ∈ (x.step st).keeper.sessions.toList, s.id ∉ createdIds steps := by
        intro s hs hmem
        rcases mem_or_created_of_mem_step hs with hs | hs
        · exact hnew s hs (List.mem_append_right _ hmem)
        · have hid : st.newId? = some s.id := by rw [st.newId?_eq x.now, hs]; rfl
          exact hdisjoint s.id (by simp [hid]) s.id hmem rfl
      have hstep := balance_step hfresh
      have hrun := ih hnew' hlater
      rw [run_cons, total, total, List.length_append]
      omega

/-- **The gauge shows how many sessions are stored**, unless nothing has been written yet. -/
theorem gauge_step {x : Moment} (st : KeeperStep)
    (h : x.metrics.active = none ∧ x.keeper.sessions = .empty ∨
      x.metrics.active = some x.keeper.sessions.size) :
    (x.step st).metrics.active = none ∧ (x.step st).keeper.sessions = .empty ∨
      (x.step st).metrics.active = some (x.step st).keeper.sessions.size := by
  rcases x.step_cases st with ⟨-, hsessions, hmetrics⟩ | ⟨hw, -, -⟩
  · rw [hsessions, hmetrics]
    exact h
  · right
    rw [active_step, if_pos hw]

end Moment

/-! ### A new keeper -/

/-- **Created sessions are accounted for.**  Take any run of a new keeper in which no identifier is
used for two sessions, with a gauge that has not been touched before.  Afterwards

* the gauge shows how many sessions are stored, or it is still untouched, and then none are;
* the sessions that have been created are those that are stored, those that were dropped with a
  number for an answer, those that the counter of expired sessions has grown by, and those that were
  dropped when a conference ended or together with all others;
* if the sweeper goes through the store in the next step, the counter grows by the number of the
  sessions that are missing afterwards, and otherwise it stays as it is;
* the number that the next step answers with, if it does, is that of the sessions that are missing
  afterwards. -/
theorem created_sessions_are_accounted_for (lifetime : Nat) (disableAutologin : Bool) (now : Int)
    {m : Metrics} (hm : m.active = none) {steps : List KeeperStep}
    (hids : (createdIds steps).Nodup) :
    let new := Moment.new lifetime disableAutologin now m
    let x := new.run steps
    (x.metrics.active = none ∧ x.keeper.sessions = .empty ∨
      x.metrics.active = some x.keeper.sessions.size) ∧
    (createdIds steps).length + m.expired =
      x.keeper.sessions.size + new.total Moment.returned steps + x.metrics.expired +
        new.total Moment.untold steps ∧
    ∀ st : KeeperStep,
      (st.Sweeps → ∃ n, (x.step st).metrics.expired = x.metrics.expired + n ∧
        (x.step st).keeper.sessions.size + n = x.keeper.sessions.size) ∧
      (¬ st.Sweeps → (x.step st).metrics.expired = x.metrics.expired) ∧
      (∀ n, x.returned? st = some n →
        (x.step st).keeper.sessions.size + n = x.keeper.sessions.size) := by
  intro new x
  refine ⟨?_, ?_, fun st => ⟨fun hst => ?_, fun hst => ?_, fun n hn => ?_⟩⟩
  · exact Moment.run_induction
      (P := fun y => y.metrics.active = none ∧ y.keeper.sessions = .empty ∨
        y.metrics.active = some y.keeper.sessions.size)
      (Or.inl ⟨hm, rfl⟩) (fun y hy st => Moment.gauge_step st hy) steps
  · have hnew : ∀ s ∈ new.keeper.sessions.toList, s.id ∉ createdIds steps := by
      intro s hs
      cases hs
    have hempty : new.keeper.sessions.size = 0 := rfl
    have hexpired : new.metrics.expired = m.expired := rfl
    have haccount := Moment.balance_run hnew hids
    rw [hempty, hexpired] at haccount
    show (createdIds steps).length + m.expired =
      (new.run steps).keeper.sessions.size + new.total Moment.returned steps +
        (new.run steps).metrics.expired + new.total Moment.untold steps
    omega
  · obtain ⟨hnone, hswept⟩ := Moment.swept_of_sweeps (x := x) hst
    exact ⟨x.lost st, by rw [Moment.expired_step, hswept], Moment.size_step_add_lost hnone⟩
  · rw [Moment.expired_step, Moment.swept_of_not_sweeps hst, Nat.add_zero]
  · obtain ⟨hnone, rfl⟩ := Moment.lost_of_returned? hn
    exact Moment.size_step_add_lost hnone

/-- Of four sessions one is dropped on request, one by the sweeper and one with its conference; one
is left. -/
theorem account_of_four_sessions :
    let steps : List KeeperStep :=
      [.create "1" "m1" "alice" "hall", .create "2" "m2" "bob" "yard", .start true,
        .removeRoom "hall", .advance 20000, .create "3" "m3" "carol" "hall",
        .create "4" "m4" "dave" "yard", .conferenceEnded "hall", .get "4"]
    let new := Moment.new 15000 true 0 {}
    let x := new.run steps
    [(createdIds steps).length, x.keeper.sessions.size, new.total Moment.returned steps,
        x.metrics.expired, new.total Moment.untold steps] = [4, 1, 1, 1, 1] ∧
      x.metrics.active = some x.keeper.sessions.size ∧
      (createdIds steps).length + 0 = x.keeper.sessions.size +
        new.total Moment.returned steps + x.metrics.expired + new.total Moment.untold steps := by
  intro steps new x
  obtain ⟨hgauge, haccount, -⟩ :=
    @created_sessions_are_accounted_for 15000 true 0 {} rfl steps (by decide)
  refine ⟨by decide, hgauge.resolve_left ?_, haccount⟩
  rintro ⟨huntouched, -⟩
  exact absurd huntouched (by decide)

end ConferenceAuth
