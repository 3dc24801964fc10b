/-
**How old a stored session can get.**

A look-up never asks for the age of a session, so nothing but the schedule of the sweeps keeps an
old session from being honoured.  While a keeper runs, the next sweep lies ahead, and it is due no
later than one interval after the first of the stored sessions reaches its lifetime; so no session
is ever older than the lifetime by an interval or more.  And a sweep takes only what has reached
the lifetime.

Main definitions:

* `Keeper.OnTime` — what holds of a keeper at every time of a run.

Main results:

* `Keeper.mem_sweep` — what a sweep leaves;
* `Moment.onTime_step` — every step keeps a keeper on time;
* `age_bounded_and_young_sessions_kept` — **a session of a running keeper is younger than its
  lifetime and one interval, and no sweep removes a session younger than its lifetime**.
-/
import ConferenceAuth.Proofs.Session.Run

set_option autoImplicit false

namespace ConferenceAuth

namespace Keeper

/-! ### What a sweep leaves -/

/-- **A sweep leaves what has not reached the lifetime.** -/
theorem mem_sweep {k : Keeper} {m : Metrics} {now : Int} {s : Session} :
    s ∈ (k.sweep m now).1.sessions.toList ↔
      s ∈ k.sessions.toList ∧ s.expired now k.lifetime = false := by
  simp [sweep, expire, SessionStore.expire]

/-- A session that is younger than the lifetime has not reached it. -/
theorem expired_eq_false_of_young {s : Session} {now : Int} {lifetime : Nat}
    (h : now - s.createdAt < lifetime) : s.expired now lifetime = false := by
  rw [Bool.eq_false_iff, ne_eq, Session.expired_iff]
  omega

/-- A start keeps the sessions that are younger than the lifetime. -/
theorem mem_start_of_young {k : Keeper} {m : Metrics} {now : Int} {runtime : Bool} {s : Session}
    (hs : s ∈ k.sessions.toList) (hyoung : now - s.createdAt < k.lifetime) :
    s ∈ (k.start m now runtime).2.1.sessions.toList := by
  unfold start
  split
  · exact hs
  · split
    · exact mem_sweep.2 ⟨hs, expired_eq_false_of_young hyoung⟩
    · exact hs

theorem mem_tick_of_young {k : Keeper} {m : Metrics} {now : Int} {s : Session}
    (hs : s ∈ k.sessions.toList) (hyoung : now - s.createdAt < k.lifetime) :
    s ∈ (k.tick m now).1.sessions.toList := by
  unfold tick
  split
  · exact hs
  · split
    · exact mem_sweep.2 ⟨hs, expired_eq_false_of_young hyoung⟩
    · exact hs

/-! ### Keepers on time -/

/-- What holds of a keeper at every time of a run. -/
structure OnTime (k : Keeper) (now : Int) : Prop where
  /-- No session comes from the future. -/
  createdAt_le : ∀ s ∈ k.sessions.toList, s.createdAt ≤ now
  /-- The next sweep lies ahead, by at most one interval. -/
  due : ∀ w, k.sweeper = some w → now < w.due ∧ w.due ≤ now + sweepInterval
  /-- It is due at most one interval after any of the sessions reaches its lifetime. -/
  due_le : ∀ w, k.sweeper = some w → ∀ s ∈ k.sessions.toList,
    w.due ≤ s.createdAt + k.lifetime + sweepInterval

theorem OnTime.new (lifetime : Nat) (disableAutologin : Bool) (now : Int) :
    OnTime { lifetime, disableAutologin } now where
  createdAt_le := by intro s hs; simp at hs
  due := by intro w hw; simp at hw
  due_le := by intro w hw; simp at hw

/-- A keeper that loses sessions and is otherwise left alone stays on time. -/
theorem OnTime.withSessions {k : Keeper} {now : Int} (h : k.OnTime now) (m : Metrics)
    {t : SessionStore} (ht : ∀ s ∈ t.toList, s ∈ k.sessions.toList) :
    (k.withSessions m t).1.OnTime now where
  createdAt_le := fun s hs => h.createdAt_le s (ht s hs)
  due := h.due
  due_le := fun w hw s hs => h.due_le w hw s (ht s hs)

/-- A session that is created now is dropped in time. -/
theorem OnTime.create {k : Keeper} {now : Int} (h : k.OnTime now) (m : Metrics) {s : Session}
    (hs : s.createdAt = now) : (k.create m s).1.OnTime now where
  createdAt_le := by
    intro s' hs'
    rcases List.mem_append.1 hs' with hs' | hs'
    · exact h.createdAt_le s' ((List.mem_filter.1 hs').1)
    · have hnow : s'.createdAt = now := by rw [List.mem_singleton.1 hs', hs]
      exact Int.le_of_eq hnow
  due := h.due
  due_le := by
    intro w hw s' hs'
    rcases List.mem_append.1 hs' with hs' | hs'
    · exact h.due_le w hw s' ((List.mem_filter.1 hs').1)
    -- the next sweep is at most an interval ahead, and the new session has its lifetime before it
    · have hdue := (h.due w hw).2
      rw [List.mem_singleton.1 hs', hs]
      show w.due ≤ now + (k.lifetime : Int) + sweepInterval
      omega

/-- A keeper is on time after a sweep, whatever its state was before, when the next one lies ahead
by at most one interval. -/
theorem OnTime.sweep {k : Keeper} {now : Int}
    (hcreated : ∀ s ∈ k.sessions.toList, s.createdAt ≤ now) (m : Metrics) {due : Int}
    (hlt : now < due) (hle : due ≤ now + sweepInterval) :
    ({ k with sweeper := some ⟨due⟩ }.sweep m now).1.OnTime now where
  createdAt_le := fun s hs => hcreated s (mem_sweep.1 hs).1
  due := by
    intro w hw
    cases hw
    exact ⟨hlt, hle⟩
  due_le := by
    intro w hw s hs
    cases hw
    obtain ⟨hmem, hleft⟩ := mem_sweep.1 hs
    have hpast : s.createdAt ≤ now := hcreated s hmem
    rw [Bool.eq_false_iff, ne_eq, Session.expired_iff] at hleft
    show due ≤ s.createdAt + (k.lifetime : Int) + sweepInterval
    have hyoung : now - s.createdAt < (k.lifetime : Int) :=
      Int.not_le.1 fun hold => hleft ⟨hpast, hold⟩
    omega

theorem OnTime.start {k : Keeper} {now : Int} (h : k.OnTime now) (m : Metrics) (runtime : Bool) :
    (k.start m now runtime).2.1.OnTime now := by
  unfold Keeper.start
  split
  · exact h
  · split
    -- the first sweep is at once, and the next one is due after an interval
    · have hpos : now < now + sweepInterval := by simp only [sweepInterval]; omega
      exact OnTime.sweep h.createdAt_le m hpos (Int.le_refl _)
    · exact h

theorem OnTime.stop {k : Keeper} {now : Int} (m : Metrics) : (k.stop m).1.OnTime now where
  createdAt_le := by intro s hs; simp [Keeper.stop, Keeper.clear] at hs
  due := by intro w hw; simp [Keeper.stop, Keeper.clear] at hw
  due_le := by intro w hw; simp [Keeper.stop, Keeper.clear] at hw

/-- As time passes a keeper stays on time: either the next sweep still lies ahead, or there is a
sweep now. -/
theorem OnTime.tick {k : Keeper} {now now' : Int} (h : k.OnTime now) (m : Metrics)
    (hnow : now ≤ now') : (k.tick m now').1.OnTime now' := by
  have hcreated : ∀ s ∈ k.sessions.toList, s.createdAt ≤ now' := fun s hs =>
    Int.le_trans (h.createdAt_le s hs) hnow
  unfold Keeper.tick
  split
  · next hw =>
      refine ⟨hcreated, ?_, ?_⟩
      · intro w hw'; rw [hw] at hw'; cases hw'
      · intro w hw'; rw [hw] at hw'; cases hw'
  · next w hw =>
      split
      · exact OnTime.sweep hcreated m (lt_nextDue w.due now') (nextDue_le w.due now')
      · next hdue =>
          refine ⟨hcreated, ?_, h.due_le⟩
          intro w' hw'
          rw [hw] at hw'
          cases hw'
          exact ⟨Int.not_le.1 hdue, Int.le_trans (h.due w hw).2 (by omega)⟩

end Keeper

/-! ### Runs -/

namespace Moment

theorem lifetime_step (x : Moment) (st : KeeperStep) :
    (x.step st).keeper.lifetime = x.keeper.lifetime := by
  cases st with
  | conferenceEnded room =>
      simp only [step, Keeper.conferenceEnded]
      split <;> rfl
  | start runtime =>
      simp only [step, Keeper.start]
      split
      · rfl
      · split <;> rfl
  | advance ms =>
      simp only [step, Keeper.tick]
      split
      · rfl
      · split <;> rfl
  | _ => rfl

/-- **Every step keeps a keeper on time.** -/
theorem onTime_step {x : Moment} (h : x.keeper.OnTime x.now) (st : KeeperStep) :
    (x.step st).keeper.OnTime (x.step st).now := by
  cases st with
  | create id machineUid identity room => exact h.create x.metrics rfl
  | get id => exact h
  | removeRoom room => exact h.withSessions x.metrics fun s hs => (List.mem_filter.1 hs).1
  | expire asOf lifetime => exact h.withSessions x.metrics fun s hs => (List.mem_filter.1 hs).1
  | clear => exact h.withSessions x.metrics fun s hs => by simp at hs
  | conferenceEnded room =>
      simp only [step, Keeper.conferenceEnded]
      split
      · exact h.withSessions x.metrics fun s hs => (List.mem_filter.1 hs).1
      · exact h
  | start runtime => exact h.start x.metrics runtime
  | stop => exact Keeper.OnTime.stop x.metrics
  | advance ms => exact h.tick x.metrics (by omega)

end Moment

/-- **How old a session can get.**  At every moment of a run of a new keeper, a session that is
stored while the keeper runs is younger than the lifetime and one interval; and a step in which the
sweeper goes through the store leaves every session that is younger than the lifetime. -/
theorem age_bounded_and_young_sessions_kept (lifetime : Nat) (disableAutologin : Bool) (now : Int)
    (m : Metrics) (steps : List KeeperStep) :
    let x := (Moment.new lifetime disableAutologin now m).run steps
    (x.keeper.running = true →
      ∀ s ∈ x.keeper.sessions.toList, x.now - s.createdAt < lifetime + sweepInterval) ∧
    (∀ st : KeeperStep, st.Sweeps → ∀ s ∈ x.keeper.sessions.toList,
      (x.step st).now - s.createdAt < lifetime → s ∈ (x.step st).keeper.sessions.toList) := by
  intro x
  have honTime : x.keeper.OnTime x.now :=
    Moment.run_induction (P := fun y => y.keeper.OnTime y.now) (Keeper.OnTime.new ..)
      (fun y hy st => Moment.onTime_step hy st) steps
  have hlifetime : x.keeper.lifetime = lifetime :=
    Moment.run_induction (P := fun y => y.keeper.lifetime = lifetime) rfl
      (fun y hy st => (Moment.lifetime_step y st).trans hy) steps
  constructor
  -- the next sweep lies ahead, but not further than an interval beyond the session's lifetime
  · intro hrunning s hs
    obtain ⟨w, hw⟩ := Option.isSome_iff_exists.1 hrunning
    have hahead := (honTime.due w hw).1
    have hdue := honTime.due_le w hw s hs
    rw [hlifetime] at hdue
    omega
  · intro st hst s hs hyoung
    cases st with
    | start runtime => exact Keeper.mem_start_of_young hs (hlifetime ▸ hyoung)
    | advance ms => exact Keeper.mem_tick_of_young hs (hlifetime ▸ hyoung)
    | _ => exact hst.elim

end ConferenceAuth
