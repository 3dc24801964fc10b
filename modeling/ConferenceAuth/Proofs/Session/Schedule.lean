/-
**When the sweeper goes through the store.**

All that a keeper knows of its schedule is when the next sweep is due.  Seen from outside there is a
simpler rule.  A period of running begins with the first start that finds a runtime, and it ends
with the next stop; what is asked in between does not move its beginning.  There is one sweep as the
period begins, and one at the end of each step in which the clock passes one or more of the times
that lie a whole number of intervals after the beginning.

Main definitions:

* `KeeperStep.duration`, `clockAfter` — the time after a row of steps;
* `Idle`, `RunsSince` — whether a period of running is open, and since when;
* `SweepDue` — the schedule, told by the steps alone;
* `KeeperStep.Dismisses` — the sessions that a step drops whatever their age;
* `Moment.afterSweep` — a keeper after one sweep at a time;
* `Moment.SweptTo` — what one sweep leaves and counts;
* `Moment.OnSchedule` — a keeper agrees with its history.

Main results:

* `nextDue_le_iff`, `nextDue_nextDue` — the next due time against whole intervals since the start;
* `SessionStore.dropped_expire`, `Moment.sweptTo_afterSweep` — a sweep drops and counts exactly the
  sessions that have reached the lifetime;
* `Moment.OnSchedule.step` — every step keeps a keeper on schedule;
* `Moment.OnSchedule.step_of_sweepDue`, `Moment.OnSchedule.step_of_not_sweepDue` — a step that is
  due to sweep sweeps once, and any other start or advance does nothing to the sessions;
* `sweeps_follow_the_schedule` — **a keeper sweeps when the schedule says so, and only then**.
-/
import ConferenceAuth.Proofs.Session.Effect

set_option autoImplicit false

namespace ConferenceAuth

/-! ### Whole intervals -/

/-- **The next due time has come once another whole interval has passed** since the start. -/
theorem nextDue_le_iff {start now later : Int} :
    nextDue start now ≤ later ↔ (now - start) / 10000 < (later - start) / 10000 := by
  simp only [nextDue, sweepInterval]
  omega

/-- Due times are counted from the start, whichever of them the last sweep has answered. -/
theorem nextDue_nextDue (start now later : Int) :
    nextDue (nextDue start now) later = nextDue start later := by
  simp only [nextDue, sweepInterval]
  omega

/-- As long as it has not come, it stays the next one. -/
theorem nextDue_eq_of_not_le {start now later : Int} (hle : now ≤ later)
    (h : ¬ nextDue start now ≤ later) : nextDue start later = nextDue start now := by
  simp only [nextDue, sweepInterval] at h ⊢
  omega

theorem nextDue_self (start : Int) : nextDue start start = start + sweepInterval := by
  simp only [nextDue, sweepInterval]
  omega

/-! ### The time after a row of steps -/

/-- By how much the clock goes on in a step. -/
def KeeperStep.duration : KeeperStep → Nat
  | advance ms => ms
  | _ => 0

/-- **The time after a row of steps.** -/
def clockAfter (now : Int) (steps : List KeeperStep) : Int :=
  steps.foldl (fun time st => time + st.duration) now

@[simp] theorem clockAfter_nil (now : Int) : clockAfter now [] = now := rfl

theorem clockAfter_concat (now : Int) (steps : List KeeperStep) (st : KeeperStep) :
    clockAfter now (steps ++ [st]) = clockAfter now steps + st.duration := by
  rw [clockAfter, List.foldl_append]
  rfl

/-! ### Periods of running -/

/-- **No period of running is open** after a row of steps: behind every start that found a runtime
there is a stop. -/
def Idle (done : List KeeperStep) : Prop :=
  ∀ before since, done = before ++ .start true :: since → .stop ∈ since

/-- **A period of running is open since a time**: it began with a start that found a runtime when
none was open, and there has been no stop since. -/
def RunsSince (now : Int) (done : List KeeperStep) (began : Int) : Prop :=
  ∃ before since, done = before ++ .start true :: since ∧ Idle before ∧ .stop ∉ since ∧
    began = clockAfter now before

section

variable {now began : Int} {done : List KeeperStep} {st : KeeperStep}

theorem idle_nil : Idle [] := by
  intro before since h
  simp at h

/-- **After a stop no period is open** until the next start that finds a runtime. -/
theorem idle_of_stop {rest : List KeeperStep} (h : .start true ∉ rest) :
    Idle (done ++ .stop :: rest) := by
  intro before since hcut
  rcases List.append_eq_append_iff.1 hcut with ⟨mid, -, hrest⟩ | ⟨mid, -, hsince⟩
  · have hmem : .start true ∈ .stop :: rest := hrest ▸ List.mem_append_right mid List.mem_cons_self
    exact absurd ((List.mem_cons.1 hmem).resolve_left (by simp)) h
  · cases mid with
    | nil => cases (List.cons.inj hsince).1
    | cons st mid => exact (List.cons.inj hsince).2 ▸ List.mem_append_right mid List.mem_cons_self

theorem Idle.concat (h : Idle done) (hst : st ≠ .start true) : Idle (done ++ [st]) := by
  intro before since hcut
  rcases cut_concat hcut with ⟨-, hlast, -⟩ | ⟨since', rfl, hdone⟩
  · exact absurd hlast hst
  · exact List.mem_append_left _ (h before since' hdone)

/-- A start opens a period where none is open. -/
theorem Idle.runsSince (h : Idle done) (now : Int) :
    RunsSince now (done ++ [.start true]) (clockAfter now done) :=
  ⟨done, [], rfl, h, List.not_mem_nil, rfl⟩

theorem RunsSince.concat (h : RunsSince now done began) (hst : st ≠ .stop) :
    RunsSince now (done ++ [st]) began := by
  obtain ⟨before, since, rfl, hidle, hstop, hbegan⟩ := h
  refine ⟨before, since ++ [st], by simp, hidle, ?_, hbegan⟩
  simp only [List.mem_append, List.mem_singleton, not_or]
  exact ⟨hstop, Ne.symm hst⟩

theorem Idle.not_runsSince (h : Idle done) : ¬ RunsSince now done began := by
  rintro ⟨before, since, hdone, -, hstop, -⟩
  exact hstop (h before since hdone)

/-- **At most one period is open**, and it has one beginning. -/
theorem RunsSince.unique {began' : Int} (h : RunsSince now done began)
    (h' : RunsSince now done began') : began = began' := by
  obtain ⟨before, since, hdone, hidle, hstop, rfl⟩ := h
  obtain ⟨before', since', hdone', hidle', hstop', rfl⟩ := h'
  -- of two starts that open a period, the later one would find the period of the earlier one open
  rcases List.append_eq_append_iff.1 (hdone.symm.trans hdone') with
    ⟨mid, hbefore, hsince⟩ | ⟨mid, hbefore, hsince⟩
  · cases mid with
    | nil => rw [hbefore, List.append_nil]
    | cons x mid =>
        obtain ⟨rfl, rfl⟩ := List.cons.inj hsince
        exact absurd (List.mem_append_left _ (hidle' before mid hbefore)) hstop
  · cases mid with
    | nil => rw [hbefore, List.append_nil]
    | cons x mid =>
        obtain ⟨rfl, rfl⟩ := List.cons.inj hsince
        exact absurd (List.mem_append_left _ (hidle before' mid hbefore)) hstop'

end

/-! ### The schedule -/

/-- **A step is due to sweep**, after a row of steps from a given time on: it is a start with a
runtime while no period is open, or the clock passes, in an open period, the end of one or more
intervals since its beginning.  The time is that at the end of the step. -/
inductive SweepDue (now : Int) (done : List KeeperStep) : KeeperStep → Int → Prop
  | start (h : Idle done) : SweepDue now done (.start true) (clockAfter now done)
  | advance {began : Int} {ms : Nat} (h : RunsSince now done began)
      (hpassed : (clockAfter now done - began) / 10000 <
        (clockAfter now done + ms - began) / 10000) :
      SweepDue now done (.advance ms) (clockAfter now done + ms)

/-! ### Steps that do not sweep -/

/-- **A step dismisses a session** by what the step itself says: it puts another under the same
identifier, it names the room or a time and a lifetime, or it is meant for all sessions. -/
def KeeperStep.Dismisses (s : Session) : KeeperStep → Prop
  | create id .. => s.id = id
  | removeRoom room | conferenceEnded room => s.room = room
  | expire asOf lifetime => s.expired asOf lifetime = true
  | clear | stop => True
  | get _ | start _ | advance _ => False

/-- **Outside a sweep every session is kept that the step does not dismiss**, whatever its age. -/
theorem Moment.mem_step_of_not_dismissed {x : Moment} {st : KeeperStep} {s : Session}
    (hst : ¬ st.Sweeps) (hs : s ∈ x.keeper.sessions.toList) (h : ¬ st.Dismisses s) :
    s ∈ (x.step st).keeper.sessions.toList := by
  have hroom : ∀ {room}, s.room ≠ room →
      s ∈ (x.keeper.sessions.removeRoom room).toList := fun hne =>
    List.mem_filter.2 ⟨hs, bne_iff_ne.2 hne⟩
  cases st with
  | create id machineUid identity room =>
      exact List.mem_append_left _ (List.mem_filter.2 ⟨hs, bne_iff_ne.2 h⟩)
  | get id => exact hs
  | removeRoom room => exact hroom h
  | expire asOf lifetime =>
      have hkept : s.expired asOf lifetime = false := eq_false_of_ne_true h
      exact List.mem_filter.2 ⟨hs, by rw [hkept]; rfl⟩
  | conferenceEnded room =>
      simp only [step, Keeper.conferenceEnded]
      split
      · exact hroom h
      · exact hs
  | clear => exact absurd trivial h
  | stop => exact absurd trivial h
  | start runtime => exact absurd trivial hst
  | advance ms => exact absurd trivial hst

/-! ### Starts and advances, by what they find -/

/-- An expiry drops as many sessions as have reached the lifetime. -/
theorem SessionStore.dropped_expire (t : SessionStore) (now : Int) (lifetime : Nat) :
    dropped t (t.expire now lifetime) =
      t.toList.countP fun s => s.createdAt ≤ now ∧ lifetime ≤ now - s.createdAt := by
  have hsplit : (t.keep (Session.expired now lifetime)).size + (t.expire now lifetime).size =
      t.size := t.size_keep_add_size_keep _
  have hcount : (t.keep (Session.expired now lifetime)).size =
      t.toList.countP fun s => s.createdAt ≤ now ∧ lifetime ≤ now - s.createdAt := by
    rw [List.countP_eq_length_filter]
    simp only [Bool.decide_and]
    rfl
  rw [dropped, ← hcount]
  omega

namespace Moment

variable {x : Moment}

theorem now_step (x : Moment) (st : KeeperStep) : (x.step st).now = x.now + st.duration := by
  cases st with
  | advance ms => rfl
  | _ => exact (Int.add_zero x.now).symm

/-- **One sweep** at a time, in a period of running that began at another: the sweeper goes through
the store, and it is armed for the end of the interval that the time lies in. -/
def afterSweep (x : Moment) (began t : Int) : Moment :=
  { x with now := t }.withKeeper
    ({ x.keeper with sweeper := some ⟨nextDue began t⟩ }.sweep x.metrics t)

/-- **What one sweep leaves and counts**: of the stored sessions those are left that have not reached
the keeper's lifetime at the time, the gauge shows how many they are, and the counter has gone on by
the number of the others. -/
structure SweptTo (x : Moment) (t : Int) (y : Moment) : Prop where
  left : ∀ s, s ∈ y.keeper.sessions.toList ↔ s ∈ x.keeper.sessions.toList ∧
    ¬ (s.createdAt ≤ t ∧ x.keeper.lifetime ≤ t - s.createdAt)
  shown : y.metrics.active = some y.keeper.sessions.toList.length
  counted : y.metrics.expired = x.metrics.expired +
    x.keeper.sessions.toList.countP fun s => s.createdAt ≤ t ∧ x.keeper.lifetime ≤ t - s.createdAt

/-- **A sweep drops and counts exactly the sessions that have reached the lifetime.** -/
theorem sweptTo_afterSweep (x : Moment) (began t : Int) : x.SweptTo t (x.afterSweep began t) where
  left s := by
    rw [← Session.expired_iff, Bool.not_eq_true, ← Bool.not_eq_true']
    exact List.mem_filter
  shown := rfl
  counted := congrArg (x.metrics.expired + ·) (SessionStore.dropped_expire ..)

theorem step_start_of_idle (h : x.keeper.sweeper = none) :
    x.step (.start true) = x.afterSweep x.now x.now := by
  rw [afterSweep, nextDue_self]
  simp [step, Keeper.start, Keeper.running, h, withKeeper]

theorem step_start_of_running (h : x.keeper.running = true) (runtime : Bool) :
    x.step (.start runtime) = x := by
  simp only [step, Keeper.start_of_running _ _ _ h]
  rfl

theorem step_start_without_runtime (h : x.keeper.running = false) : x.step (.start false) = x := by
  simp only [step, Keeper.start_without_runtime _ _ h]
  rfl

theorem step_advance_of_idle (h : x.keeper.sweeper = none) (ms : Nat) :
    x.step (.advance ms) = { x with now := x.now + ms } := by
  simp only [step, Keeper.tick, h]
  rfl

theorem step_advance_of_due {began : Int} {ms : Nat}
    (h : x.keeper.sweeper = some ⟨nextDue began x.now⟩) (hdue : nextDue began x.now ≤ x.now + ms) :
    x.step (.advance ms) = x.afterSweep began (x.now + ms) := by
  simp only [step, Keeper.tick, h, if_pos hdue, nextDue_nextDue]
  rfl

theorem step_advance_of_not_due {began : Int} {ms : Nat}
    (h : x.keeper.sweeper = some ⟨nextDue began x.now⟩)
    (hdue : ¬ nextDue began x.now ≤ x.now + ms) :
    x.step (.advance ms) = { x with now := x.now + ms } := by
  simp only [step, Keeper.tick, h, if_neg hdue]
  rfl

/-- Only a start, a stop and the passing of time arm or disarm the sweeper. -/
theorem sweeper_step (x : Moment) {st : KeeperStep} (hsweeps : ¬ st.Sweeps) (hstop : st ≠ .stop) :
    (x.step st).keeper.sweeper = x.keeper.sweeper := by
  cases st with
  | conferenceEnded room =>
      simp only [step, Keeper.conferenceEnded]
      split <;> rfl
  | start runtime => exact absurd trivial hsweeps
  | advance ms => exact absurd trivial hsweeps
  | stop => exact absurd rfl hstop
  | _ => rfl

/-! ### Keepers on schedule -/

/-- **A keeper agrees with its history**: it runs when a period is open, and then the next sweep is
due at the end of the present interval. -/
inductive OnSchedule (now : Int) (done : List KeeperStep) (x : Moment) : Prop
  | idle (hnow : x.now = clockAfter now done) (h : Idle done) (hsweeper : x.keeper.sweeper = none)
  | running {began : Int} (hnow : x.now = clockAfter now done) (h : RunsSince now done began)
      (hsweeper : x.keeper.sweeper = some ⟨nextDue began x.now⟩)

namespace OnSchedule

variable {now : Int} {done : List KeeperStep} {st : KeeperStep}

theorem now_eq (h : OnSchedule now done x) : x.now = clockAfter now done := by
  cases h with
  | idle hnow _ _ => exact hnow
  | running hnow _ _ => exact hnow

/-- **The keeper runs exactly while a period is open.** -/
theorem running_iff (h : OnSchedule now done x) :
    x.keeper.running = true ↔ ∃ began, RunsSince now done began := by
  cases h with
  | idle _ hidle hsweeper =>
      refine iff_of_false (by simp [Keeper.running, hsweeper]) ?_
      rintro ⟨began, hruns⟩
      exact hidle.not_runsSince hruns
  | running _ hruns hsweeper => exact iff_of_true (by simp [Keeper.running, hsweeper]) ⟨_, hruns⟩

/-- **A step that is due to sweep sweeps once**, at its end. -/
theorem step_of_sweepDue (h : OnSchedule now done x) {t : Int} (hdue : SweepDue now done st t) :
    ∃ began, RunsSince now (done ++ [st]) began ∧ x.step st = x.afterSweep began t := by
  have hnow := h.now_eq
  cases hdue with
  | start hidle =>
      cases h with
      | idle _ _ hsweeper =>
          exact ⟨clockAfter now done, hidle.runsSince now, hnow ▸ step_start_of_idle hsweeper⟩
      | running _ hruns _ => exact absurd hruns hidle.not_runsSince
  | @advance began ms hruns hpassed =>
      cases h with
      | idle _ hidle _ => exact absurd hruns hidle.not_runsSince
      | running _ hruns' hsweeper =>
          obtain rfl := hruns.unique hruns'
          rw [← hnow] at hpassed ⊢
          exact ⟨began, hruns.concat (by simp),
            step_advance_of_due hsweeper (nextDue_le_iff.2 hpassed)⟩

/-- **A start or an advance that is not due to sweep** does nothing but let the time pass. -/
theorem step_of_not_sweepDue (h : OnSchedule now done x) (hst : st.Sweeps)
    (hdue : ∀ t, ¬ SweepDue now done st t) : x.step st = { x with now := x.now + st.duration } := by
  cases st with
  | start runtime =>
      have hnow : x.now + (KeeperStep.start runtime).duration = x.now := Int.add_zero x.now
      rw [hnow]
      cases h with
      | idle _ hidle hsweeper =>
          cases runtime with
          | true => exact absurd (SweepDue.start hidle) (hdue _)
          | false => exact step_start_without_runtime (by simp [Keeper.running, hsweeper])
      | running _ _ hsweeper =>
          exact step_start_of_running (by simp [Keeper.running, hsweeper]) runtime
  | advance ms =>
      cases h with
      | idle _ _ hsweeper => exact step_advance_of_idle hsweeper ms
      | running hnow hruns hsweeper =>
          refine step_advance_of_not_due hsweeper fun hle => ?_
          rw [nextDue_le_iff, hnow] at hle
          exact hdue _ (.advance hruns hle)
  | _ => exact hst.elim

/-- A step that neither stops the keeper nor is due to sweep leaves the schedule as it is. -/
theorem of_not_sweepDue (h : OnSchedule now done x) {y : Moment} (hstop : st ≠ .stop)
    (hdue : ∀ t, ¬ SweepDue now done st t) (hnow : y.now = x.now + st.duration)
    (hsweeper : y.keeper.sweeper = x.keeper.sweeper) : OnSchedule now (done ++ [st]) y := by
  have hclock : y.now = clockAfter now (done ++ [st]) := by rw [hnow, h.now_eq, clockAfter_concat]
  cases h with
  | idle _ hidle hnone =>
      refine .idle hclock (hidle.concat ?_) (hsweeper.trans hnone)
      rintro rfl
      exact hdue _ (.start hidle)
  | @running began hx hruns hsome =>
      refine .running hclock (hruns.concat hstop) (hsweeper.trans (hsome.trans ?_))
      -- the next sweep lies ahead, and only an advance could have come to it
      have hahead : ¬ nextDue began x.now ≤ x.now + st.duration := by
        intro hle
        have hlt := lt_nextDue began x.now
        cases st with
        | advance ms =>
            rw [nextDue_le_iff, hx] at hle
            exact hdue _ (.advance hruns hle)
        | _ => exact absurd hle (by simp only [KeeperStep.duration]; omega)
      rw [hnow, nextDue_eq_of_not_le (by omega) hahead]

/-- **Every step keeps a keeper on schedule.** -/
theorem step (h : OnSchedule now done x) (st : KeeperStep) :
    OnSchedule now (done ++ [st]) (x.step st) := by
  have hnow := x.now_step st
  by_cases hstop : st = .stop
  · subst hstop
    exact .idle (by rw [hnow, h.now_eq, clockAfter_concat]) (idle_of_stop List.not_mem_nil) rfl
  · by_cases hdue : ∃ t, SweepDue now done st t
    · obtain ⟨t, hdue⟩ := hdue
      obtain ⟨began, hruns, heq⟩ := h.step_of_sweepDue hdue
      exact .running (by rw [hnow, h.now_eq, clockAfter_concat]) hruns (by rw [heq]; rfl)
    · have hquiet : ∀ t, ¬ SweepDue now done st t := fun t ht => hdue ⟨t, ht⟩
      refine h.of_not_sweepDue hstop hquiet hnow ?_
      by_cases hsweeps : st.Sweeps
      · rw [h.step_of_not_sweepDue hsweeps hquiet]
      · exact x.sweeper_step hsweeps hstop

theorem run (h : OnSchedule now done x) (steps : List KeeperStep) :
    OnSchedule now (done ++ steps) (x.run steps) := by
  induction steps generalizing done x with
  | nil => rwa [List.append_nil]
  | cons st steps ih =>
      rw [run_cons, List.append_cons]
      exact ih (h.step st)

end OnSchedule

end Moment

/-- **A keeper sweeps when the schedule says so, and only then.**  Let a new keeper of any lifetime
take any steps, from any time on.

* It runs exactly while a period of running is open.
* A start with a runtime that opens a period, and an advance in an open period that passes the end
  of one or more intervals of 10 000 ms since the beginning of the period, make one sweep, at the
  time at the end of the step: it drops the sessions that have reached the lifetime then, and counts
  them.
* Any other start, and any other advance, changes nothing but the time.
* No step besides starts and advances counts sessions that the sweeper has dropped, and every
  session is kept in it that the step does not itself dismiss.
* A start while the keeper runs succeeds and changes nothing; a start without a runtime while it
  does not run fails and changes nothing.
* After a stop, however much time passes and whatever else happens, nothing is swept until the next
  start that finds a runtime. -/
theorem sweeps_follow_the_schedule (lifetime : Nat) (disableAutologin : Bool) (now : Int)
    (m : Metrics) (done : List KeeperStep) :
    let x := (Moment.new lifetime disableAutologin now m).run done
    (x.keeper.running = true ↔ ∃ began, RunsSince now done began) ∧
    (∀ st t, SweepDue now done st t → x.SweptTo t (x.step st) ∧
      ∃ began, RunsSince now (done ++ [st]) began ∧ x.step st = x.afterSweep began t) ∧
    (∀ st, st.Sweeps → (∀ t, ¬ SweepDue now done st t) →
      x.step st = { x with now := x.now + st.duration }) ∧
    (∀ st, ¬ st.Sweeps → (x.step st).metrics.expired = x.metrics.expired ∧
      ∀ s ∈ x.keeper.sessions.toList, ¬ st.Dismisses s →
        s ∈ (x.step st).keeper.sessions.toList) ∧
    (x.keeper.running = true → ∀ runtime,
      x.keeper.start x.metrics x.now runtime = (.ok (), x.keeper, x.metrics)) ∧
    (x.keeper.running = false →
      x.keeper.start x.metrics x.now false = (.error Keeper.noRuntime, x.keeper, x.metrics)) ∧
    (∀ rest, .start true ∉ rest → ∀ ms, let y := x.run (.stop :: rest)
      y.step (.advance ms) = { y with now := y.now + ms }) := by
  intro x
  have hnew : Moment.OnSchedule now [] (Moment.new lifetime disableAutologin now m) :=
    .idle (clockAfter_nil now).symm idle_nil rfl
  have hx : x.OnSchedule now done := hnew.run done
  refine ⟨hx.running_iff, fun st t hdue => ?_, fun st => hx.step_of_not_sweepDue,
    fun st hst => ⟨?_, fun s hs => Moment.mem_step_of_not_dismissed hst hs⟩,
    fun hrunning runtime => Keeper.start_of_running _ _ runtime hrunning,
    Keeper.start_without_runtime _ _, fun rest hrest ms => ?_⟩
  · obtain ⟨began, hruns, heq⟩ := hx.step_of_sweepDue hdue
    exact ⟨heq ▸ x.sweptTo_afterSweep began t, began, hruns, heq⟩
  · rw [x.expired_step, Moment.swept_of_not_sweeps hst, Nat.add_zero]
  · have hy : (x.run (.stop :: rest)).OnSchedule now (done ++ .stop :: rest) := hx.run _
    have hdue : ∀ t, ¬ SweepDue now (done ++ .stop :: rest) (.advance ms) t := by
      intro t hdue
      cases hdue with
      | advance hruns _ => exact (idle_of_stop hrest).not_runsSince hruns
    exact hy.step_of_not_sweepDue trivial hdue

end ConferenceAuth
