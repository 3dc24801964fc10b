/-
**Runs of a keeper on a clock.**

A keeper by itself has no clock.  Here it is put at a moment: a time, together with the metrics
recorded so far.  From moment to moment it is asked to store, look up or drop sessions, it is
started and stopped, and time passes; the clock never goes back, but a caller may ask for an
expiry as of any time whatever.

Main definitions:

* `Moment`, `Moment.new` — a keeper with the time and the metrics; a new one;
* `KeeperStep`, `Moment.step`, `Moment.run` — what may happen to it, and a row of such steps;
* `KeeperStep.Sweeps` — the steps in which the sweeper may go through the store.

Main results:

* `Moment.run_induction` — what every step keeps, every run keeps.
-/
import ConferenceAuth.Session.Keeper

set_option autoImplicit false

namespace ConferenceAuth

/-! ### Moments and steps -/

/-- A keeper at a moment. -/
structure Moment where
  now : Int
  keeper : Keeper
  metrics : Metrics

/-- What may happen to a keeper. -/
inductive KeeperStep where
  | create (id machineUid identity room : String)
  | get (id : String)
  | removeRoom (room : String)
  /-- What has reached a lifetime by a given time is dropped. -/
  | expire (asOf : Int) (lifetime : Nat)
  | clear
  | conferenceEnded (room : String)
  /-- The keeper is started, with a runtime or without. -/
  | start (runtime : Bool)
  | stop
  | advance (ms : Nat)
  deriving DecidableEq, Repr

/-- The steps in which the sweeper may go through the store. -/
def KeeperStep.Sweeps : KeeperStep → Prop
  | start _ | advance _ => True
  | _ => False

namespace Moment

/-- A new keeper, not running and without sessions. -/
def new (lifetime : Nat) (disableAutologin : Bool) (now : Int) (m : Metrics) : Moment :=
  ⟨now, { lifetime, disableAutologin }, m⟩

def withKeeper (x : Moment) (k : Keeper × Metrics) : Moment := ⟨x.now, k.1, k.2⟩

/-- **One step.** -/
def step (x : Moment) : KeeperStep → Moment
  | .create id machineUid identity room =>
      x.withKeeper (x.keeper.create x.metrics ⟨id, machineUid, identity, room, x.now⟩)
  | .get _ => x
  | .removeRoom room => x.withKeeper (x.keeper.removeRoom x.metrics room)
  | .expire asOf lifetime => x.withKeeper (x.keeper.expire x.metrics asOf lifetime)
  | .clear => x.withKeeper (x.keeper.clear x.metrics)
  | .conferenceEnded room => x.withKeeper (x.keeper.conferenceEnded x.metrics room)
  | .start runtime => x.withKeeper (x.keeper.start x.metrics x.now runtime).2
  | .stop => x.withKeeper (x.keeper.stop x.metrics)
  | .advance ms =>
      { x with now := x.now + ms }.withKeeper (x.keeper.tick x.metrics (x.now + ms))

def run (x : Moment) (steps : List KeeperStep) : Moment := steps.foldl step x

theorem run_cons (x : Moment) (st : KeeperStep) (steps : List KeeperStep) :
    x.run (st :: steps) = (x.step st).run steps := rfl

/-- What every step keeps, every run keeps. -/
theorem run_induction {P : Moment → Prop} {x : Moment} (h : P x)
    (hstep : ∀ y, P y → ∀ st, P (y.step st)) (steps : List KeeperStep) : P (x.run steps) := by
  induction steps generalizing x with
  | nil => exact h
  | cons st steps ih =>
      rw [run_cons]
      exact ih (hstep x h st)

end Moment

end ConferenceAuth
