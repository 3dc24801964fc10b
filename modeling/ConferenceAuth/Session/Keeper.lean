/-
**Keeping sessions: expiry and the sweeper.**

A keeper owns a store of sessions.  While it runs, a sweeper goes through the store and drops what
has reached the lifetime: at once when the keeper is started, and then whenever one of the due times
has passed that follow the start at a fixed interval.  A clock that jumps over several due times
makes one sweep, and the next is due at the next due time after it.

Every change of the store is recorded in the metrics, which are handed from step to step.

Main definitions:

* `sweepInterval`, `nextDue` — the schedule;
* `Keeper` and its operations `create`, `removeRoom`, `expire`, `clear`, `conferenceEnded`, `start`,
  `stop` and `tick`.

Main results:

* `Keeper.start_of_running` — a start while running changes nothing;
* `Keeper.start_without_runtime` — a start without a runtime fails and changes nothing;
* `lt_nextDue`, `nextDue_le` — the next due time lies ahead, by at most one interval.
-/
import ConferenceAuth.Error
import ConferenceAuth.Metrics
import ConferenceAuth.Session.Store

set_option autoImplicit false

namespace ConferenceAuth

/-! ### The schedule of sweeps -/

/-- The time between due sweeps, in milliseconds. -/
def sweepInterval : Nat := 10000

/-- The due time that follows a sweep at `now`, where `due` was the due time that it answered. -/
def nextDue (due now : Int) : Int := due + sweepInterval * ((now - due) / sweepInterval + 1)

/-- The next due time lies ahead. -/
theorem lt_nextDue (due now : Int) : now < nextDue due now := by
  simp only [nextDue, sweepInterval]
  omega

/-- It lies ahead by at most one interval. -/
theorem nextDue_le (due now : Int) : nextDue due now ≤ now + sweepInterval := by
  simp only [nextDue, sweepInterval]
  omega

/-! ### Keepers -/

/-- The sweeper of a running keeper. -/
structure Sweeper where
  /-- When the next sweep is due. -/
  due : Int
  deriving DecidableEq, Repr

/-- Sessions with the rules for dropping them. -/
structure Keeper where
  /-- The lifetime of a session in milliseconds. -/
  lifetime : Nat
  /-- Whether the sessions of a conference are dropped when it ends. -/
  disableAutologin : Bool
  sessions : SessionStore := .empty
  /-- The sweeper, while the keeper runs. -/
  sweeper : Option Sweeper := none

namespace Keeper

/-- Whether the sweeper runs. -/
def running (k : Keeper) : Bool := k.sweeper.isSome

/-- The keeper with other sessions, and their number in the metrics. -/
def withSessions (k : Keeper) (m : Metrics) (t : SessionStore) : Keeper × Metrics :=
  ({ k with sessions := t }, m.setActive t.size)

def create (k : Keeper) (m : Metrics) (s : Session) : Keeper × Metrics :=
  k.withSessions m (k.sessions.insert s)

def removeRoom (k : Keeper) (m : Metrics) (room : String) : Keeper × Metrics :=
  k.withSessions m (SessionStore.removeRoom k.sessions room)

def expire (k : Keeper) (m : Metrics) (now : Int) (lifetime : Nat) : Keeper × Metrics :=
  k.withSessions m (SessionStore.expire k.sessions now lifetime)

def clear (k : Keeper) (m : Metrics) : Keeper × Metrics := k.withSessions m .empty

/-- Drops the sessions of a room whose conference has ended, unless they are to be kept for the
next one. -/
def conferenceEnded (k : Keeper) (m : Metrics) (room : String) : Keeper × Metrics :=
  if k.disableAutologin then k.removeRoom m room else (k, m)

/-- A sweep: drops the sessions that have reached the keeper's own lifetime and counts them. -/
def sweep (k : Keeper) (m : Metrics) (now : Int) : Keeper × Metrics :=
  let (k', m') := k.expire m now k.lifetime
  (k', m'.addExpired (SessionStore.dropped k.sessions k'.sessions))

/-- Why a keeper cannot start its sweeper where nothing runs in the background. -/
def noRuntime : GatewayError :=
  .authority ("No async runtime: there is no reactor running, " ++
    "must be called from the context of a Tokio 1.x runtime")

/-- **Starts the sweeper**, which sweeps at once; `runtime` tells whether there is one to run it.
A running keeper is left alone. -/
def start (k : Keeper) (m : Metrics) (now : Int) (runtime : Bool) :
    Except GatewayError Unit × Keeper × Metrics :=
  if k.running then (.ok (), k, m)
  else if runtime then
    -- The first sweep is due at once, the next one interval after the start.
    (.ok (), { k with sweeper := some ⟨now + sweepInterval⟩ }.sweep m now)
  else (.error noRuntime, k, m)

/-- Stops the sweeper, if it runs, and drops all sessions. -/
def stop (k : Keeper) (m : Metrics) : Keeper × Metrics := { k with sweeper := none }.clear m

/-- What happens when the clock has reached `now`: a sweep, if one has become due. -/
def tick (k : Keeper) (m : Metrics) (now : Int) : Keeper × Metrics :=
  match k.sweeper with
  | none => (k, m)
  | some s =>
      if s.due ≤ now then { k with sweeper := some ⟨nextDue s.due now⟩ }.sweep m now else (k, m)

/-! ### First facts -/

@[simp] theorem sessions_withSessions (k : Keeper) (m : Metrics) (t : SessionStore) :
    (k.withSessions m t).1.sessions = t := rfl

@[simp] theorem sweeper_withSessions (k : Keeper) (m : Metrics) (t : SessionStore) :
    (k.withSessions m t).1.sweeper = k.sweeper := rfl

@[simp] theorem lifetime_withSessions (k : Keeper) (m : Metrics) (t : SessionStore) :
    (k.withSessions m t).1.lifetime = k.lifetime := rfl

@[simp] theorem metrics_withSessions (k : Keeper) (m : Metrics) (t : SessionStore) :
    (k.withSessions m t).2 = m.setActive t.size := rfl

/-- A start while running changes nothing. -/
theorem start_of_running {k : Keeper} (m : Metrics) (now : Int) (runtime : Bool)
    (h : k.running = true) : k.start m now runtime = (.ok (), k, m) := by
  simp [start, h]

/-- A start without a runtime fails and changes nothing. -/
theorem start_without_runtime {k : Keeper} (m : Metrics) (now : Int)
    (h : k.running = false) : k.start m now false = (.error noRuntime, k, m) := by
  simp [start, h]

end Keeper

end ConferenceAuth
