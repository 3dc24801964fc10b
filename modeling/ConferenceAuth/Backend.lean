/-
**What stands behind the request handlers.**

Handlers and the gateway share a clock, a source of session identifiers, the metrics, the
authorities built so far and the health states.  Authorities and health states are referred to by
number, so that a handler, the registry and the gateway can hold the same one; an authority that the
gateway has let go of stays here for those who still refer to it.

Main definitions:

* `AuthorityRef`, `HealthRef`, `Backend`;
* `Backend.enroll` — adds an authority;
* `Backend.openSession`, `Backend.authenticate`, `Backend.session?`, `Backend.conferenceEnded`,
  `Backend.startAuthority`, `Backend.stopAuthority` — the operations on one authority;
* `Backend.elapse` — lets time pass, with the sweeps that become due.

Main results:

* `Backend.authority?_enroll` — the added authority is the one referred to;
* `Backend.authority?_updateKeeper` — an operation on one authority leaves the others alone;
* `Backend.authority?_openSession` — the session that is opened is the one that is stored.
-/
import ConferenceAuth.Authority.Basic
import ConferenceAuth.Health
import ConferenceAuth.Identifier

set_option autoImplicit false

namespace ConferenceAuth

abbrev AuthorityRef := Nat

abbrev HealthRef := Nat

/-- What stands behind the request handlers. -/
structure Backend where
  now : Int := 0
  sessionIds : IdSource
  metrics : Metrics := {}
  /-- The authorities in the order in which they were built. -/
  authorities : List Authority := []
  health : HealthRef → Health := fun _ => {}

namespace Backend

/-! ### Authorities -/

def authority? (b : Backend) (r : AuthorityRef) : Option Authority := b.authorities[r]?

/-- The number that the next authority gets. -/
def nextRef (b : Backend) : AuthorityRef := b.authorities.length

def enroll (b : Backend) (a : Authority) : Backend :=
  { b with authorities := b.authorities ++ [a] }

/-- An authority after a step of its keeper, with the metrics after it. -/
def updateKeeper (b : Backend) (r : AuthorityRef) (k : Keeper × Metrics) : Backend :=
  { b with
    authorities := b.authorities.modify r fun a => { a with keeper := k.1 }
    metrics := k.2 }

/-- The added authority is the one referred to. -/
theorem authority?_enroll (b : Backend) (a : Authority) :
    (b.enroll a).authority? b.nextRef = some a := by
  simp [authority?, enroll, nextRef]

/-- An operation on one authority leaves the others alone. -/
theorem authority?_updateKeeper (b : Backend) (r s : AuthorityRef) (k : Keeper × Metrics) :
    (b.updateKeeper r k).authority? s =
      (b.authority? s).map fun a => if r = s then { a with keeper := k.1 } else a := by
  simp only [authority?, updateKeeper, List.getElem?_modify]
  by_cases h : r = s <;> simp [h]

/-! ### Operations on one authority -/

def newSession (b : Backend) (machineUid identity room : String) : Session where
  id := b.sessionIds.current
  machineUid
  identity
  room
  createdAt := b.now

/-- The backend with a session stored at an authority. -/
def store (b : Backend) (r : AuthorityRef) (s : Session) : Backend :=
  match b.authority? r with
  | none => b
  | some a => b.updateKeeper r (a.keeper.create b.metrics s)

/-- **Opens a session** at an authority for an identity that has been authenticated already. -/
def openSession (b : Backend) (r : AuthorityRef) (machineUid identity room : String) :
    Session × Backend :=
  let s := b.newSession machineUid identity room
  (s, { b.store r s with sessionIds := b.sessionIds.advance })

/-- The session that is opened is the one that the authority stores. -/
theorem authority?_openSession {b : Backend} {r : AuthorityRef} {a : Authority}
    (h : b.authority? r = some a) (machineUid identity room : String) :
    (b.openSession r machineUid identity room).2.authority? r =
      some { a with
        keeper := (a.keeper.create b.metrics (b.openSession r machineUid identity room).1).1 } := by
  show (b.store r (b.newSession machineUid identity room)).authority? r = _
  simp only [store, h, authority?_updateKeeper, Option.map_some, if_true]
  rfl

/-- Opens a session at an authority, if it lets the identity in. -/
def authenticate (b : Backend) (r : AuthorityRef) (machineUid identity room : String) :
    Option Session × Backend :=
  if (b.authority? r).any (·.trusts identity) then
    let (s, b') := b.openSession r machineUid identity room
    (some s, b')
  else (none, b)

/-- The session of an identifier at an authority. -/
def session? (b : Backend) (r : AuthorityRef) (id : String) : Option Session :=
  (b.authority? r).bind (·.session? id)

/-- Tells an authority that the conference in a room has ended. -/
def conferenceEnded (b : Backend) (r : AuthorityRef) (room : String) : Backend :=
  match b.authority? r with
  | none => b
  | some a => b.updateKeeper r (a.keeper.conferenceEnded b.metrics room)

/-- Starts an authority; `runtime` tells whether there is one to run its sweeper. -/
def startAuthority (b : Backend) (r : AuthorityRef) (runtime : Bool) :
    Except GatewayError Unit × Backend :=
  match b.authority? r with
  | none => (.ok (), b)
  | some a =>
      let (result, k) := a.keeper.start b.metrics b.now runtime
      (result, b.updateKeeper r k)

def stopAuthority (b : Backend) (r : AuthorityRef) : Backend :=
  match b.authority? r with
  | none => b
  | some a => b.updateKeeper r (a.keeper.stop b.metrics)

/-- Whether the sweeper of an authority runs. -/
def running (b : Backend) (r : AuthorityRef) : Bool := (b.authority? r).any (·.keeper.running)

/-! ### Time and health -/

/-- The sweeps that have become due at a time, authority by authority. -/
def tickAll (now : Int) : List Authority → Metrics → List Authority × Metrics
  | [], m => ([], m)
  | a :: as, m =>
      let (a', m') := a.withKeeper (a.keeper.tick m now)
      let (as', m'') := tickAll now as m'
      (a' :: as', m'')

/-- **Lets time pass**, with the sweeps that become due. -/
def elapse (b : Backend) (ms : Nat) : Backend :=
  let now := b.now + ms
  let (authorities, metrics) := tickAll now b.authorities b.metrics
  { b with now, authorities, metrics }

/-- The backend with a new readiness in one of its health states. -/
def setReady (b : Backend) (r : HealthRef) (ready : Bool) : Backend :=
  { b with health := fun x => if x = r then (b.health x).withReady ready else b.health x }

@[simp] theorem health_setReady_self (b : Backend) (r : HealthRef) (ready : Bool) :
    (b.setReady r ready).health r = (b.health r).withReady ready := if_pos rfl

@[simp] theorem authorities_setReady (b : Backend) (r : HealthRef) (ready : Bool) :
    (b.setReady r ready).authorities = b.authorities := rfl

@[simp] theorem metrics_setReady (b : Backend) (r : HealthRef) (ready : Bool) :
    (b.setReady r ready).metrics = b.metrics := rfl

end Backend

end ConferenceAuth
