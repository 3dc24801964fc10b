/-
**Metrics.**

One gauge holds the number of sessions that was stored when a store last changed; three families of
counters count expired sessions, logins by outcome and lifecycle transitions by state.  A metric
appears once it has been touched: the gauge as soon as it has been set, a counter as soon as it has
been increased.

Main definitions:

* `LoginOutcome`;
* `Metrics`, `Metrics.setActive`, `Metrics.addExpired`, `Metrics.countLogin`,
  `Metrics.countTransition`;
* `Metrics.entries` — the touched metrics under their names.
-/
import ConferenceAuth.Gateway.State

set_option autoImplicit false

namespace ConferenceAuth

/-- How a login ended. -/
inductive LoginOutcome where
  | success
  | badRequest
  | noIdentity
  deriving DecidableEq, Repr

def LoginOutcome.all : List LoginOutcome := [success, badRequest, noIdentity]

def LoginOutcome.label : LoginOutcome → String
  | success => "success"
  | badRequest => "bad_request"
  | noIdentity => "no_identity"

/-- The recorded metrics. -/
structure Metrics where
  /-- The gauge of stored sessions, once it has been set. -/
  active : Option Nat := none
  expired : Nat := 0
  logins : LoginOutcome → Nat := fun _ => 0
  /-- The number of transitions by the state they led to. -/
  transitions : LifecycleState → Nat := fun _ => 0

namespace Metrics

/-! ### Recording -/

def setActive (m : Metrics) (n : Nat) : Metrics := { m with active := some n }

def addExpired (m : Metrics) (n : Nat) : Metrics := { m with expired := m.expired + n }

def countLogin (m : Metrics) (o : LoginOutcome) : Metrics :=
  { m with logins := fun x => if x = o then m.logins x + 1 else m.logins x }

def countTransition (m : Metrics) (s : LifecycleState) : Metrics :=
  { m with transitions := fun x => if x = s then m.transitions x + 1 else m.transitions x }

@[simp] theorem active_setActive (m : Metrics) (n : Nat) : (m.setActive n).active = some n := rfl

@[simp] theorem expired_setActive (m : Metrics) (n : Nat) :
    (m.setActive n).expired = m.expired := rfl

@[simp] theorem logins_setActive (m : Metrics) (n : Nat) : (m.setActive n).logins = m.logins := rfl

@[simp] theorem transitions_setActive (m : Metrics) (n : Nat) :
    (m.setActive n).transitions = m.transitions := rfl

@[simp] theorem active_addExpired (m : Metrics) (n : Nat) : (m.addExpired n).active = m.active :=
  rfl

@[simp] theorem expired_addExpired (m : Metrics) (n : Nat) :
    (m.addExpired n).expired = m.expired + n := rfl

@[simp] theorem logins_addExpired (m : Metrics) (n : Nat) : (m.addExpired n).logins = m.logins :=
  rfl

@[simp] theorem transitions_addExpired (m : Metrics) (n : Nat) :
    (m.addExpired n).transitions = m.transitions := rfl

@[simp] theorem active_countLogin (m : Metrics) (o : LoginOutcome) :
    (m.countLogin o).active = m.active := rfl

@[simp] theorem expired_countLogin (m : Metrics) (o : LoginOutcome) :
    (m.countLogin o).expired = m.expired := rfl

@[simp] theorem logins_countLogin (m : Metrics) (o x : LoginOutcome) :
    (m.countLogin o).logins x = if x = o then m.logins x + 1 else m.logins x := rfl

@[simp] theorem transitions_countLogin (m : Metrics) (o : LoginOutcome) :
    (m.countLogin o).transitions = m.transitions := rfl

@[simp] theorem active_countTransition (m : Metrics) (s : LifecycleState) :
    (m.countTransition s).active = m.active := rfl

@[simp] theorem expired_countTransition (m : Metrics) (s : LifecycleState) :
    (m.countTransition s).expired = m.expired := rfl

@[simp] theorem logins_countTransition (m : Metrics) (s : LifecycleState) :
    (m.countTransition s).logins = m.logins := rfl

@[simp] theorem transitions_countTransition (m : Metrics) (s x : LifecycleState) :
    (m.countTransition s).transitions x =
      if x = s then m.transitions x + 1 else m.transitions x := rfl

/-! ### Reading -/

/-- A metric with a label, under the name that it is exported by. -/
def labelled (name label value : String) : String :=
  name ++ "\x7b" ++ label ++ "=" ++ value ++ "\x7d"

/-- **The touched metrics under their names.** -/
def entries (m : Metrics) : List (String × Nat) :=
  (m.active.map fun n => ("gateway_auth_sessions_active", n)).toList ++
    ([("gateway_auth_sessions_expired_total", m.expired)] ++
      LoginOutcome.all.map (fun o =>
        (labelled "gateway_sso_logins_total" "outcome" o.label, m.logins o)) ++
      LifecycleState.all.map (fun s =>
        (labelled "gateway_lifecycle_transitions_total" "state" s.name, m.transitions s))).filter
      (·.2 ≠ 0)

end Metrics

end ConferenceAuth
