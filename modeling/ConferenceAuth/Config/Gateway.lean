/-
**The gateway's own settings.**

They are read once per start, each property by itself: a malformed or missing value gives its
default and touches no other field.

Main definitions:

* `ServerPolicy` — when the embedded server runs;
* `GatewayConfig`, `GatewayConfig.resolve`.

Main results:

* `GatewayConfig.resolve_empty` — a source without properties gives the defaults.
-/
import ConferenceAuth.Config.Property

set_option autoImplicit false

namespace ConferenceAuth

/-- When the embedded server runs. -/
inductive ServerPolicy where
  /-- Only for an authority that users reach over the web. -/
  | webVariantOnly
  /-- For every authority, serving at least the health checks. -/
  | always
  deriving DecidableEq, Repr

/-- The lifetime of a session when none is configured: a day, in milliseconds. -/
def defaultLifetime : Nat := 24 * 60 * 60 * 1000

/-- The gateway's settings. -/
structure GatewayConfig where
  /-- The login address, absent when empty. -/
  loginUrl : Option String := none
  /-- The logout address, absent when empty. -/
  logoutUrl : Option String := none
  /-- Whether the sessions of a conference are dropped when it ends. -/
  disableAutologin : Bool := false
  /-- The lifetime of a session in milliseconds. -/
  lifetime : Nat := defaultLifetime
  serverPolicy : ServerPolicy := .webVariantOnly
  deriving DecidableEq, Repr

namespace GatewayConfig

/-- The lifetime that an integer stands for: positive numbers are taken, others ignored. -/
def readLifetime (n : Option Int) : Nat :=
  match n with
  | some n => if 0 < n then n.toNat else defaultLifetime
  | none => defaultLifetime

/-- **The settings that a source gives.** -/
def resolve (source : ConfigSource) : GatewayConfig where
  loginUrl := source.nonEmpty? Property.loginUrl.name
  logoutUrl := source.nonEmpty? Property.logoutUrl.name
  disableAutologin := source.isTrue Property.disableAutologin.name
  lifetime := readLifetime (source.int? Property.authLifetime.name)
  serverPolicy :=
    if source.isTrue Property.httpAlwaysStart.name then .always else .webVariantOnly

@[simp] theorem resolve_empty : resolve (.ofProperties []) = {} := rfl

end GatewayConfig

end ConferenceAuth
