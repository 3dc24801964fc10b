/-
**The embedded server's settings.**

The two ports follow different rules.  A negative plain port switches the plain connector off,
whereas a number that is no port falls back to the default; the port with transport security falls
back in both cases, because that connector is switched by the key store instead.

Main definitions:

* `readPort?` — the port that an integer stands for;
* `HttpConfig`, `HttpConfig.resolve`;
* `HttpConfig.tlsEnabled`, `HttpConfig.hasConnectors`.

Main results:

* `readPort?_eq_some_iff` — exactly the numbers below `65536` are ports;
* `HttpConfig.resolve_empty` — a source without properties gives the defaults.
-/
import ConferenceAuth.Config.Property

set_option autoImplicit false

namespace ConferenceAuth

/-! ### Ports -/

/-- The port that an integer stands for. -/
def readPort? (n : Int) : Option UInt16 :=
  if 0 ≤ n ∧ n < 65536 then some (UInt16.ofNat n.toNat) else none

/-- Exactly the numbers below `65536` are ports. -/
theorem readPort?_eq_some_iff {n : Int} {p : UInt16} :
    readPort? n = some p ↔ n = p.toNat := by
  unfold readPort?
  have hp : p.toNat < 65536 := p.toNat_lt
  constructor
  · intro h
    split at h
    · next hn =>
      have hlt : n.toNat < UInt16.size := by show _ < 65536; omega
      cases h
      rw [UInt16.toNat_ofNat_of_lt' hlt]
      omega
    · cases h
  · rintro rfl
    rw [if_pos (by omega)]
    simp

/-- The plain port when none is configured.  It differs from the media server's, so that both run
on one host. -/
def defaultHttpPort : UInt16 := 8888

/-- The port with transport security when none is configured. -/
def defaultTlsPort : UInt16 := 8843

/-! ### Settings -/

/-- The embedded server's settings. -/
structure HttpConfig where
  /-- The host to bind, or all interfaces. -/
  host : Option String := none
  /-- The plain port; absent when the plain connector is switched off. -/
  port : Option UInt16 := some defaultHttpPort
  tlsPort : UInt16 := defaultTlsPort
  /-- The key store; transport security is enabled only with it. -/
  keyStorePath : Option String := none
  deriving DecidableEq, Repr

namespace HttpConfig

/-- The plain port that an integer stands for: none when it is negative, and the default when it
is absent or too large. -/
def readPlainPort (n : Option Int) : Option UInt16 :=
  match n with
  | some n => if n < 0 then none else some ((readPort? n).getD defaultHttpPort)
  | none => some defaultHttpPort

/-- The port with transport security that an integer stands for. -/
def readTlsPort (n : Option Int) : UInt16 := (n.bind readPort?).getD defaultTlsPort

/-- **The settings that a source gives.** -/
def resolve (source : ConfigSource) : HttpConfig where
  host := source.nonEmpty? Property.httpHost.name
  port := readPlainPort (source.int? Property.httpPort.name)
  tlsPort := readTlsPort (source.int? Property.tlsPort.name)
  keyStorePath := source.nonEmpty? Property.keyStorePath.name

/-- Whether transport security is configured. -/
def tlsEnabled (c : HttpConfig) : Bool := c.keyStorePath.isSome

/-- Whether the server would have anything to listen on. -/
def hasConnectors (c : HttpConfig) : Bool := c.port.isSome || c.tlsEnabled

@[simp] theorem resolve_empty : resolve (.ofProperties []) = {} := rfl

end HttpConfig

end ConferenceAuth
