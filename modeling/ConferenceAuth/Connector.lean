/-
**Connectors: where the embedded server listens.**

A connector has a transport, a host or none, and a port.  Its address is the text that is bound: an
address of version 6 is put in square brackets unless it stands in brackets already, and without a
host all interfaces of version 4 are meant.

Main definitions:

* `ConnectorKind`, `Connector` — the transports and the listeners;
* `Connector.address` — the text that is bound;
* `HttpConfig.connectors` — the connectors that the settings ask for.

Main results:

* `HttpConfig.connectors_eq_nil_iff` — there are none exactly when the settings say so.
-/
import ConferenceAuth.Config.Http

set_option autoImplicit false

namespace ConferenceAuth

/-- The transport that a connector speaks. -/
inductive ConnectorKind where
  | http
  | tls
  /-- Plain HTTP that a web server in front forwards. -/
  | reverseProxy
  deriving DecidableEq, Repr

/-- The customary name of a transport. -/
def ConnectorKind.name : ConnectorKind → String
  | http => "http"
  | tls => "tls"
  | reverseProxy => "reverse-proxy"

/-- A listener of the embedded server. -/
structure Connector where
  kind : ConnectorKind
  /-- The host to bind, or all interfaces. -/
  host : Option String
  port : UInt16
  deriving DecidableEq, Repr

/-- The port on which a web server in front forwards requests. -/
def reverseProxyPort : UInt16 := 8009

namespace Connector

def http (host : Option String) (port : UInt16) : Connector := ⟨.http, host, port⟩

/-- A connector with transport security. -/
def tls (host : Option String) (port : UInt16) : Connector := ⟨.tls, host, port⟩

/-- The connector for forwarded requests, on all interfaces. -/
def reverseProxy : Connector := ⟨.reverseProxy, none, reverseProxyPort⟩

/-- A host as it is written in front of a port: in brackets when it holds a colon and has none
yet. -/
def bracketed (host : List Char) : List Char :=
  if host.contains ':' && host.head? != some '[' then '[' :: host ++ [']'] else host

/-- The host part of the address of a connector. -/
def hostPart (c : Connector) : List Char :=
  match c.host with
  | none => "0.0.0.0".toList
  | some host => bracketed host.toList

/-- **The text that a connector binds.** -/
def address (c : Connector) : String :=
  String.ofList (c.hostPart ++ ':' :: Nat.toDigits 10 c.port.toNat)

end Connector

namespace HttpConfig

/-- **The connectors that the settings ask for**: the plain one, unless it is switched off, then
the one with transport security, if that is enabled. -/
def connectors (c : HttpConfig) : List Connector :=
  (c.port.map (Connector.http c.host)).toList ++
    if c.tlsEnabled then [Connector.tls c.host c.tlsPort] else []

/-- There are none exactly when the settings say so. -/
theorem connectors_eq_nil_iff (c : HttpConfig) : c.connectors = [] ↔ c.hasConnectors = false := by
  unfold connectors hasConnectors
  cases c.port <;> cases c.tlsEnabled <;> simp

/-- The settings never ask for a connector for forwarded requests. -/
theorem kind_ne_of_mem_connectors {c : HttpConfig} {x : Connector} (h : x ∈ c.connectors) :
    x.kind ≠ .reverseProxy := by
  unfold connectors at h
  rcases List.mem_append.1 h with h | h
  · cases hp : c.port with
    | none => simp [hp] at h
    | some p => simp [hp] at h; subst h; simp [Connector.http]
  · split at h
    · simp at h; subst h; simp [Connector.tls]
    · cases h

end HttpConfig

end ConferenceAuth
