/-
**The properties of the gateway.**

Nine properties are looked up.  All of them live in one name space, under which hosts have always
found the settings of the authentication gateway.

Main definitions:

* `Property` — the nine properties;
* `Property.name` — the dotted name that a host stores it under.

Main results:

* `Property.name_inj` — no two properties share a name.
-/
import ConferenceAuth.Config.Source

set_option autoImplicit false

namespace ConferenceAuth

/-- A property that the gateway looks up. -/
inductive Property where
  /-- The login address; it selects the authority, and none is selected without it. -/
  | loginUrl
  | logoutUrl
  /-- Whether the sessions of a conference are dropped when it ends. -/
  | disableAutologin
  /-- The lifetime of a session in milliseconds. -/
  | authLifetime
  | httpAlwaysStart
  | httpHost
  /-- The port of the plain connector; a negative number disables it. -/
  | httpPort
  | tlsPort
  /-- The key store; it enables the connector with transport security. -/
  | keyStorePath
  deriving DecidableEq, Repr

namespace Property

/-- The name space of all properties. -/
def space : String := "org.jitsi.jicofo.auth"

/-- The dotted name of a property. -/
def name : Property → String
  | loginUrl => "org.jitsi.jicofo.auth.URL"
  | logoutUrl => "org.jitsi.jicofo.auth.LOGOUT_URL"
  | disableAutologin => "org.jitsi.jicofo.auth.DISABLE_AUTOLOGIN"
  | authLifetime => "org.jitsi.jicofo.auth.AUTH_LIFETIME"
  | httpAlwaysStart => "org.jitsi.jicofo.auth.HTTP_ALWAYS_START"
  | httpHost => "org.jitsi.jicofo.auth.jetty.host"
  | httpPort => "org.jitsi.jicofo.auth.jetty.port"
  | tlsPort => "org.jitsi.jicofo.auth.jetty.tls.port"
  | keyStorePath => "org.jitsi.jicofo.auth.jetty.sslContextFactory.keyStorePath"

/-- Every property, in the order of the documentation. -/
def all : List Property :=
  [loginUrl, logoutUrl, disableAutologin, authLifetime, httpAlwaysStart, httpHost, httpPort,
    tlsPort, keyStorePath]

theorem mem_all (p : Property) : p ∈ all := by cases p <;> decide

/-- No two properties share a name. -/
theorem name_inj {p q : Property} (h : p.name = q.name) : p = q := by
  cases p <;> cases q <;> first | rfl | exact absurd h (by decide)

end Property

end ConferenceAuth
