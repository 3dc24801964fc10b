/-
**The gateway and everything around it.**

A site is one gateway together with the services that it works with: the backend of the request
handlers, the registry, the servers and the network.  The registry and the health state may be used
by others as well; the gateway refers to what it holds by number or by entry.

Main definitions:

* `Gateway` — what the gateway itself holds;
* `Capability` — what is published in the registry;
* `RegistryCall` — a successful use of the registry, as a recording registry notes it;
* `Site` — the gateway and everything around it;
* the services one by one: `Site.publishEntry`, `Site.withdrawEntry`, `Site.addServer`,
  `Site.updateServer`, `Site.enter`.

Main results:

* `Site.eq_of_withdrawEntry` — what a withdrawal changes.
-/
import ConferenceAuth.Gateway.Call

set_option autoImplicit false

namespace ConferenceAuth

/-! ### What the gateway holds -/

/-- A gateway: its state, and what it holds of the services around it. -/
structure Gateway where
  state : LifecycleState := .stopped
  variant : Option AuthorityVariant := none
  authority : Option AuthorityRef := none
  /-- The entry that the authority is published under. -/
  registration : Option RegistryEntry := none
  server : Option ServerRef := none
  deriving DecidableEq, Repr

/-- The service that the authority is published under. -/
def authorityService : String := "AuthenticationAuthority"

/-- The health state that the gateway sets. -/
def gatewayHealth : HealthRef := 0

/-! ### What the registry holds -/

/-- A published value: an authority, or a value of another user of the registry. -/
inductive Capability where
  | authority (r : AuthorityRef)
  | text (s : String)
  | integer (n : Int)
  | flag (b : Bool)
  deriving DecidableEq, Repr

namespace Capability

def authority? : Capability → Option AuthorityRef
  | authority r => some r
  | _ => none

def text? : Capability → Option String
  | text s => some s
  | _ => none

def integer? : Capability → Option Int
  | integer n => some n
  | _ => none

def flag? : Capability → Option Bool
  | flag b => some b
  | _ => none

end Capability

/-- A successful use of the registry. -/
inductive RegistryCall where
  | publish (entry : RegistryEntry)
  | withdraw (entry : RegistryEntry)
  deriving DecidableEq, Repr

def RegistryCall.text : RegistryCall → String
  | publish entry => "publish " ++ entry.display
  | withdraw entry => "withdraw " ++ entry.display

/-! ### Sites -/

/-- A gateway and everything around it. -/
structure Site extends Backend where
  gateway : Gateway := {}
  registry : Registry Capability := {}
  /-- The successful uses of the registry, in order. -/
  journal : List RegistryCall := []
  entryIds : IdSource
  factory : ServerFactory := .recording
  /-- The servers in the order in which they were created. -/
  servers : List Server := []
  network : Network := {}

namespace Site

/-- Whether the gateway is ready, for all to see. -/
def ready (s : Site) : Bool := (s.health gatewayHealth).ready

def withBackend (s : Site) (b : Backend) : Site := { s with toBackend := b }

/-- The site after the gateway has entered a state, which is counted. -/
def enter (s : Site) (state : LifecycleState) : Site :=
  { s with
    gateway := { s.gateway with state }
    metrics := s.metrics.countTransition state }

/-! ### The registry -/

/-- The entry that the next publication under a service gets. -/
def nextEntry (s : Site) (service : String) : RegistryEntry := ⟨s.entryIds.current, service⟩

/-- The site after an entry has been made. -/
def drawEntry (s : Site) : Site := { s with entryIds := s.entryIds.advance }

/-- The site with a capability published under the next entry. -/
def publishEntry (s : Site) (service : String) (value : Capability) : Site :=
  { s.drawEntry with
    registry := s.registry.publish (s.nextEntry service) value
    journal := s.journal ++ [.publish (s.nextEntry service)] }

/-- The site without the publication of an entry, which has to be there. -/
def withdrawEntry (s : Site) (entry : RegistryEntry) : Except HostError Site :=
  match s.registry.withdraw entry with
  | .ok registry => .ok { s with registry, journal := s.journal ++ [.withdraw entry] }
  | .error e => .error e

/-- An entry that can be withdrawn leaves the registry, which is noted, and nothing else changes. -/
theorem eq_of_withdrawEntry {s s' : Site} {entry : RegistryEntry}
    (h : s.withdrawEntry entry = .ok s') :
    ∃ registry, s.registry.withdraw entry = .ok registry ∧
      s' = { s with registry, journal := s.journal ++ [.withdraw entry] } := by
  unfold withdrawEntry at h
  split at h
  · next registry hregistry =>
    cases h
    exact ⟨registry, hregistry, rfl⟩
  · cases h

/-! ### Servers -/

def server? (s : Site) (r : ServerRef) : Option Server := s.servers[r]?

/-- The number that the next server gets. -/
def nextServer (s : Site) : ServerRef := s.servers.length

def addServer (s : Site) (server : Server) : Site := { s with servers := s.servers ++ [server] }

/-- The site with a changed server and network. -/
def updateServer (s : Site) (r : ServerRef) (server : Server) (network : Network) : Site :=
  { s with servers := s.servers.set r server, network }

/-- The handlers that answer requests: those of the last server, while it runs. -/
def serving? (s : Site) : Option Chain :=
  s.servers.getLast?.bind fun server => if server.running then some server.handlers else none

/-! ### What others see -/

/-- The authority that is published for others to find. -/
def publishedAuthority? (s : Site) (en : Enumeration) (service : String) : Option Authority :=
  (s.registry.lookup en service Capability.authority?).bind s.authority?

/-- The authority that the gateway holds. -/
def heldAuthority? (s : Site) : Option Authority := s.gateway.authority.bind s.authority?

/-- The number of servers that run. -/
def runningServers (s : Site) : Nat := (s.servers.filter (·.running)).length

end Site

end ConferenceAuth
