/-
**Starting and stopping the gateway.**

A start reads the settings, builds the authority that they ask for, publishes it, starts it, starts
the embedded server if one is needed, and only then declares the gateway ready; so whoever finds the
server finds a published and running authority behind it.  A stop goes the other way round: not
ready, server, registry, authority.  A start that fails is followed by a stop, which releases what
was acquired, and gives the error of the step that failed.

Every service may refuse.  What happens during a start or a stop is described by the conditions
under which it takes place, and everything that it asks of the services is noted with the sites
before and after, so that its order can be spoken of.

Main definitions:

* `Conditions`, `WithdrawCondition` — which services refuse, and how;
* `Event`, `Progress` — what has been asked so far;
* `Progress.tryStart`, `Progress.stop`, `Progress.start`;
* `Site.start`, `Site.stop` — a whole start or stop of the gateway of a site.

Main results:

* `Site.start_of_isStarted` — a second start changes nothing.
-/
import ConferenceAuth.Gateway.Site

set_option autoImplicit false

namespace ConferenceAuth

/-! ### Conditions -/

/-- How the registry takes a withdrawal. -/
inductive WithdrawCondition where
  | works
  /-- It refuses, and the publication stays. -/
  | refused (cause : HostError)
  /-- It removes the publication, but then misses an entry of the same service that nobody has
  published. -/
  | misses
  deriving DecidableEq, Repr

/-- The conditions under which a start or a stop takes place. -/
structure Conditions where
  config : ConfigSource
  /-- Whether there is a runtime for what runs in the background. -/
  runtime : Bool := true
  /-- Why the registry refuses to publish, if it does. -/
  publish : Option HostError := none
  withdraw : WithdrawCondition := .works
  /-- Why a server refuses to start, if it does. -/
  serverStart : Option GatewayError := none
  /-- What a server reports after it has stopped, if it does. -/
  serverStop : Option GatewayError := none

/-! ### Progress -/

/-- A call with the sites before and after it. -/
structure Event where
  call : Call
  before : Site
  after : Site

/-- A site, and what the gateway has asked of the services so far. -/
structure Progress where
  site : Site
  events : List Event := []

namespace Progress

/-- A call that leads to a site. -/
def note (p : Progress) (call : Call) (after : Site) : Progress :=
  ⟨after, p.events ++ [⟨call, p.site, after⟩]⟩

/-- A change of what the gateway holds. -/
def hold (p : Progress) (f : Gateway → Gateway) : Progress :=
  { p with site := { p.site with gateway := f p.site.gateway } }

def enter (p : Progress) (state : LifecycleState) : Progress :=
  { p with site := p.site.enter state }

def setReady (p : Progress) (ready : Bool) : Progress :=
  p.note (.setReady ready) (p.site.withBackend (p.site.toBackend.setReady gatewayHealth ready))

/-! ### Acquiring, step by step -/

/-- An authority is built, and the gateway holds it. -/
def select (p : Progress) (a : Authority) : Progress :=
  { p with site := p.site.withBackend (p.site.toBackend.enroll a) }.hold
    fun g => { g with variant := some a.variant, authority := some p.site.nextRef }

def publish (p : Progress) (c : Conditions) (r : AuthorityRef) :
    Except HostError RegistryEntry × Progress :=
  match c.publish with
  | some e => (.error e, p.note (.publish authorityService false) p.site)
  | none =>
      (.ok (p.site.nextEntry authorityService),
        p.note (.publish authorityService true)
          (p.site.publishEntry authorityService (.authority r)))

def startAuthority (p : Progress) (c : Conditions) (r : AuthorityRef) :
    Except GatewayError Unit × Progress :=
  match p.site.toBackend.startAuthority r c.runtime with
  | (.ok (), b) => (.ok (), p.note (.startAuthority r true) (p.site.withBackend b))
  | (.error e, b) => (.error e, p.note (.startAuthority r false) (p.site.withBackend b))

/-- A server is created with handlers and perhaps a connector, and the gateway holds it. -/
def openServer (p : Progress) (config : HttpConfig) (r : AuthorityRef) (kind : AuthorityKind) :
    Progress :=
  let ref := p.site.nextServer
  let (chain, extra) := Chain.ofAuthority gatewayHealth (some (r, kind))
  let server := Server.create config
  let p := p.note (.createServer config) (p.site.addServer server)
  let server := server.addHandlers chain
  let p := p.note (.addHandlers (Chain.kinds chain))
    (p.site.updateServer ref server p.site.network)
  let p :=
    match extra with
    | some connector =>
        p.note (.addConnector connector)
          (p.site.updateServer ref (server.addConnector connector) p.site.network)
    | none => p
  -- It is held before it is started, so that a start that fails is still followed by its stop.
  p.hold fun g => { g with server := some ref }

def startServer (p : Progress) (c : Conditions) (r : ServerRef) :
    Except GatewayError Unit × Progress :=
  match p.site.server? r with
  | none => (.ok (), p)
  | some server =>
      match c.serverStart with
      | some e => (.error e, p.note (.startServer r false) p.site)
      | none =>
          match server.start p.site.factory p.site.network with
          | (.ok (), server, network) =>
              (.ok (), p.note (.startServer r true) (p.site.updateServer r server network))
          | (.error e, server, network) =>
              (.error e, p.note (.startServer r false) (p.site.updateServer r server network))

/-- Whether the settings call for an embedded server behind an authority of a kind. -/
def needsServer (kind : AuthorityKind) (policy : ServerPolicy) : Bool :=
  kind.requiresWebSurface || policy == .always

/-- The embedded server is started, if one is needed and it has something to listen on. -/
def serve (p : Progress) (c : Conditions) (policy : ServerPolicy) (r : AuthorityRef)
    (kind : AuthorityKind) : Except GatewayError Unit × Progress :=
  let http := HttpConfig.resolve c.config
  if needsServer kind policy && http.hasConnectors then
    (p.openServer http r kind).startServer c p.site.nextServer
  else (.ok (), p)

/-- A start of a gateway that holds nothing.  When a step fails, what was acquired before it is
still held. -/
def tryStart (p : Progress) (c : Conditions) : Except GatewayError Unit × Progress :=
  let config := GatewayConfig.resolve c.config
  let p := (p.note .readConfig p.site).enter .configLoaded
  match Authority.create? config with
  | none => (.ok (), (p.enter .disabled).setReady true)
  | some a =>
      let r := p.site.nextRef
      let p := (p.select a).enter .authoritySelected
      match p.publish c r with
      | (.error e, p) => (.error (.registry e), p)
      | (.ok entry, p) =>
          let p := (p.hold fun g => { g with registration := some entry }).enter .published
          -- The login must never reach an authority that does not run.
          match p.startAuthority c r with
          | (.error e, p) => (.error e, p)
          | (.ok (), p) =>
              match p.serve c config.serverPolicy r a.kind with
              | (.error e, p) => (.error e, p)
              | (.ok (), p) => (.ok (), (p.enter .started).setReady true)

/-! ### Releasing, step by step -/

/-- The server, if one is held, is stopped and let go of. -/
def releaseServer (p : Progress) (c : Conditions) : Except GatewayError Unit × Progress :=
  match p.site.gateway.server with
  | none => (.ok (), p)
  | some r =>
      -- It is let go of first: whatever the stop reports, it is not stopped twice.
      let p := p.hold fun g => { g with server := none }
      match p.site.server? r with
      | none => (.ok (), p)
      | some server =>
          let (server, network) := server.stop p.site.network
          let after := p.site.updateServer r server network
          match c.serverStop with
          | none => (.ok (), p.note (.stopServer r true) after)
          | some e => (.error e, p.note (.stopServer r false) after)

/-- What becomes of a site when an entry is withdrawn. -/
def withdrawUnder (c : Conditions) (s : Site) (entry : RegistryEntry) :
    Except HostError Unit × Site :=
  match c.withdraw with
  | .refused e => (.error e, s)
  | .works =>
      match s.withdrawEntry entry with
      | .ok s => (.ok (), s)
      | .error e => (.error e, s)
  | .misses =>
      match s.withdrawEntry entry with
      | .error e => (.error e, s)
      | .ok s =>
          let stray := s.nextEntry entry.service
          match s.drawEntry.withdrawEntry stray with
          | .ok s => (.ok (), s)
          | .error e => (.error e, s.drawEntry)

/-- The entry, if one is held, is withdrawn and let go of. -/
def releaseRegistration (p : Progress) (c : Conditions) : Except HostError Unit × Progress :=
  match p.site.gateway.registration with
  | none => (.ok (), p)
  | some entry =>
      let p := p.hold fun g => { g with registration := none }
      match withdrawUnder c p.site entry with
      | (.ok (), after) => (.ok (), p.note (.withdraw entry true) after)
      | (.error e, after) => (.error e, p.note (.withdraw entry false) after)

/-- The authority, if one is held, is stopped and let go of. -/
def releaseAuthority (p : Progress) : Progress :=
  match p.site.gateway.authority with
  | none => p
  | some r =>
      let p := p.hold fun g => { g with authority := none }
      p.note (.stopAuthority r) (p.site.withBackend (p.site.toBackend.stopAuthority r))

/-- The gateway ends in the stopped state, which is counted unless it was there already. -/
def settle (p : Progress) : Progress :=
  let p := p.hold fun g => { g with variant := none }
  if p.site.gateway.state = .stopped then p else p.enter .stopped

/-- The result of a stop: the failure of the server, or else that of the registry. -/
def stopResult (server : Except GatewayError Unit) (registry : Except HostError Unit) :
    Except GatewayError Unit :=
  match server, registry with
  | .error e, _ => .error e
  | .ok (), .error e => .error (.registry e)
  | .ok (), .ok () => .ok ()

/-- **A stop.**  Every step is taken, also after one that failed. -/
def stop (p : Progress) (c : Conditions) : Except GatewayError Unit × Progress :=
  -- In the order against that of a start: whoever finds the server finds the authority behind it.
  let p := p.setReady false
  let (serverResult, p) := p.releaseServer c
  let (registryResult, p) := p.releaseRegistration c
  (stopResult serverResult registryResult, p.releaseAuthority.settle)

/-- **A start.**  A started gateway is left alone; a start that fails is followed by a stop and
gives its own error. -/
def start (p : Progress) (c : Conditions) : Except GatewayError Unit × Progress :=
  if p.site.gateway.state.isStarted then (.error .alreadyStarted, p)
  else
    match p.tryStart c with
    | (.ok (), p) => (.ok (), p)
    | (.error e, p) => (.error e, (p.stop c).2)

end Progress

/-! ### Whole starts and stops -/

/-- What a start or a stop came to. -/
structure Outcome where
  result : Except GatewayError Unit
  site : Site
  events : List Event

def Outcome.ofProgress (r : Except GatewayError Unit × Progress) : Outcome :=
  ⟨r.1, r.2.site, r.2.events⟩

namespace Site

/-- **Starts the gateway of a site.** -/
def start (s : Site) (c : Conditions) : Outcome := .ofProgress (Progress.start ⟨s, []⟩ c)

/-- **Stops the gateway of a site.** -/
def stop (s : Site) (c : Conditions) : Outcome := .ofProgress (Progress.stop ⟨s, []⟩ c)

/-- A second start changes nothing. -/
theorem start_of_isStarted {s : Site} {c : Conditions} (h : s.gateway.state.isStarted = true) :
    s.start c = ⟨.error .alreadyStarted, s, []⟩ := by
  simp [start, Progress.start, Outcome.ofProgress, h]

end Site

end ConferenceAuth
