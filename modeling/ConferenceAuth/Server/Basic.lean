/-
**The embedded server.**

A server has connectors and handlers.  When it starts it binds all its connectors in order, or none:
if one cannot be bound, those before it are given back.  Transport security is ended by the web
server in front, so a connector with it is refused before anything is bound.

Besides the servers that bind there are those that only record what is asked of them; they take part
in the same lifecycle, and may be made to refuse every start.

Main definitions:

* `Listener`, `Server`, `Server.running`;
* `bindAll` — binds a row of connectors, or none;
* `ServerFactory` — how the servers of a gateway start;
* `Server.start`, `Server.stop`, `Server.localAddress?`.

Main results:

* `bindAll_kinds` — one listener for each connector, in order and of its kind;
* `Server.start_error` — a start that fails changes neither the server nor the network;
* `Server.start_ok` — a start that succeeds changes the server in nothing but its listeners;
* `Server.stop_idle` — a server that does not run has nothing to give back.
-/
import ConferenceAuth.Http.Chain
import ConferenceAuth.Server.Network

set_option autoImplicit false

namespace ConferenceAuth

/-! ### Listeners -/

/-- An address that a server listens on, for one of its connectors. -/
structure Listener where
  kind : ConnectorKind
  address : Net.SocketAddress
  deriving DecidableEq, Repr

/-- Binds a row of connectors in order; fails at the first that cannot be bound. -/
def bindAll : List Connector → Network → Except GatewayError (List Listener × Network)
  | [], net => .ok ([], net)
  | c :: cs, net =>
      match net.bind c.address with
      | .error failure => .error (.bind c.kind c.address failure.reason)
      | .ok (address, net) =>
          match bindAll cs net with
          | .error e => .error e
          | .ok (listeners, net) => .ok (⟨c.kind, address⟩ :: listeners, net)

/-- One listener for each connector, in order and of its kind. -/
theorem bindAll_kinds {cs : List Connector} {net net' : Network} {listeners : List Listener}
    (h : bindAll cs net = .ok (listeners, net')) :
    listeners.map (·.kind) = cs.map (·.kind) := by
  induction cs generalizing net net' listeners with
  | nil =>
      simp only [bindAll, Except.ok.injEq, Prod.mk.injEq] at h
      rw [← h.1]
      rfl
  | cons c cs ih =>
      simp only [bindAll] at h
      split at h
      · simp at h
      · split at h
        · simp at h
        · next hb =>
          simp only [Except.ok.injEq, Prod.mk.injEq] at h
          rw [← h.1, List.map_cons, ih hb]
          rfl

/-! ### Servers -/

/-- An embedded server. -/
structure Server where
  config : HttpConfig
  connectors : List Connector
  handlers : Chain := []
  /-- What it listens on, while it runs. -/
  listeners : Option (List Listener) := none
  stopCalls : Nat := 0
  deriving DecidableEq, Repr

/-- How the servers of a gateway start. -/
inductive ServerFactory where
  | binding
  /-- They only record that they were started. -/
  | recording
  | refusing (reason : String)
  deriving DecidableEq, Repr

/-- A start of a server that runs. -/
def GatewayError.alreadyRunning : GatewayError := .server "server already running"

/-- A start of a server that has nothing to listen on. -/
def GatewayError.noConnectors : GatewayError := .server "no connectors configured"

namespace Server

def create (config : HttpConfig) : Server := { config, connectors := config.connectors }

def running (s : Server) : Bool := s.listeners.isSome

/-- The server with more handlers behind its own. -/
def addHandlers (s : Server) (c : Chain) : Server := { s with handlers := s.handlers ++ c }

def addConnector (s : Server) (c : Connector) : Server :=
  { s with connectors := s.connectors ++ [c] }

/-- The listeners of a start that binds. -/
def listen (s : Server) (net : Network) : Except GatewayError (List Listener × Network) :=
  if s.running then .error .alreadyRunning
  else if s.connectors = [] then .error .noConnectors
  -- Looked for in the whole row first, so that nothing has been bound yet.
  else if s.connectors.any (·.kind == .tls) then .error (.unsupportedConnector .tls)
  else bindAll s.connectors net

/-- **Starts a server** in the way of its factory. -/
def start (s : Server) (factory : ServerFactory) (net : Network) :
    Except GatewayError Unit × Server × Network :=
  match factory with
  | .refusing reason => (.error (.server reason), s, net)
  | .recording => (.ok (), { s with listeners := some [] }, net)
  | .binding =>
      match s.listen net with
      | .error e => (.error e, s, net)
      | .ok (listeners, net) => (.ok (), { s with listeners := some listeners }, net)

/-- **Stops a server**, which gives its addresses back. -/
def stop (s : Server) (net : Network) : Server × Network :=
  ({ s with listeners := none, stopCalls := s.stopCalls + 1 },
    net.release ((s.listeners.getD []).map (·.address)))

/-- The address of the first connector of a kind, while the server runs. -/
def localAddress? (s : Server) (kind : ConnectorKind) : Option Net.SocketAddress :=
  ((s.listeners.getD []).find? (·.kind == kind)).map (·.address)

/-- Where a client would look for the server: at the connector for forwarded requests, or else at
the plain one. -/
def contact? (s : Server) : Option Net.SocketAddress :=
  (s.localAddress? .reverseProxy).or (s.localAddress? .http)

/-- A start that fails changes neither the server nor the network. -/
theorem start_error {s s' : Server} {factory : ServerFactory} {net net' : Network}
    {e : GatewayError} (h : s.start factory net = (.error e, s', net')) : s' = s ∧ net' = net := by
  cases factory with
  | refusing reason => simp only [start] at h; cases h; exact ⟨rfl, rfl⟩
  | recording => simp [start] at h
  | binding =>
      simp only [start] at h
      split at h
      · cases h; exact ⟨rfl, rfl⟩
      · cases h

/-- **A server that has started runs**, and has not been stopped in between. -/
theorem start_ok {s s' : Server} {factory : ServerFactory} {net net' : Network}
    (h : s.start factory net = (.ok (), s', net')) :
    s'.running = true ∧ s'.stopCalls = s.stopCalls ∧ s'.connectors = s.connectors ∧
      s'.config = s.config ∧ s'.handlers = s.handlers := by
  cases factory with
  | refusing reason => simp [start] at h
  | recording =>
      simp only [start, Prod.mk.injEq, true_and] at h
      obtain ⟨rfl, -⟩ := h
      exact ⟨rfl, rfl, rfl, rfl, rfl⟩
  | binding =>
      simp only [start] at h
      split at h
      · cases h
      · cases h
        exact ⟨rfl, rfl, rfl, rfl, rfl⟩

/-- **A server that does not run has nothing to give back.** -/
theorem stop_idle {s : Server} (h : s.listeners = none) (net : Network) :
    s.stop net = ({ s with stopCalls := s.stopCalls + 1 }, net) := by
  have hstopped : { s with listeners := none, stopCalls := s.stopCalls + 1 } =
      { s with stopCalls := s.stopCalls + 1 } := by rw [← h]
  have htaken : net.taken.filter (fun a => !([] : List Net.SocketAddress).contains a) =
      net.taken := List.filter_eq_self.2 fun _ _ => rfl
  simp only [stop, Network.release, h, Option.getD_none, List.map_nil, htaken, hstopped]

end Server

/-! ### Clients -/

/-- What becomes of a client's request. -/
inductive Delivery where
  | noAddress
  | refused
  | answered (response : Response)
  deriving DecidableEq, Repr

/-- A request that is sent to a server at an address. -/
def Server.deliver (s : Server) (net : Network) (address : Option Net.SocketAddress) (r : Request)
    (b : Backend) : Delivery × Backend :=
  match address with
  | none => (.noAddress, b)
  | some a =>
      if net.connects a && (s.listeners.getD []).any (·.address == a) then
        let (response, b') := Chain.router s.handlers r b
        (.answered response, b')
      else (.refused, b)

end ConferenceAuth
