/-
**Cycles of starting and stopping a server.**

A server is given connectors and handlers, and is started and stopped, in any order and any number
of times, while others hold whatever they hold of the network.  Between two of these calls it either
listens at every connector that it was started with, or nothing of it is bound.  Connectors that it
is given while it runs have no address until its next start.

Main definitions:

* `Server.Run` — the runs of a server that binds;
* `Server.ListensAt`, `Server.Settled` — how a server stands between two calls.

Main results:

* `Server.Settled.addConnector`, `Server.Settled.addHandlers`, `Server.Settled.start`,
  `Server.Settled.stop` — one more call;
* `Server.Run.settled` — any number of calls;
* `server_start_all_or_nothing` — **a server starts as a whole or not at all**, and a stop undoes a
  start.
-/
import ConferenceAuth.Proofs.Server.Binding

set_option autoImplicit false

namespace ConferenceAuth

namespace Server

/-! ### Runs -/

/-- **A run of a server that binds**, from a given server and a network in which others hold what
they hold. -/
inductive Run (net₀ : Network) (s₀ : Server) : Server → Network → Prop
  | new : Run net₀ s₀ s₀ net₀
  | addConnector {s : Server} {net : Network} (h : Run net₀ s₀ s net) (c : Connector) :
      Run net₀ s₀ (s.addConnector c) net
  | addHandlers {s : Server} {net : Network} (h : Run net₀ s₀ s net) (chain : Chain) :
      Run net₀ s₀ (s.addHandlers chain) net
  | start {s : Server} {net : Network} (h : Run net₀ s₀ s net) :
      Run net₀ s₀ (s.start .binding net).2.1 (s.start .binding net).2.2
  | stop {s : Server} {net : Network} (h : Run net₀ s₀ s net) :
      Run net₀ s₀ (s.stop net).1 (s.stop net).2

/-- **A server listens** at a row of connectors that it has been started with in a given network; it
may have been given others since. -/
structure ListensAt (net₀ : Network) (s : Server) (net : Network) (bound added : List Connector)
    (listeners : List Listener) : Prop where
  row : s.connectors = bound ++ added
  listening : s.listeners = some listeners
  nonempty : bound ≠ []
  plain : ∀ c ∈ bound, c.kind ≠ .tls
  binds : Binds bound net₀ listeners net

/-- **How a server stands between two calls**: nothing of it is bound, or it listens. -/
inductive Settled (net₀ : Network) (s : Server) (net : Network) : Prop
  | idle (h : s.listeners = none) (unbound : net = net₀)
  | listening {bound added : List Connector} {listeners : List Listener}
      (h : ListensAt net₀ s net bound added listeners)

/-! ### Servers that listen -/

namespace ListensAt

variable {net₀ net : Network} {s : Server} {bound added : List Connector}
  {listeners : List Listener}

theorem running (h : ListensAt net₀ s net bound added listeners) : s.running = true := by
  rw [Server.running, h.listening]
  rfl

/-- **A stop gives everything back.** -/
theorem stop_eq (h : ListensAt net₀ s net bound added listeners) :
    s.stop net = ({ s with listeners := none, stopCalls := s.stopCalls + 1 }, net₀) := by
  rw [stop, h.listening, Option.getD_some, h.binds.release_eq]

/-- A start that follows a stop binds the same connectors at the same addresses, unless others have
been added. -/
theorem start_stop_eq (h : ListensAt net₀ s net bound [] listeners) :
    (s.stop net).1.start .binding (s.stop net).2 =
      (.ok (), { s with stopCalls := s.stopCalls + 1 }, net) := by
  have hrow : s.connectors = bound := by rw [h.row, List.append_nil]
  rw [h.stop_eq, start_of_binds rfl (hrow ▸ h.nonempty) (hrow ▸ h.plain) (hrow ▸ h.binds),
    ← h.listening]

/-- **The local address of a kind** is that of the listener of the first connector of this kind. -/
theorem localAddress?_eq (h : ListensAt net₀ s net bound added listeners) (kind : ConnectorKind) :
    s.localAddress? kind =
      ((s.connectors.zip listeners).find? (·.1.kind == kind)).map (·.2.address) := by
  rw [localAddress?, h.listening, Option.getD_some, h.binds.find?_kind added, h.row, Option.map_map]
  rfl

end ListensAt

/-! ### One more call -/

namespace Settled

variable {net₀ net : Network} {s : Server}

theorem addConnector (h : Settled net₀ s net) (c : Connector) :
    Settled net₀ (s.addConnector c) net := by
  cases h with
  | idle hidle hnet => exact .idle hidle hnet
  | @listening bound added listeners h =>
      have hrow : (s.addConnector c).connectors = bound ++ (added ++ [c]) := by
        rw [Server.addConnector, h.row, List.append_assoc]
      exact .listening ⟨hrow, h.listening, h.nonempty, h.plain, h.binds⟩

theorem addHandlers (h : Settled net₀ s net) (chain : Chain) :
    Settled net₀ (s.addHandlers chain) net := by
  cases h with
  | idle hidle hnet => exact .idle hidle hnet
  | listening h => exact .listening ⟨h.row, h.listening, h.nonempty, h.plain, h.binds⟩

/-- **After a start the server listens at all its connectors**, or all is as it was. -/
theorem start (h : Settled net₀ s net) :
    Settled net₀ (s.start .binding net).2.1 (s.start .binding net).2.2 := by
  cases h with
  | listening h => rw [start_of_running h.running]; exact .listening h
  | idle hidle hnet =>
      subst hnet
      have hrunning : s.running = false := by rw [running, hidle]; rfl
      by_cases hne : s.connectors = []
      · rw [start_of_nil hrunning hne]
        exact .idle hidle rfl
      by_cases hplain : ∀ c ∈ s.connectors, c.kind ≠ .tls
      · rcases binds_or_stopsAt s.connectors net with ⟨listeners, last, hbinds⟩ | ⟨c, failure, hstops⟩
        · rw [start_of_binds hrunning hne hplain hbinds]
          exact .listening ⟨(List.append_nil _).symm, rfl, hne, hplain, hbinds⟩
        · rw [start_of_stopsAt hrunning hplain hstops]
          exact .idle hidle rfl
      · simp only [ne_eq, Classical.not_forall, Classical.not_not] at hplain
        obtain ⟨c, hc, htls⟩ := hplain
        rw [start_of_tls hrunning hc htls]
        exact .idle hidle rfl

theorem stop (h : Settled net₀ s net) : Settled net₀ (s.stop net).1 (s.stop net).2 := by
  cases h with
  | idle hidle hnet => rw [stop_idle hidle]; exact .idle hidle hnet
  | listening h => rw [h.stop_eq]; exact .idle rfl rfl

/-- A server that does not run has nothing bound. -/
theorem of_not_running (h : Settled net₀ s net) (hs : s.running = false) : net = net₀ := by
  cases h with
  | idle _ hnet => exact hnet
  | listening h => exact absurd h.running (by simp [hs])

end Settled

/-- How a server stands after any number of calls. -/
theorem Run.settled {net₀ net : Network} {s₀ s : Server} (hs₀ : s₀.running = false)
    (h : Run net₀ s₀ s net) : Settled net₀ s net := by
  induction h with
  | new => exact .idle (by simpa [running] using hs₀) rfl
  | addConnector _ c ih => exact ih.addConnector c
  | addHandlers _ chain ih => exact ih.addHandlers chain
  | start _ ih => exact ih.start
  | stop _ ih => exact ih.stop

end Server

/-! ### All or nothing -/

/-- **A server starts as a whole or not at all.**  Take any server that does not run, any network in
which others hold what they hold, and the server and the network after any calls to it.

* A server that runs refuses to start.  One that does not refuses to start without connectors, and
  with any connector for transport security; otherwise it fails to start at the first connector that
  cannot be bound in the network left by those before it, of which it gives the kind, the address
  text and the reason, or it starts.
* Once it has started, there is one listener for each connector, in order and of its kind, at an
  address of its own that was not taken before.
* A start that fails has changed neither the server nor the network.
* A server that does not run has nothing bound, and no local address.  One that runs listens at the
  connectors that it was started with, and the local address of a kind is that of the first connector
  of this kind; a connector that it was given since has none.
* After a stop nothing of it is bound.  It still has its connectors and handlers, and when it was
  given no connectors since its start it can be started again, at the same addresses. -/
theorem server_start_all_or_nothing {net₀ net : Network} {s₀ s : Server}
    (hs₀ : s₀.running = false) (h : Server.Run net₀ s₀ s net) :
    (s.running = true →
      (s.start .binding net).1 = .error (.server "server already running")) ∧
    (s.running = false → s.connectors = [] →
      (s.start .binding net).1 = .error (.server "no connectors configured")) ∧
    (s.running = false → (∃ c ∈ s.connectors, c.kind = .tls) →
      (s.start .binding net).1 = .error (.unsupportedConnector .tls)) ∧
    (s.running = false → s.connectors ≠ [] → (∀ c ∈ s.connectors, c.kind ≠ .tls) →
      (∃ c failure, StopsAt s.connectors net c failure ∧
        (s.start .binding net).1 = .error (.bind c.kind c.address failure.reason)) ∨
      (∃ listeners last, Binds s.connectors net listeners last ∧
        s.start .binding net = (.ok (), { s with listeners := some listeners }, last) ∧
        listeners.map (·.kind) = s.connectors.map (·.kind) ∧
        last.taken = net.taken ++ listeners.map (·.address) ∧
        (listeners.map (·.address)).Nodup ∧ ∀ l ∈ listeners, l.address ∉ net.taken)) ∧
    (∀ e, (s.start .binding net).1 = .error e → (s.start .binding net).2 = (s, net)) ∧
    (s.running = false → net = net₀ ∧ ∀ kind, s.localAddress? kind = none) ∧
    (s.running = true → ∃ bound added listeners, s.connectors = bound ++ added ∧
      s.listeners = some listeners ∧ Binds bound net₀ listeners net ∧
      (∀ kind, s.localAddress? kind =
        ((s.connectors.zip listeners).find? (·.1.kind == kind)).map (·.2.address)) ∧
      (added = [] → (s.stop net).1.start .binding (s.stop net).2 =
        (.ok (), { s with stopCalls := s.stopCalls + 1 }, net))) ∧
    ((s.stop net).2 = net₀ ∧ (s.stop net).1.running = false ∧
      (s.stop net).1.connectors = s.connectors ∧ (s.stop net).1.handlers = s.handlers) := by
  have hsettled := h.settled hs₀
  refine ⟨fun hrunning => ?alreadyRunning, fun hidle hnil => ?noConnectors,
    fun hidle ⟨c, hc, htls⟩ => ?unsupported, fun hidle hne hplain => ?binding,
    fun e he => ?unchanged, fun hidle => ⟨hsettled.of_not_running hidle, fun kind => ?unbound⟩,
    fun hrunning => ?listening, hsettled.stop.of_not_running rfl, rfl, rfl, rfl⟩
  case alreadyRunning =>
    rw [Server.start_of_running hrunning]
    rfl
  case noConnectors =>
    rw [Server.start_of_nil hidle hnil]
    rfl
  case unsupported => rw [Server.start_of_tls hidle hc htls]
  case binding =>
    rcases binds_or_stopsAt s.connectors net with ⟨listeners, last, hbinds⟩ | ⟨c, failure, hstops⟩
    · exact Or.inr ⟨listeners, last, hbinds, Server.start_of_binds hidle hne hplain hbinds,
        hbinds.kinds_eq, hbinds.taken_eq, hbinds.addresses_nodup, hbinds.not_mem_taken⟩
    · refine Or.inl ⟨c, failure, hstops, ?_⟩
      rw [Server.start_of_stopsAt hidle hplain hstops]
  case unchanged =>
    rcases hstart : s.start .binding net with ⟨result, s', net'⟩
    rw [hstart] at he
    obtain rfl : result = .error e := he
    obtain ⟨rfl, rfl⟩ := Server.start_error hstart
    rfl
  case unbound =>
    have hnone : s.listeners = none := by simpa [Server.running] using hidle
    rw [Server.localAddress?, hnone]
    rfl
  case listening =>
    cases hsettled with
    | idle hnone _ =>
        rw [Server.running, hnone] at hrunning
        cases hrunning
    | @listening bound added listeners h =>
        refine ⟨bound, added, listeners, h.row, h.listening, h.binds, h.localAddress?_eq, ?_⟩
        rintro rfl
        exact h.start_stop_eq

/-- In a rehearsal a server that would listen on all interfaces is given a connector of the same port
on the loopback interface.  It binds the first and fails at the second, because of the first, which
it gives back; without the second it would have started. -/
theorem server_starts_only_without_overlap :
    let s₀ := Server.create { port := some 8080 }
    let s := s₀.addConnector (.http (some "127.0.0.1") 8080)
    let net₀ : Network := {}
    s₀.running = false ∧ Server.Run net₀ s₀ s net₀ ∧
      s.start .binding net₀ =
        (.error (.bind .http "127.0.0.1:8080" "Address already in use (os error 98)"), s, net₀) ∧
      ∃ listeners last, Binds s₀.connectors net₀ listeners last ∧
        s₀.start .binding net₀ = (.ok (), { s₀ with listeners := some listeners }, last) := by
  intro s₀ s net₀
  have hrun : Server.Run net₀ s₀ s net₀ := .addConnector .new _
  have herror : (s.start .binding net₀).1 =
      .error (.bind .http "127.0.0.1:8080" "Address already in use (os error 98)") := by
    decide +kernel
  have hok : (s₀.start .binding net₀).1 = .ok () := by decide +kernel
  obtain ⟨-, -, -, -, hunchanged, -⟩ := server_start_all_or_nothing rfl hrun
  have hnew : Server.Run net₀ s₀ s₀ net₀ := .new
  obtain ⟨-, -, -, hbinding, -⟩ := server_start_all_or_nothing rfl hnew
  refine ⟨rfl, hrun, Prod.ext herror (hunchanged _ herror), ?_⟩
  rcases hbinding rfl (by decide) (by decide) with ⟨c, failure, -, hfails⟩ | ⟨ls, last, hbinds, h, -⟩
  · rw [hok] at hfails
    cases hfails
  · exact ⟨ls, last, hbinds, h⟩

end ConferenceAuth
