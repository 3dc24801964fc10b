/-
**What binding a row of connectors comes to.**

A server binds its connectors in order, each in the network that those before it have left, or it
stops at the first that cannot be bound.  Which of the two happens is a matter of the row and the
network alone, so it is described here by a relation, apart from the walk that finds out.  A row that
has been bound is in nobody's way and can be given back without a trace.

Main definitions:

* `Binds` — a row of connectors is bound by listeners;
* `StopsAt` — the first connector of a row that cannot be bound.

Main results:

* `bindAll_eq_ok_iff`, `bindAll_eq_error_iff` — **the walk along the row finds out**;
* `Binds.network_eq`, `Binds.addresses_nodup` — one new address for each connector;
* `Binds.find?_kind` — the first listener of a kind;
* `Binds.release_eq` — **what has been bound can be given back**;
* `Server.start_of_running`, `Server.start_of_nil`, `Server.start_of_tls`, `Server.start_of_stopsAt`,
  `Server.start_of_binds` — what becomes of the start of a server that binds.
-/
import ConferenceAuth.Server.Basic

set_option autoImplicit false

namespace ConferenceAuth

/-! ### Rows of connectors -/

/-- **A row of connectors is bound** by listeners, each in the network left by those before it. -/
inductive Binds : List Connector → Network → List Listener → Network → Prop
  | nil (net : Network) : Binds [] net [] net
  | cons {c : Connector} {cs : List Connector} {net next last : Network}
      {address : Net.SocketAddress} {listeners : List Listener}
      (first : net.bind c.address = .ok (address, next)) (rest : Binds cs next listeners last) :
      Binds (c :: cs) net (⟨c.kind, address⟩ :: listeners) last

/-- **The first connector of a row that cannot be bound**, and why: those before it are bound, and
it cannot be bound in the network that they leave. -/
def StopsAt (cs : List Connector) (net : Network) (c : Connector) (failure : BindFailure) : Prop :=
  ∃ before after listeners next, cs = before ++ c :: after ∧ Binds before net listeners next ∧
    next.bind c.address = .error failure

theorem bindAll_of_binds {cs : List Connector} {net last : Network} {listeners : List Listener}
    (h : Binds cs net listeners last) : bindAll cs net = .ok (listeners, last) := by
  induction h with
  | nil net => rfl
  | cons first _ ih => simp only [bindAll, first, ih]

theorem bindAll_of_stopsAt {cs : List Connector} {net : Network} {c : Connector}
    {failure : BindFailure} (h : StopsAt cs net c failure) :
    bindAll cs net = .error (.bind c.kind c.address failure.reason) := by
  obtain ⟨before, after, listeners, next, rfl, hbefore, hc⟩ := h
  induction hbefore with
  | nil net => simp only [List.nil_append, bindAll, hc]
  | cons first _ ih => simp only [List.cons_append, bindAll, first, ih hc]

/-- A row that is bound has no connector that cannot be. -/
theorem Binds.not_stopsAt {cs : List Connector} {net last : Network} {listeners : List Listener}
    (h : Binds cs net listeners last) {c : Connector} {failure : BindFailure} :
    ¬ StopsAt cs net c failure := by
  intro hstops
  have hwalk := bindAll_of_stopsAt hstops
  rw [bindAll_of_binds h] at hwalk
  cases hwalk

/-- A row of connectors is bound, or there is a first one that cannot be. -/
theorem binds_or_stopsAt (cs : List Connector) (net : Network) :
    (∃ listeners last, Binds cs net listeners last) ∨ ∃ c failure, StopsAt cs net c failure := by
  induction cs generalizing net with
  | nil => exact Or.inl ⟨[], net, .nil net⟩
  | cons c cs ih =>
      cases hc : net.bind c.address with
      | error failure => exact Or.inr ⟨c, failure, [], cs, [], net, rfl, .nil net, hc⟩
      | ok bound =>
          rcases ih bound.2 with ⟨listeners, last, hcs⟩ | ⟨c', failure, before, after, ls, next, h⟩
          · exact Or.inl ⟨_, last, .cons hc hcs⟩
          · obtain ⟨rfl, hbefore, hc'⟩ := h
            exact Or.inr ⟨c', failure, c :: before, after, _, next, rfl, .cons hc hbefore, hc'⟩

/-- **The walk along a row succeeds** exactly if the row can be bound, and by its listeners. -/
theorem bindAll_eq_ok_iff {cs : List Connector} {net last : Network} {listeners : List Listener} :
    bindAll cs net = .ok (listeners, last) ↔ Binds cs net listeners last := by
  refine ⟨fun h => ?_, bindAll_of_binds⟩
  rcases binds_or_stopsAt cs net with ⟨listeners', last', hbinds⟩ | ⟨c, failure, hstops⟩
  · rw [bindAll_of_binds hbinds] at h
    cases h
    exact hbinds
  · rw [bindAll_of_stopsAt hstops] at h
    cases h

/-- **The walk along a row fails** exactly if there is a first connector that cannot be bound, and
tells which and why. -/
theorem bindAll_eq_error_iff {cs : List Connector} {net : Network} {e : GatewayError} :
    bindAll cs net = .error e ↔
      ∃ c failure, StopsAt cs net c failure ∧ e = .bind c.kind c.address failure.reason := by
  constructor
  · intro h
    rcases binds_or_stopsAt cs net with ⟨listeners, last, hbinds⟩ | ⟨c, failure, hstops⟩
    · rw [bindAll_of_binds hbinds] at h
      cases h
    · rw [bindAll_of_stopsAt hstops] at h
      cases h
      exact ⟨c, failure, hstops, rfl⟩
  · rintro ⟨c, failure, hstops, rfl⟩
    exact bindAll_of_stopsAt hstops

/-! ### What has been bound -/

/-- An address that is free is not taken. -/
theorem Network.not_mem_taken_of_isFree {net : Network} {a : Net.SocketAddress}
    (h : net.isFree a = true) : a ∉ net.taken := by
  intro hmem
  have hoverlaps : net.taken.any (·.overlaps a) = true :=
    List.any_eq_true.2 ⟨a, hmem, a.overlaps_self⟩
  rw [isFree, hoverlaps] at h
  cases h

namespace Binds

variable {cs : List Connector} {net last : Network} {listeners : List Listener}

/-- There is one listener for each connector, in order and of its kind. -/
theorem kinds_eq (h : Binds cs net listeners last) :
    listeners.map (·.kind) = cs.map (·.kind) := bindAll_kinds (bindAll_of_binds h)

/-- The first listener of a kind is that of the first connector of this kind, also when connectors
have been added behind the row. -/
theorem find?_kind (h : Binds cs net listeners last) (added : List Connector)
    (kind : ConnectorKind) :
    listeners.find? (·.kind == kind) =
      (((cs ++ added).zip listeners).find? (·.1.kind == kind)).map (·.2) := by
  induction h with
  | nil net =>
      rw [List.zip_nil_right]
      rfl
  | @cons c cs net next last address listeners first rest ih =>
      rw [List.cons_append, List.zip_cons_cons, List.find?_cons, List.find?_cons]
      cases hc : c.kind == kind with
      | true => rfl
      | false => exact ih

/-- The addresses of the listeners are taken, in order, and all else is as it was. -/
theorem network_eq (h : Binds cs net listeners last) :
    last = { net with taken := net.taken ++ listeners.map (·.address) } := by
  induction h with
  | nil net => rw [List.map_nil, List.append_nil]
  | cons first _ ih =>
      obtain ⟨_, _, _, _, rfl⟩ := Network.place_of_bind first
      rw [ih, List.map_cons, List.append_assoc, List.singleton_append]

theorem taken_eq (h : Binds cs net listeners last) :
    last.taken = net.taken ++ listeners.map (·.address) := by
  rw [h.network_eq]

/-- None of the addresses was taken before. -/
theorem not_mem_taken (h : Binds cs net listeners last) :
    ∀ l ∈ listeners, l.address ∉ net.taken := by
  induction h with
  | nil net => simp
  | @cons c cs net next last address listeners first _ ih =>
      intro l hl
      rcases List.mem_cons.1 hl with rfl | hl
      · exact Network.not_mem_taken_of_isFree (Network.isFree_of_bind first)
      · intro hmem
        refine ih l hl ?_
        rw [Network.bind_taken first]
        exact List.mem_append_left _ hmem

/-- The addresses are different. -/
theorem addresses_nodup (h : Binds cs net listeners last) :
    (listeners.map (·.address)).Nodup := by
  induction h with
  | nil net => exact List.nodup_nil
  | @cons c cs net next last address listeners first rest ih =>
      rw [List.map_cons, List.nodup_cons]
      refine ⟨fun hmem => ?_, ih⟩
      obtain ⟨l, hl, haddress⟩ := List.mem_map.1 hmem
      refine rest.not_mem_taken l hl ?_
      rw [haddress, Network.bind_taken first]
      exact List.mem_append_right _ (List.mem_singleton_self _)

/-- **What has been bound can be given back**, and leaves no trace. -/
theorem release_eq (h : Binds cs net listeners last) :
    last.release (listeners.map (·.address)) = net := by
  have hkept : net.taken.filter (fun a => !(listeners.map (·.address)).contains a) = net.taken := by
    refine List.filter_eq_self.2 fun a ha => ?_
    rw [Bool.not_eq_true', ← Bool.not_eq_true, List.contains_iff_mem]
    rintro hmem
    obtain ⟨l, hl, rfl⟩ := List.mem_map.1 hmem
    exact h.not_mem_taken l hl ha
  have hgiven : (listeners.map (·.address)).filter
      (fun a => !(listeners.map (·.address)).contains a) = [] := by
    refine List.filter_eq_nil_iff.2 fun a ha => ?_
    rw [Bool.not_eq_true', Bool.not_eq_false, List.contains_iff_mem]
    exact ha
  rw [h.network_eq, Network.release, List.filter_append, hkept, hgiven, List.append_nil]

end Binds

/-! ### Starts that bind -/

namespace Server

variable {s : Server} {net : Network}

theorem start_of_listen_error {e : GatewayError} (h : s.listen net = .error e) :
    s.start .binding net = (.error e, s, net) := by
  simp only [start, h]

theorem start_of_running (h : s.running = true) :
    s.start .binding net = (.error .alreadyRunning, s, net) :=
  start_of_listen_error (by rw [listen, if_pos h])

theorem start_of_nil (h : s.running = false) (hnil : s.connectors = []) :
    s.start .binding net = (.error .noConnectors, s, net) :=
  start_of_listen_error (by rw [listen, if_neg (by simp [h]), if_pos hnil])

/-- A connector with transport security is refused wherever it stands. -/
theorem start_of_tls (h : s.running = false) {c : Connector} (hc : c ∈ s.connectors)
    (htls : c.kind = .tls) :
    s.start .binding net = (.error (.unsupportedConnector .tls), s, net) := by
  have hany : s.connectors.any (·.kind == .tls) = true :=
    List.any_eq_true.2 ⟨c, hc, beq_iff_eq.2 htls⟩
  refine start_of_listen_error ?_
  rw [listen, if_neg (by simp [h]), if_neg (List.ne_nil_of_mem hc), if_pos hany]

theorem listen_of_plain (h : s.running = false) (hne : s.connectors ≠ [])
    (hplain : ∀ c ∈ s.connectors, c.kind ≠ .tls) : s.listen net = bindAll s.connectors net := by
  have hany : ¬ s.connectors.any (·.kind == .tls) = true := by
    rw [List.any_eq_true]
    rintro ⟨c, hc, htls⟩
    exact hplain c hc (beq_iff_eq.1 htls)
  rw [listen, if_neg (by simp [h]), if_neg hne, if_neg hany]

/-- **A start fails at the first connector that cannot be bound.** -/
theorem start_of_stopsAt (h : s.running = false) (hplain : ∀ c ∈ s.connectors, c.kind ≠ .tls)
    {c : Connector} {failure : BindFailure} (hstops : StopsAt s.connectors net c failure) :
    s.start .binding net = (.error (.bind c.kind c.address failure.reason), s, net) := by
  have hne : s.connectors ≠ [] := by
    obtain ⟨before, after, _, _, hrow, -⟩ := hstops
    rw [hrow]
    simp
  exact start_of_listen_error ((listen_of_plain h hne hplain).trans (bindAll_of_stopsAt hstops))

/-- **A start succeeds when all connectors can be bound.** -/
theorem start_of_binds (h : s.running = false) (hne : s.connectors ≠ [])
    (hplain : ∀ c ∈ s.connectors, c.kind ≠ .tls) {listeners : List Listener} {last : Network}
    (hbinds : Binds s.connectors net listeners last) :
    s.start .binding net = (.ok (), { s with listeners := some listeners }, last) := by
  simp only [start, listen_of_plain h hne hplain, bindAll_of_binds hbinds]

end Server

end ConferenceAuth
