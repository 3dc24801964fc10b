/-
**Gateways that nobody can tell apart.**

Two gateways may refer to different authorities, entries and servers, in registries with different
publications, and still behave alike: whatever is asked of them, both give the same result and make
the same calls, but for the numbers and identifiers of what the calls are about.  Sites whose
gateways are so related are twins.  A start or a stop of both under the same conditions leads from
twins to twins, and so does any row of them.

Main definitions:

* `Call.anonymous`, `GatewayError.anonymous`, `Server.anonymous` — without numbers and identifiers;
* `Action`, `Sighting`, `Site.sightings` — a row of starts and stops, and what is seen of it;
* `Site.Twin`, `Progress.Twin` — gateways that nobody can tell apart.

Main results:

* `Progress.Twin.tryStart`, `Progress.Twin.stop` — **twins stay twins**;
* `Site.Twin.sightings_eq` — **of twins the same is seen in every row of starts and stops**.
-/
import ConferenceAuth.Proofs.Gateway.Steps

set_option autoImplicit false

namespace ConferenceAuth

/-! ### Without numbers and identifiers -/

/-- A call without the number or identifier of what it is about. -/
def Call.anonymous : Call → Call
  | .withdraw entry ok => .withdraw ⟨"", entry.service⟩ ok
  | .startAuthority _ ok => .startAuthority 0 ok
  | .stopAuthority _ => .stopAuthority 0
  | .startServer _ ok => .startServer 0 ok
  | .stopServer _ ok => .stopServer 0 ok
  | call => call

/-- An error without the identifier of the entry that it is about. -/
def GatewayError.anonymous : GatewayError → GatewayError
  | .registry (.entryNotFound _) => .registry (.entryNotFound "")
  | e => e

/-- A server without its handlers, which refer to an authority by number. -/
def Server.anonymous (s : Server) : Server := { s with handlers := [] }

/-! ### What is seen -/

/-- A start or a stop under conditions. -/
inductive Action where
  | start (c : Conditions)
  | stop (c : Conditions)

/-- The outcome of a start or a stop. -/
def Site.act (s : Site) : Action → Outcome
  | .start c => s.start c
  | .stop c => s.stop c

/-- What is seen of a start or a stop. -/
structure Sighting where
  result : Except GatewayError Unit
  calls : List Call
  state : LifecycleState
  variant : Option AuthorityVariant
  /-- The service under which something is published. -/
  service : Option String
  server : Option Server
  ready : Bool

/-- What is seen of an outcome. -/
def Outcome.seen (o : Outcome) : Sighting where
  result := o.result.mapError GatewayError.anonymous
  calls := o.events.map fun ev => ev.call.anonymous
  state := o.site.gateway.state
  variant := o.site.gateway.variant
  service := o.site.gateway.registration.map (·.service)
  server := (o.site.gateway.server.bind o.site.server?).map Server.anonymous
  ready := o.site.ready

/-- **What is seen of a row of starts and stops.** -/
def Site.sightings (s : Site) : List Action → List Sighting
  | [] => []
  | a :: as => (s.act a).seen :: (s.act a).site.sightings as

/-! ### Twins -/

/-- What is related is absent on both sides, or there on both. -/
theorem none_or_some_of_rel {α β : Type} {R : α → β → Prop} {x : Option α} {y : Option β}
    (h : Option.Rel R x y) : (x = none ∧ y = none) ∨ ∃ a b, x = some a ∧ y = some b ∧ R a b := by
  cases h with
  | none => exact Or.inl ⟨rfl, rfl⟩
  | some h => exact Or.inr ⟨_, _, rfl, rfl, h⟩

/-- **Two sites whose gateways nobody can tell apart**: they hold the same things, but for numbers
and identifiers. -/
structure Site.Twin (s s' : Site) : Prop where
  state : s.gateway.state = s'.gateway.state
  variant : s.gateway.variant = s'.gateway.variant
  /-- They hold authorities that are alike, or none. -/
  authority : Option.Rel (fun r r' => ∃ x, s.roster[r]? = some x ∧ s'.roster[r']? = some x)
    s.gateway.authority s'.gateway.authority
  /-- They hold entries of one service that are published, or none. -/
  registration : Option.Rel (fun e e' => e.service = e'.service ∧ s.registry.holds e = true ∧
    s'.registry.holds e' = true) s.gateway.registration s'.gateway.registration
  /-- They hold servers that are alike, or none. -/
  server : Option.Rel (fun v v' => ∃ sv sv', s.server? v = some sv ∧ s'.server? v' = some sv' ∧
    sv.anonymous = sv'.anonymous) s.gateway.server s'.gateway.server
  ready : s.ready = s'.ready
  /-- Their servers start in the same way. -/
  factory : s.factory = s'.factory
  /-- They are on networks with the same addresses. -/
  network : s.network = s'.network
  /-- The entries of each are told apart by their identifiers. -/
  numbered : Numbered s.entryIds s.registry ∧ Numbered s'.entryIds s'.registry

/-- The calls of a progress, without numbers and identifiers. -/
def Progress.calls (p : Progress) : List Call := p.events.map fun ev => ev.call.anonymous

theorem Progress.calls_note (p : Progress) (call : Call) (t : Site) :
    (p.note call t).calls = p.calls ++ [call.anonymous] := by
  rw [calls, events_note, List.map_append]
  rfl

/-- Two progresses that nobody can tell apart. -/
structure Progress.Twin (p p' : Progress) : Prop where
  site : p.site.Twin p'.site
  calls : p.calls = p'.calls

/-- Two results with progresses that nobody can tell apart. -/
structure Progress.Agree {ε : Type} (x x' : Except ε Unit × Progress) : Prop where
  result : x.1 = x'.1
  twin : x.2.Twin x'.2

/-! ### Servers -/

namespace Server

theorem eq_of_alike {sv sv' : Server} (h : sv.anonymous = sv'.anonymous) :
    sv' = { sv with handlers := sv'.handlers } := by
  obtain ⟨config, connectors, handlers, listeners, stopCalls⟩ := sv
  obtain ⟨config', connectors', handlers', listeners', stopCalls'⟩ := sv'
  simp only [anonymous, Server.mk.injEq] at h
  obtain ⟨rfl, rfl, -, rfl, rfl⟩ := h
  rfl

/-- What a server answers with does not matter when it starts. -/
theorem start_with_handlers (sv : Server) (handlers : Chain) (factory : ServerFactory)
    (net : Network) :
    { sv with handlers }.start factory net =
      ((sv.start factory net).1, { (sv.start factory net).2.1 with handlers },
        (sv.start factory net).2.2) := by
  cases factory with
  | refusing reason => rfl
  | recording => rfl
  | binding =>
      have hlisten : { sv with handlers }.listen net = sv.listen net := rfl
      unfold start
      simp only [hlisten]
      cases sv.listen net <;> rfl

/-- **Servers that are alike start alike.** -/
theorem start_of_alike {sv sv' : Server} (h : sv.anonymous = sv'.anonymous)
    (factory : ServerFactory) (net : Network) :
    (sv'.start factory net).1 = (sv.start factory net).1 ∧
      (sv'.start factory net).2.1.anonymous = (sv.start factory net).2.1.anonymous ∧
      (sv'.start factory net).2.2 = (sv.start factory net).2.2 := by
  rw [eq_of_alike h, start_with_handlers]
  exact ⟨rfl, rfl, rfl⟩

theorem stop_of_alike {sv sv' : Server} (h : sv.anonymous = sv'.anonymous) (net : Network) :
    (sv'.stop net).1.anonymous = (sv.stop net).1.anonymous ∧
      (sv'.stop net).2 = (sv.stop net).2 := by
  rw [eq_of_alike h]
  exact ⟨rfl, rfl⟩

end Server

/-! ### Steps of a start -/

namespace Progress.Twin

variable {p p' : Progress}

theorem note (h : p.calls = p'.calls) {call call' : Call} {t t' : Site} (ht : t.Twin t')
    (hcall : call.anonymous = call'.anonymous) : (p.note call t).Twin (p'.note call' t') where
  site := ht
  calls := by rw [calls_note, calls_note, h, hcall]

theorem enter (h : p.Twin p') (state : LifecycleState) : (p.enter state).Twin (p'.enter state) :=
  ⟨⟨rfl, h.site.variant, h.site.authority, h.site.registration, h.site.server, h.site.ready,
    h.site.factory, h.site.network, h.site.numbered⟩, h.calls⟩

theorem configured (h : p.Twin p') : p.configured.Twin p'.configured :=
  (note h.calls h.site rfl).enter .configLoaded

theorem setReady (h : p.Twin p') (ready : Bool) : (p.setReady ready).Twin (p'.setReady ready) := by
  refine note h.calls ⟨h.site.state, h.site.variant, h.site.authority, h.site.registration,
    h.site.server, ?_, h.site.factory, h.site.network, h.site.numbered⟩ rfl
  rw [Site.ready_setReady, Site.ready_setReady]

theorem select (h : p.Twin p') (a : Authority) : (p.select a).Twin (p'.select a) :=
  ⟨⟨h.site.state, rfl, .some ⟨_, p.roster_select a, p'.roster_select a⟩, h.site.registration,
    h.site.server, h.site.ready, h.site.factory, h.site.network, h.site.numbered⟩, h.calls⟩

theorem published (h : p.Twin p') (r r' : AuthorityRef) :
    (p.published r).Twin (p'.published r') := by
  have hholds : ∀ (q : Progress) (r : AuthorityRef),
      (q.published r).site.registry.holds (q.site.nextEntry authorityService) = true := by
    intro q r
    show ((q.site.registry.publish _ _).published.find? _).isSome = true
    rw [Registry.publish, Table.find?_insert, if_pos rfl]
    rfl
  refine ⟨⟨rfl, h.site.variant, h.site.authority, .some ⟨rfl, hholds p r, hholds p' r'⟩,
    h.site.server, h.site.ready, h.site.factory, h.site.network,
    h.site.numbered.1.publish _ _, h.site.numbered.2.publish _ _⟩, ?_⟩
  show (p.note (.publish authorityService true) _).calls =
    (p'.note (.publish authorityService true) _).calls
  rw [calls_note, calls_note, h.calls]

theorem startAuthority (h : p.Twin p') {r r' : AuthorityRef} {v : AuthorityVariant}
    (hg : p.site.gateway.authority = some r) (hg' : p'.site.gateway.authority = some r')
    (hv : p.site.roster[r]? = some (v, false)) (hv' : p'.site.roster[r']? = some (v, false))
    (c : Conditions) : Agree (p.startAuthority c r) (p'.startAuthority c r') := by
  obtain ⟨b, heq, -, hroster, hhealth⟩ := Progress.startAuthority_eq hv c
  obtain ⟨b', heq', -, hroster', hhealth'⟩ := Progress.startAuthority_eq hv' c
  have hset : ∀ {roster roster' : List (AuthorityVariant × Bool)} {r : AuthorityRef},
      roster[r]? = some (v, false) → roster' = roster.set r (v, c.runtime) →
        roster'[r]? = some (v, c.runtime) := by
    intro roster roster' r hr hroster
    rw [hroster, List.getElem?_set_self (List.getElem?_eq_some_iff.1 hr).1]
  rw [heq, heq']
  refine ⟨rfl, note h.calls ⟨h.site.state, h.site.variant, ?_, h.site.registration, h.site.server,
    ?_, h.site.factory, h.site.network, h.site.numbered⟩ rfl⟩
  · show Option.Rel _ p.site.gateway.authority p'.site.gateway.authority
    rw [hg, hg']
    exact .some ⟨_, hset hv hroster, hset hv' hroster'⟩
  · rw [Site.ready_withBackend, Site.ready_withBackend, hhealth, hhealth']
    exact h.site.ready

theorem openServer (h : p.Twin p') (config : HttpConfig) (r r' : AuthorityRef)
    (kind : AuthorityKind) : (p.openServer config r kind).Twin (p'.openServer config r' kind) := by
  have hserver : ∀ (q : Progress) (r : AuthorityRef),
      (q.openServer config r kind).site.server? q.site.nextServer =
        some (Server.facing config r kind) := by
    intro q r
    rw [Progress.openServer_site]
    exact List.getElem?_concat_length
  have halike : (Server.facing config r kind).anonymous =
      (Server.facing config r' kind).anonymous := by cases kind <;> rfl
  refine ⟨?_, ?_⟩
  · have hsome := hserver p r
    have hsome' := hserver p' r'
    rw [Progress.openServer_site] at hsome hsome' ⊢
    rw [Progress.openServer_site]
    exact ⟨h.site.state, h.site.variant, h.site.authority, h.site.registration,
      .some ⟨_, _, hsome, hsome', halike⟩, h.site.ready, h.site.factory, h.site.network,
      h.site.numbered⟩
  · have hcalls : ∀ (q : Progress) (r : AuthorityRef), (q.openServer config r kind).calls =
        q.calls ++ ([.createServer config,
          .addHandlers ((if kind.requiresWebSurface then [.login] else []) ++ [.health])] ++
          (kind.extraConnector.map Call.addConnector).toList) := by
      intro q r
      cases kind <;>
        simp [Progress.openServer, Progress.calls, Progress.hold, Progress.note, Chain.ofAuthority,
          AuthorityKind.extraConnector, Call.anonymous, Chain.kinds,
          AuthorityKind.requiresWebSurface, Handler.kind]
    rw [hcalls, hcalls, h.calls]

theorem startServer (h : p.Twin p') {v v' : ServerRef} (hg : p.site.gateway.server = some v)
    (hg' : p'.site.gateway.server = some v') (c : Conditions) :
    Agree (p.startServer c v) (p'.startServer c v') := by
  have hserver := h.site.server
  rw [hg, hg'] at hserver
  obtain ⟨sv, sv', hsv, hsv', halike⟩ := Option.rel_some_some.1 hserver
  have hupdate : ∀ {s : Site} {v : ServerRef} {sv : Server}, s.server? v = some sv →
      ∀ (t : Server) (net : Network), (s.updateServer v t net).server? v = some t := by
    intro s v sv hsv t net
    exact List.getElem?_set_self (List.getElem?_eq_some_iff.1 hsv).1
  unfold Progress.startServer
  rw [hsv, hsv']
  cases c.serverStart with
  | some e => exact ⟨rfl, note h.calls h.site rfl⟩
  | none =>
      obtain ⟨hresult, hafter, hnet⟩ :=
        Server.start_of_alike halike p.site.factory p.site.network
      rw [← h.site.factory, ← h.site.network]
      dsimp only
      generalize sv.start p.site.factory p.site.network = x at hresult hafter hnet ⊢
      generalize sv'.start p.site.factory p.site.network = x' at hresult hafter hnet ⊢
      obtain ⟨result, t, net⟩ := x
      obtain ⟨result', t', net'⟩ := x'
      obtain rfl : result' = result := hresult
      obtain rfl : net' = net := hnet
      have htwin : (p.site.updateServer v t net').Twin (p'.site.updateServer v' t' net') := by
        refine ⟨h.site.state, h.site.variant, h.site.authority, h.site.registration, ?_,
          h.site.ready, h.site.factory, rfl, h.site.numbered⟩
        show Option.Rel _ p.site.gateway.server p'.site.gateway.server
        rw [hg, hg']
        exact .some ⟨t, t', hupdate hsv t net', hupdate hsv' t' net', hafter.symm⟩
      cases result' with
      | ok _ => exact ⟨rfl, note h.calls htwin rfl⟩
      | error e => exact ⟨rfl, note h.calls htwin rfl⟩

theorem serve (h : p.Twin p') (c : Conditions) (policy : ServerPolicy) (r r' : AuthorityRef)
    (kind : AuthorityKind) : Agree (p.serve c policy r kind) (p'.serve c policy r' kind) := by
  unfold Progress.serve
  dsimp only
  split
  · refine (h.openServer _ r r' kind).startServer ?_ ?_ c
    · rw [Progress.openServer_site]
    · rw [Progress.openServer_site]
  · exact ⟨rfl, h⟩

/-- Both halves of a start go alike from here on. -/
theorem finish (h : p.Twin p') {r r' : AuthorityRef} {v : AuthorityVariant}
    (hg : p.site.gateway.authority = some r) (hg' : p'.site.gateway.authority = some r')
    (hv : p.site.roster[r]? = some (v, false)) (hv' : p'.site.roster[r']? = some (v, false))
    (c : Conditions) (policy : ServerPolicy) (kind : AuthorityKind) :
    Agree (p.finish c policy r kind) (p'.finish c policy r' kind) := by
  have hstart := h.startAuthority hg hg' hv hv' c
  unfold Progress.finish
  generalize p.startAuthority c r = x at hstart ⊢
  generalize p'.startAuthority c r' = x' at hstart ⊢
  obtain ⟨result, q⟩ := x
  obtain ⟨result', q'⟩ := x'
  obtain ⟨rfl, htwin⟩ := hstart
  cases result with
  | error e => exact ⟨rfl, htwin⟩
  | ok _ =>
      have hserve := serve htwin c policy r r' kind
      dsimp only at hserve ⊢
      generalize q.serve c policy r kind = y at hserve ⊢
      generalize q'.serve c policy r' kind = y' at hserve ⊢
      obtain ⟨result, t⟩ := y
      obtain ⟨result', t'⟩ := y'
      obtain ⟨rfl, htwin⟩ := hserve
      cases result with
      | error e => exact ⟨rfl, htwin⟩
      | ok _ => exact ⟨rfl, (htwin.enter .started).setReady true⟩

/-- **A start of twins goes alike.** -/
theorem tryStart (h : p.Twin p') (c : Conditions) : Agree (p.tryStart c) (p'.tryStart c) := by
  cases ha : Authority.create? (GatewayConfig.resolve c.config) with
  | none =>
      rw [Progress.tryStart_of_disabled ha, Progress.tryStart_of_disabled ha]
      exact ⟨rfl, (h.configured.enter .disabled).setReady true⟩
  | some a =>
      have hselected := (h.configured.select a).enter .authoritySelected
      rw [Progress.tryStart_of_selected ha, Progress.tryStart_of_selected ha]
      -- the same settings select the same authority, and publishing it fails for both or for none
      cases c.publish with
      | some e => exact ⟨rfl, note hselected.calls hselected.site rfl⟩
      | none =>
          have hrunning : a.keeper.running = false := by
            obtain ⟨v, -, rfl⟩ := Option.map_eq_some_iff.1 ha
            rfl
          refine (hselected.published _ _).finish (v := a.variant) rfl rfl ?_ ?_ c _ _
          · rw [← hrunning]
            exact p.configured.roster_select a
          · rw [← hrunning]
            exact p'.configured.roster_select a

/-! ### Steps of a stop -/

theorem releaseServer (h : p.Twin p') (c : Conditions) :
    Agree (p.releaseServer c) (p'.releaseServer c) := by
  rcases none_or_some_of_rel h.site.server with ⟨hg, hg'⟩ |
    ⟨v, v', hg, hg', sv, sv', hsv, hsv', halike⟩
  · rw [Progress.releaseServer_of_none hg, Progress.releaseServer_of_none hg']
    exact ⟨rfl, h⟩
  · obtain ⟨-, hnet⟩ := Server.stop_of_alike halike p.site.network
    rw [Progress.releaseServer_eq hg hsv, Progress.releaseServer_eq hg' hsv', ← h.site.network,
      hnet]
    have hcalls : (p.hold fun g => { g with server := none }).calls =
        (p'.hold fun g => { g with server := none }).calls := h.calls
    refine ⟨rfl, note hcalls ?_ rfl⟩
    exact ⟨h.site.state, h.site.variant, h.site.authority, h.site.registration, .none,
      h.site.ready, h.site.factory, rfl, h.site.numbered⟩

/-- What is left of the registry does not matter to twins that hold no entry. -/
theorem entryReleased (h : p.Twin p') {e e' : RegistryEntry} (hservice : e.service = e'.service)
    (ok : Bool) {ids ids' : IdSource} {reg reg' : Registry Capability} (hn : Numbered ids reg)
    (hn' : Numbered ids' reg') (journal journal' : List RegistryCall) :
    ((p.hold fun g => { g with registration := none }).note (.withdraw e ok)
      { (p.hold fun g => { g with registration := none }).site with
        registry := reg, journal, entryIds := ids }).Twin
    ((p'.hold fun g => { g with registration := none }).note (.withdraw e' ok)
      { (p'.hold fun g => { g with registration := none }).site with
        registry := reg', journal := journal', entryIds := ids' }) := by
  have hcalls : (p.hold fun g => { g with registration := none }).calls =
      (p'.hold fun g => { g with registration := none }).calls := h.calls
  refine note hcalls ?_ ?_
  · exact ⟨h.site.state, h.site.variant, h.site.authority, .none, h.site.server, h.site.ready,
      h.site.factory, h.site.network, hn, hn'⟩
  · show Call.withdraw ⟨"", e.service⟩ ok = Call.withdraw ⟨"", e'.service⟩ ok
    rw [hservice]

theorem releaseRegistration (h : p.Twin p') (c : Conditions) :
    ((p.releaseRegistration c).1.mapError fun e => (GatewayError.registry e).anonymous) =
        ((p'.releaseRegistration c).1.mapError fun e => (GatewayError.registry e).anonymous) ∧
      (p.releaseRegistration c).2.Twin (p'.releaseRegistration c).2 := by
  obtain ⟨hn, hn'⟩ := h.site.numbered
  rcases none_or_some_of_rel h.site.registration with ⟨hg, hg'⟩ |
    ⟨e, e', hg, hg', hservice, hholds, hholds'⟩
  · rw [Progress.releaseRegistration_of_none hg, Progress.releaseRegistration_of_none hg']
    exact ⟨rfl, h⟩
  · cases hc : c.withdraw with
    | works =>
        rw [Progress.releaseRegistration_of_ok hg (Progress.withdrawUnder_works hc hholds),
          Progress.releaseRegistration_of_ok hg' (Progress.withdrawUnder_works hc hholds')]
        exact ⟨rfl, h.entryReleased hservice true (hn.erase e.id) (hn'.erase e'.id) _ _⟩
    | refused er =>
        rw [Progress.releaseRegistration_of_error hg (Progress.withdrawUnder_refused hc _ e),
          Progress.releaseRegistration_of_error hg' (Progress.withdrawUnder_refused hc _ e')]
        exact ⟨rfl, h.entryReleased hservice false hn hn' _ _⟩
    | misses =>
        -- the errors name the entries that were missed, which are not the same
        rw [Progress.releaseRegistration_of_error hg
            (Progress.withdrawUnder_misses hc hholds hn.find?_current),
          Progress.releaseRegistration_of_error hg'
            (Progress.withdrawUnder_misses hc hholds' hn'.find?_current)]
        exact ⟨rfl, h.entryReleased hservice false (hn.erase e.id).draw (hn'.erase e'.id).draw _ _⟩

theorem releaseAuthority (h : p.Twin p') : p.releaseAuthority.Twin p'.releaseAuthority := by
  rcases none_or_some_of_rel h.site.authority with ⟨hg, hg'⟩ | ⟨r, r', hg, hg', -⟩
  · rw [Progress.releaseAuthority_of_none hg, Progress.releaseAuthority_of_none hg']
    exact h
  · rw [Progress.releaseAuthority_eq hg, Progress.releaseAuthority_eq hg']
    have hcalls : (p.hold fun g => { g with authority := none }).calls =
        (p'.hold fun g => { g with authority := none }).calls := h.calls
    refine note hcalls ?_ rfl
    refine ⟨h.site.state, h.site.variant, .none, h.site.registration, h.site.server, ?_,
      h.site.factory, h.site.network, h.site.numbered⟩
    calc _ = p.site.ready := p.site.ready_stopAuthority r
      _ = p'.site.ready := h.site.ready
      _ = _ := (p'.site.ready_stopAuthority r').symm

theorem settle (h : p.Twin p') : p.settle.Twin p'.settle := by
  have hheld : (p.hold fun g => { g with variant := none }).Twin
      (p'.hold fun g => { g with variant := none }) :=
    ⟨⟨h.site.state, rfl, h.site.authority, h.site.registration, h.site.server, h.site.ready,
      h.site.factory, h.site.network, h.site.numbered⟩, h.calls⟩
  have hstate : (p.hold fun g => { g with variant := none }).site.gateway.state =
      (p'.hold fun g => { g with variant := none }).site.gateway.state := h.site.state
  unfold Progress.settle
  dsimp only
  rw [← hstate]
  split
  · exact hheld
  · exact hheld.enter .stopped

/-- **A stop of twins goes alike.** -/
theorem stop (h : p.Twin p') (c : Conditions) :
    (p.stop c).1.mapError GatewayError.anonymous = (p'.stop c).1.mapError GatewayError.anonymous ∧
      (p.stop c).2.Twin (p'.stop c).2 := by
  have hresult : ∀ (x : Except GatewayError Unit) (y : Except HostError Unit),
      (stopResult x y).mapError GatewayError.anonymous =
        match x with
        | .error e => .error e.anonymous
        | .ok _ => y.mapError fun e => (GatewayError.registry e).anonymous := by
    intro x y
    cases x <;> cases y <;> rfl
  obtain ⟨hserver, htwin⟩ := (h.setReady false).releaseServer c
  obtain ⟨hregistry, htwin'⟩ := htwin.releaseRegistration c
  rw [Progress.stop_eq, Progress.stop_eq]
  refine ⟨?_, htwin'.releaseAuthority.settle⟩
  rw [hresult, hresult, hserver, hregistry]

theorem start (h : p.Twin p') (c : Conditions) :
    (p.start c).1.mapError GatewayError.anonymous = (p'.start c).1.mapError GatewayError.anonymous ∧
      (p.start c).2.Twin (p'.start c).2 := by
  have htry := h.tryStart c
  unfold Progress.start
  rw [← h.site.state]
  split
  · exact ⟨rfl, h⟩
  · generalize p.tryStart c = x at htry ⊢
    generalize p'.tryStart c = x' at htry ⊢
    obtain ⟨result, q⟩ := x
    obtain ⟨result', q'⟩ := x'
    obtain ⟨rfl, htwin⟩ := htry
    cases result with
    | ok _ => exact ⟨rfl, htwin⟩
    | error e => exact ⟨rfl, (stop htwin c).2⟩

end Progress.Twin

/-! ### Rows of starts and stops -/

namespace Site.Twin

variable {s s' : Site}

theorem seen_eq {x x' : Except GatewayError Unit × Progress}
    (hresult : x.1.mapError GatewayError.anonymous = x'.1.mapError GatewayError.anonymous)
    (h : x.2.Twin x'.2) : (Outcome.ofProgress x).seen = (Outcome.ofProgress x').seen := by
  have hservice : x.2.site.gateway.registration.map (·.service) =
      x'.2.site.gateway.registration.map (·.service) := by
    rcases none_or_some_of_rel h.site.registration with ⟨hg, hg'⟩ | ⟨e, e', hg, hg', hservice, -⟩
    · rw [hg, hg']
    · rw [hg, hg', Option.map_some, Option.map_some, hservice]
  have hserver : (x.2.site.gateway.server.bind x.2.site.server?).map Server.anonymous =
      (x'.2.site.gateway.server.bind x'.2.site.server?).map Server.anonymous := by
    rcases none_or_some_of_rel h.site.server with ⟨hg, hg'⟩ |
      ⟨v, v', hg, hg', sv, sv', hsv, hsv', halike⟩
    · rw [hg, hg']
      rfl
    · rw [hg, hg', Option.bind_some, Option.bind_some, hsv, hsv', Option.map_some, Option.map_some,
        halike]
  have hcalls : (x.2.events.map fun ev => ev.call.anonymous) =
      x'.2.events.map fun ev => ev.call.anonymous := h.calls
  simp only [Outcome.seen, Outcome.ofProgress, hresult, hcalls, h.site.state, h.site.variant,
    hservice, hserver, h.site.ready]

/-- **Whatever is asked of twins, the same is seen of both, and they stay twins.** -/
theorem act (h : s.Twin s') (a : Action) :
    (s.act a).seen = (s'.act a).seen ∧ (s.act a).site.Twin (s'.act a).site := by
  have htwin : Progress.Twin ⟨s, []⟩ ⟨s', []⟩ := ⟨h, rfl⟩
  cases a with
  | start c =>
      obtain ⟨hresult, hafter⟩ := htwin.start c
      exact ⟨seen_eq hresult hafter, hafter.site⟩
  | stop c =>
      obtain ⟨hresult, hafter⟩ := htwin.stop c
      exact ⟨seen_eq hresult hafter, hafter.site⟩

/-- **Of twins the same is seen in every row of starts and stops.** -/
theorem sightings_eq (h : s.Twin s') (as : List Action) : s.sightings as = s'.sightings as := by
  -- on the row, for all twins at once: each call leads to other sites, which are twins again
  induction as generalizing s s' with
  | nil => rfl
  | cons a as ih =>
      obtain ⟨hseen, htwin⟩ := h.act a
      rw [Site.sightings, Site.sightings, hseen, ih htwin]

/-- Gateways that hold nothing and are not ready are twins, where servers start in the same way and
find the same addresses free. -/
theorem of_new (hg : s.gateway = {}) (hg' : s'.gateway = {}) (hready : s.ready = false)
    (hready' : s'.ready = false) (hfactory : s.factory = s'.factory)
    (hnetwork : s.network = s'.network) (hn : Numbered s.entryIds s.registry)
    (hn' : Numbered s'.entryIds s'.registry) : s.Twin s' := by
  refine ⟨by rw [hg, hg'], by rw [hg, hg'], ?_, ?_, ?_, by rw [hready, hready'], hfactory, hnetwork,
    hn, hn'⟩
  · rw [hg, hg']
    exact .none
  · rw [hg, hg']
    exact .none
  · rw [hg, hg']
    exact .none

end Site.Twin

end ConferenceAuth
