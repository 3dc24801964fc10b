/-
**What a start builds from the settings.**

The settings are texts, each of which may be missing or malformed, and no text ever makes a start
fail.  Without a login address nothing is built, whatever the other texts say.  With one, an
authority of the selected variant is built, published and started.  A server stands before it when
the authority is one that users reach over the web, or when a server is asked for in any case, and
when there is something to listen on.

All this is said of the texts alone, and then found in what a start does when nobody refuses.

Main definitions:

* `ConfigSource.variant?`, `ConfigSource.WantsServer`, `ConfigSource.connectors` — what the texts
  ask for;
* `Site.Obliging` — nobody refuses what a start needs;
* `Site.Announced`, `Server.Before` — an authority has been published, and a server stands before it;
* `Outcome.Dormant`, `Outcome.Built` — what a start comes to.

Main results:

* `ConfigSource.wantsServer_iff`, `ConfigSource.create?_resolve`, `Server.Before.of_start` — the
  decisions of a start are those that the texts ask for;
* `Progress.announced_select`, `Progress.announced_startAuthority`, `Progress.serve_eq` — what the
  steps build;
* `Site.dormant_start`, `Site.built_start` — a start without and with a login address;
* `start_builds_what_is_asked_for` — **a start builds what the texts ask for**.
-/
import ConferenceAuth.Proofs.Gateway.Invariant
import ConferenceAuth.Proofs.Gateway.Unwinding

set_option autoImplicit false

namespace ConferenceAuth

/-! ### What the settings ask for -/

namespace ConfigSource

/-- The authority that the two addresses select. -/
def variant? (source : ConfigSource) : Option AuthorityVariant :=
  AuthorityVariant.select (source.text? Property.loginUrl.name)
    (source.nonEmpty? Property.logoutUrl.name)

/-- **A server is wanted** in front of an authority of a kind. -/
structure WantsServer (source : ConfigSource) (kind : AuthorityKind) : Prop where
  /-- Users reach the authority over the web, or a server is asked for in any case. -/
  needed : kind = .shibboleth ∨ source.bool? Property.httpAlwaysStart.name = some true
  /-- The plain connector is not switched off, or there is a key store for the other one. -/
  reachable : (∀ n, source.int? Property.httpPort.name = some n → 0 ≤ n) ∨
    ∃ path, source.text? Property.keyStorePath.name = some path ∧ path ≠ ""

/-- The connectors of that server, in their order. -/
def connectors (source : ConfigSource) (kind : AuthorityKind) : List Connector :=
  let http := HttpConfig.resolve source
  let plain := http.port.map (Connector.http http.host)
  let secure := http.keyStorePath.map fun _ => Connector.tls http.host http.tlsPort
  plain.toList ++ secure.toList ++ if kind = .shibboleth then [Connector.reverseProxy] else []

variable (source : ConfigSource)

/-- The plain port is absent exactly when it has been switched off. -/
theorem port_resolve_eq_none_iff :
    (HttpConfig.resolve source).port = none ↔
      ∃ n, source.int? Property.httpPort.name = some n ∧ n < 0 := by
  show HttpConfig.readPlainPort (source.int? Property.httpPort.name) = none ↔ _
  cases source.int? Property.httpPort.name with
  | none => simp [HttpConfig.readPlainPort]
  | some n => by_cases hn : n < 0 <;> simp [HttpConfig.readPlainPort, hn]

/-- There is something to listen on unless the plain port is switched off and no key store is
set. -/
theorem hasConnectors_resolve_iff :
    (HttpConfig.resolve source).hasConnectors = true ↔
      (∀ n, source.int? Property.httpPort.name = some n → 0 ≤ n) ∨
        ∃ path, source.text? Property.keyStorePath.name = some path ∧ path ≠ "" := by
  have hplain : (HttpConfig.resolve source).port.isSome = true ↔
      ∀ n, source.int? Property.httpPort.name = some n → 0 ≤ n := by
    rw [Option.isSome_iff_ne_none, ne_eq, port_resolve_eq_none_iff]
    simp
  have hsecure : (HttpConfig.resolve source).tlsEnabled = true ↔
      ∃ path, source.text? Property.keyStorePath.name = some path ∧ path ≠ "" := by
    rw [HttpConfig.tlsEnabled, Option.isSome_iff_exists]
    exact exists_congr fun path => nonEmpty?_eq_some_iff
  rw [HttpConfig.hasConnectors, Bool.or_eq_true, hplain, hsecure]

/-- A server is needed for the users of an authority, or because the policy says so. -/
theorem needsServer_resolve_iff (kind : AuthorityKind) :
    Progress.needsServer kind (GatewayConfig.resolve source).serverPolicy = true ↔
      kind = .shibboleth ∨ source.bool? Property.httpAlwaysStart.name = some true := by
  have hpolicy : (GatewayConfig.resolve source).serverPolicy = .always ↔
      source.bool? Property.httpAlwaysStart.name = some true := by
    show (if source.isTrue Property.httpAlwaysStart.name then ServerPolicy.always
      else .webVariantOnly) = .always ↔ _
    rw [isTrue]
    rcases source.bool? Property.httpAlwaysStart.name with _ | _ | _ <;> simp
  rw [← hpolicy, Progress.needsServer, Bool.or_eq_true, beq_iff_eq]
  cases kind <;> simp [AuthorityKind.requiresWebSurface]

/-- **The decision that a start makes is the one that the texts ask for.** -/
theorem wantsServer_iff (kind : AuthorityKind) :
    source.WantsServer kind ↔
      (Progress.needsServer kind (GatewayConfig.resolve source).serverPolicy &&
        (HttpConfig.resolve source).hasConnectors) = true := by
  rw [Bool.and_eq_true, needsServer_resolve_iff, hasConnectors_resolve_iff]
  exact ⟨fun h => ⟨h.needed, h.reachable⟩, fun h => ⟨h.1, h.2⟩⟩

/-- The authority that a start builds is of the variant that the texts ask for. -/
theorem create?_resolve :
    Authority.create? (GatewayConfig.resolve source) =
      source.variant?.map fun v => .ofVariant v (GatewayConfig.resolve source) := by
  have hfilter : (source.nonEmpty? Property.loginUrl.name).filter (· ≠ "") =
      (source.text? Property.loginUrl.name).filter (· ≠ "") := by
    rw [nonEmpty?, Option.filter_filter]
    simp
  rw [Authority.create?, variant?, AuthorityVariant.select, AuthorityVariant.select]
  show Option.map _ (((source.nonEmpty? Property.loginUrl.name).filter (· ≠ "")).map _) = _
  rw [hfilter]
  rfl

end ConfigSource

namespace Server

variable (source : ConfigSource) (r : AuthorityRef) (kind : AuthorityKind)

/-- The configured connectors come first, and the one for forwarded requests is added for single
sign-on alone. -/
theorem connectors_facing :
    (facing (HttpConfig.resolve source) r kind).connectors = source.connectors kind := by
  have hsecure : (if (HttpConfig.resolve source).tlsEnabled then
      [Connector.tls (HttpConfig.resolve source).host (HttpConfig.resolve source).tlsPort] else []) =
      ((HttpConfig.resolve source).keyStorePath.map fun _ =>
        Connector.tls (HttpConfig.resolve source).host
          (HttpConfig.resolve source).tlsPort).toList := by
    rw [HttpConfig.tlsEnabled]
    cases (HttpConfig.resolve source).keyStorePath <;> rfl
  show (HttpConfig.resolve source).connectors ++ _ = _
  rw [HttpConfig.connectors, hsecure]
  cases kind <;> rfl

/-- **A server stands before an authority** of a kind as the texts ask for it, and it runs. -/
structure Before (sv : Server) (source : ConfigSource) (r : AuthorityRef) (kind : AuthorityKind) :
    Prop where
  running : sv.running = true
  stopCalls : sv.stopCalls = 0
  config : sv.config = HttpConfig.resolve source
  connectors : sv.connectors = source.connectors kind
  /-- For single sign-on the login comes before the health checks. -/
  handlers : sv.handlers =
    (if kind = .shibboleth then [.login r] else []) ++ [.health gatewayHealth]

/-- What a start opens before an authority is what the texts ask for. -/
theorem Before.of_start {source : ConfigSource} {r : AuthorityRef} {kind : AuthorityKind}
    {sv : Server} {factory : ServerFactory} {net net' : Network}
    (h : (facing (HttpConfig.resolve source) r kind).start factory net = (.ok (), sv, net')) :
    sv.Before source r kind := by
  obtain ⟨hrunning, hcalls, hconnectors, hconfig, hhandlers⟩ := start_ok h
  refine ⟨hrunning, hcalls, hconfig, hconnectors.trans (connectors_facing source r kind),
    hhandlers.trans ?_⟩
  cases kind <;> rfl

end Server

/-! ### What the steps build -/

/-- **Nobody refuses what a start needs** for an authority of a kind. -/
structure Site.Obliging (s : Site) (c : Conditions) (kind : AuthorityKind) : Prop where
  /-- The registry takes the publication. -/
  publish : c.publish = none
  /-- The authority finds a runtime. -/
  runtime : c.runtime = true
  /-- If a server is wanted, one with the wanted connectors can be started. -/
  server : c.config.WantsServer kind → c.serverStart = none ∧
    ∀ sv : Server, sv.running = false → sv.connectors = c.config.connectors kind →
      (sv.start s.factory s.network).1 = .ok ()

/-- Recording servers start under all conditions but an explicit refusal. -/
theorem Site.obliging_of_recording {s : Site} {c : Conditions} (hfactory : s.factory = .recording)
    (hpublish : c.publish = none) (hruntime : c.runtime = true) (hserver : c.serverStart = none)
    (kind : AuthorityKind) : s.Obliging c kind :=
  ⟨hpublish, hruntime, fun _ => ⟨hserver, fun sv _ _ => by rw [hfactory]; rfl⟩⟩

/-- A new authority whose sweeper has been started. -/
def Authority.sweeping (v : AuthorityVariant) (config : GatewayConfig) (now : Int) : Authority where
  variant := v
  keeper :=
    { lifetime := config.lifetime
      disableAutologin := config.disableAutologin
      sweeper := some ⟨now + sweepInterval⟩ }

/-- The first sweep of a new authority finds nothing. -/
theorem Keeper.start_ofVariant (v : AuthorityVariant) (config : GatewayConfig) (m : Metrics)
    (now : Int) :
    ∃ m', (Authority.ofVariant v config).keeper.start m now true =
      (.ok (), (Authority.sweeping v config now).keeper, m') := ⟨_, rfl⟩

/-- **An authority has been built and published**, and nothing else. -/
structure Site.Announced (s t : Site) (a : Authority) : Prop where
  gateway : t.gateway = ⟨.published, some a.variant, some s.nextRef,
    some (s.nextEntry authorityService), none⟩
  authorities : t.authorities = s.authorities ++ [a]
  registry : t.registry = s.registry.publish (s.nextEntry authorityService) (.authority s.nextRef)
  journal : t.journal = s.journal ++ [.publish (s.nextEntry authorityService)]
  servers : t.servers = s.servers
  network : t.network = s.network
  factory : t.factory = s.factory

namespace Progress

variable {p : Progress} {c : Conditions} {r : AuthorityRef}

/-- **A new authority is built and published**, and the gateway holds both it and its entry. -/
theorem announced_select {s : Site} (hg : s.gateway = {}) (a : Authority) :
    s.Announced ((((configured ⟨s, []⟩).select a).enter .authoritySelected).published
      s.nextRef).site a := by
  refine ⟨?_, rfl, rfl, rfl, rfl, rfl, rfl⟩
  show (⟨.published, some a.variant, some s.nextRef, some (s.nextEntry authorityService),
    s.gateway.server⟩ : Gateway) = _
  rw [hg]

/-- **The new authority is started**, and nothing else changes. -/
theorem announced_startAuthority {s : Site} {v : AuthorityVariant} {config : GatewayConfig}
    (h : s.Announced p.site (.ofVariant v config)) (hc : c.runtime = true) :
    ∃ p', p.startAuthority c s.nextRef = (.ok (), p') ∧
      s.Announced p'.site (.sweeping v config p.site.now) := by
  have hget : p.site.toBackend.authority? s.nextRef = some (.ofVariant v config) :=
    Backend.authority?_concat h.authorities
  obtain ⟨metrics, hstart⟩ :=
    Keeper.start_ofVariant v config p.site.toBackend.metrics p.site.toBackend.now
  simp only [startAuthority, Backend.startAuthority, hget, hc, hstart, Backend.updateKeeper]
  refine ⟨_, rfl, h.gateway, ?_, h.registry, h.journal, h.servers, h.network, h.factory⟩
  show p.site.authorities.modify s.authorities.length _ = _
  rw [h.authorities, modify_concat]
  rfl

/-- **A server that is wanted is created and started**, and the gateway holds it. -/
theorem serve_of_wanted {kind : AuthorityKind} (hc : p.site.Obliging c kind)
    (hwants : c.config.WantsServer kind) :
    ∃ p' sv network,
      p.serve c (GatewayConfig.resolve c.config).serverPolicy r kind = (.ok (), p') ∧
      p'.site = { p.site with
        servers := p.site.servers ++ [sv]
        network
        gateway := { p.site.gateway with server := some p.site.nextServer } } ∧
      sv.Before c.config r kind := by
  obtain ⟨hstart, hsv⟩ := hc.server hwants
  have hopen := p.openServer_site (HttpConfig.resolve c.config) r kind
  unfold serve
  dsimp only
  rw [if_pos ((c.config.wantsServer_iff kind).1 hwants)]
  generalize p.openServer (HttpConfig.resolve c.config) r kind = q at hopen
  have hget : q.site.server? p.site.nextServer =
      some (Server.facing (HttpConfig.resolve c.config) r kind) := by
    rw [hopen]
    exact List.getElem?_concat_length
  rcases q.startServer_eq hget c with ⟨e, -, hfailed⟩ | ⟨sv, network, heq, -, hstarted⟩
  · -- the two ways in which a server fails to start have been excluded
    rcases hfailed with hrefused | ⟨-, hfailed⟩
    · rw [hstart] at hrefused
      cases hrefused
    · rw [hopen, hsv _ rfl (Server.connectors_facing c.config r kind)] at hfailed
      cases hfailed
  · refine ⟨_, sv, network, heq, ?_, .of_start hstarted⟩
    have hset : (p.site.servers ++ [Server.facing (HttpConfig.resolve c.config) r kind]).set
        p.site.nextServer sv = p.site.servers ++ [sv] := set_concat ..
    rw [site_note, hopen, Site.updateServer]
    simp only [hset]

/-- A server that is not wanted is not created. -/
theorem serve_of_not_wanted {kind : AuthorityKind} (h : ¬ c.config.WantsServer kind) :
    p.serve c (GatewayConfig.resolve c.config).serverPolicy r kind = (.ok (), p) := by
  unfold serve
  dsimp only
  rw [if_neg fun hneeded => h ((c.config.wantsServer_iff kind).2 hneeded)]

/-- **A server is created and started exactly if one is wanted.** -/
theorem serve_eq {kind : AuthorityKind} (hc : p.site.Obliging c kind)
    (hnone : p.site.gateway.server = none) :
    ∃ p' server servers network,
      p.serve c (GatewayConfig.resolve c.config).serverPolicy r kind = (.ok (), p') ∧
      p'.site = { p.site with
        servers
        network
        gateway := { p.site.gateway with server } } ∧
      (c.config.WantsServer kind → server = some p.site.nextServer ∧
        ∃ sv, servers = p.site.servers ++ [sv] ∧ sv.Before c.config r kind) ∧
      (¬ c.config.WantsServer kind → server = none ∧ servers = p.site.servers ∧
        network = p.site.network) := by
  by_cases hwants : c.config.WantsServer kind
  · obtain ⟨p', sv, network, hserve, hsite, hbefore⟩ := serve_of_wanted hc hwants
    exact ⟨p', _, _, network, hserve, hsite, fun _ => ⟨rfl, sv, rfl, hbefore⟩,
      fun hnot => absurd hwants hnot⟩
  · refine ⟨p, none, p.site.servers, p.site.network, serve_of_not_wanted hwants, ?_,
      fun h => absurd h hwants, fun _ => ⟨rfl, rfl, rfl⟩⟩
    rw [← hnone]

end Progress

/-! ### What a start comes to -/

/-- **Nothing has been built**, and the gateway is ready without an authority. -/
structure Outcome.Dormant (s : Site) (o : Outcome) : Prop where
  result : o.result = .ok ()
  /-- Nothing was asked of anybody but to read the settings and to declare the gateway ready. -/
  calls : o.events.map (·.call) = [.readConfig, .setReady true]
  gateway : o.site.gateway = { state := .disabled }
  ready : o.site.ready = true
  registry : o.site.registry = s.registry
  journal : o.site.journal = s.journal
  authorities : o.site.authorities = s.authorities
  servers : o.site.servers = s.servers
  network : o.site.network = s.network

/-- **An authority of a variant has been built, published and started**, and the server that is
wanted for it. -/
structure Outcome.Built (s : Site) (c : Conditions) (v : AuthorityVariant) (o : Outcome) :
    Prop where
  result : o.result = .ok ()
  state : o.site.gateway.state = .started
  ready : o.site.ready = true
  /-- The gateway holds the variant, the new authority and its entry. -/
  variant : o.site.gateway.variant = some v
  authority : o.site.gateway.authority = some s.nextRef
  registration : o.site.gateway.registration = some (s.nextEntry authorityService)
  /-- One authority has been built, with the lifetime and the flag of the settings; it runs. -/
  authorities : ∃ a, o.site.authorities = s.authorities ++ [a] ∧ a.variant = v ∧
    a.keeper.lifetime = (GatewayConfig.resolve c.config).lifetime ∧
    a.keeper.disableAutologin = (GatewayConfig.resolve c.config).disableAutologin ∧
    a.keeper.running = true ∧ a.keeper.sessions = .empty
  /-- One publication has been made. -/
  registry : o.site.registry =
    s.registry.publish (s.nextEntry authorityService) (.authority s.nextRef)
  journal : o.site.journal = s.journal ++ [.publish (s.nextEntry authorityService)]
  /-- One server has been created if one is wanted, as it is wanted, and it is held. -/
  server : c.config.WantsServer v.kind → o.site.gateway.server = some s.nextServer ∧
    ∃ sv, o.site.servers = s.servers ++ [sv] ∧ sv.Before c.config s.nextRef v.kind
  /-- None has been created otherwise. -/
  noServer : ¬ c.config.WantsServer v.kind → o.site.gateway.server = none ∧
    o.site.servers = s.servers ∧ o.site.network = s.network

namespace Site

variable {s : Site} {c : Conditions}

/-- Without a login address a start builds nothing. -/
theorem dormant_start (hg : s.gateway = {}) (hv : c.config.variant? = none) :
    (s.start c).Dormant s := by
  have ha : Authority.create? (GatewayConfig.resolve c.config) = none := by
    rw [ConfigSource.create?_resolve, hv]
    rfl
  rw [start_of_ok hg (Progress.tryStart_of_disabled ha _)]
  refine ⟨rfl, rfl, ?_, ready_setReady _ true, rfl, rfl, rfl, rfl, rfl⟩
  show ({ s.gateway with state := .disabled } : Gateway) = _
  rw [hg]

/-- **The second half of a start**: the authority is started, and so is a server if one is wanted. -/
theorem built_finish {p : Progress} {v : AuthorityVariant}
    (h : s.Announced p.site (.ofVariant v (GatewayConfig.resolve c.config)))
    (hc : s.Obliging c v.kind) :
    ∃ p', p.finish c (GatewayConfig.resolve c.config).serverPolicy s.nextRef v.kind = (.ok (), p') ∧
      Outcome.Built s c v ⟨.ok (), p'.site, p'.events⟩ := by
  obtain ⟨q, hstarted, hq⟩ := Progress.announced_startAuthority h hc.runtime
  have hobliging : q.site.Obliging c v.kind :=
    ⟨hc.publish, hc.runtime, by rw [hq.factory, hq.network]; exact hc.server⟩
  obtain ⟨q', server, servers, network, hserve, hsite, hwanted, hunwanted⟩ :=
    Progress.serve_eq (r := s.nextRef) hobliging (by rw [hq.gateway])
  have hfinish : p.finish c (GatewayConfig.resolve c.config).serverPolicy s.nextRef v.kind =
      (.ok (), (q'.enter .started).setReady true) := by
    unfold Progress.finish
    rw [hstarted]
    dsimp only
    rw [hserve]
  rw [Site.nextServer, hq.servers] at hwanted
  rw [hq.servers, hq.network] at hunwanted
  have hgateway : ((q'.enter .started).setReady true).site.gateway =
      ⟨.started, some v, some s.nextRef, some (s.nextEntry authorityService), server⟩ := by
    show ({ q'.site.gateway with state := .started } : Gateway) = _
    rw [hsite, hq.gateway]
    rfl
  refine ⟨_, hfinish, rfl, by rw [hgateway], ready_setReady _ true, by rw [hgateway],
    by rw [hgateway], by rw [hgateway], ?_, ?_, ?_, ?_, ?_⟩
  · show ∃ a, q'.site.authorities = _ ∧ _
    rw [hsite]
    exact ⟨_, hq.authorities, rfl, rfl, rfl, rfl, rfl⟩
  · show q'.site.registry = _
    rw [hsite]
    exact hq.registry
  · show q'.site.journal = _
    rw [hsite]
    exact hq.journal
  · intro hwants
    show _ ∧ ∃ sv, q'.site.servers = _ ∧ _
    rw [hgateway, hsite]
    exact hwanted hwants
  · intro hwants
    show _ ∧ q'.site.servers = _ ∧ q'.site.network = _
    rw [hgateway, hsite]
    exact hunwanted hwants

/-- **With a login address a start builds an authority**, and a server if one is wanted. -/
theorem built_start {v : AuthorityVariant} (hg : s.gateway = {}) (hv : c.config.variant? = some v)
    (hc : s.Obliging c v.kind) : (s.start c).Built s c v := by
  have ha : Authority.create? (GatewayConfig.resolve c.config) =
      some (.ofVariant v (GatewayConfig.resolve c.config)) := by
    rw [ConfigSource.create?_resolve, hv]
    rfl
  have htry := Progress.tryStart_of_selected ha ⟨s, []⟩
  rw [hc.publish] at htry
  obtain ⟨p, hfinish, hbuilt⟩ := built_finish (Progress.announced_select hg _) hc
  rw [start_of_ok hg (htry.trans hfinish)]
  exact hbuilt

end Site

/-! ### The settings and the outcome -/

/-- **A start builds what the texts ask for.**  Take any run of a gateway, under any conditions, with
others at work in between, at whose end the gateway has not started, and any texts for its settings.
Let nobody refuse what the selected authority needs.  Then a start succeeds, and

* it ends in the disabled state exactly when the login address is absent or empty;
* in that case nothing has been built, whatever the other texts are;
* in every other case an authority of the selected variant has been built, with the server that the
  texts ask for. -/
theorem start_builds_what_is_asked_for {s₀ s : Site} {es : List Event} {c : Conditions}
    (h₀ : s₀.IsNew) (h : Site.Run (fun _ => True) Visit s₀ es s)
    (hs : ¬ (s.gateway.state = .started ∨ s.gateway.state = .disabled))
    (hc : ∀ v, c.config.variant? = some v → s.Obliging c v.kind) :
    ((s.start c).site.gateway.state = .disabled ↔
      c.config.text? Property.loginUrl.name = none ∨
        c.config.text? Property.loginUrl.name = some "") ∧
    ((s.start c).site.gateway.state = .disabled → (s.start c).Dormant s) ∧
    ((s.start c).site.gateway.state ≠ .disabled →
      ∃ v, c.config.variant? = some v ∧ (s.start c).Built s c v) := by
  have hg : s.gateway = {} := by
    cases h.atRest h₀ with
    | stopped hg _ => exact hg
    | disabled hg _ => exact absurd (Or.inr (by rw [hg])) hs
    | started hg _ _ => exact absurd (Or.inl (by rw [hg])) hs
  have hnone : c.config.variant? = none ↔ _ := AuthorityVariant.select_eq_none_iff
  rw [← hnone]
  cases hv : c.config.variant? with
  | none =>
      have hdormant := Site.dormant_start hg hv
      have hstate : (s.start c).site.gateway.state = .disabled := by rw [hdormant.gateway]
      exact ⟨⟨fun _ => rfl, fun _ => hstate⟩, fun _ => hdormant, fun hne => absurd hstate hne⟩
  | some v =>
      have hbuilt := Site.built_start hg hv (hc v hv)
      have hstate : (s.start c).site.gateway.state ≠ .disabled := by
        rw [hbuilt.state]
        decide
      exact ⟨⟨fun hdisabled => absurd hdisabled hstate, fun hnone => by cases hnone⟩,
        fun hdisabled => absurd hdisabled hstate, fun _ => ⟨v, rfl, hbuilt⟩⟩

/-- In a rehearsal with odd texts a start is refused at first.  The next one builds an authority of
an XMPP domain, and a server on the default port with transport security, because it is asked for
in any case and the plain connector alone has been switched off. -/
theorem built_from_odd_texts :
    let config := ConfigSource.ofProperties
      [(Property.loginUrl.name, "xMpP:auth.example.com"),
        (Property.httpAlwaysStart.name, " TRUE "),
        (Property.authLifetime.name, "0"),
        (Property.httpPort.name, "-1"),
        (Property.tlsPort.name, "70000"),
        (Property.keyStorePath.name, "/etc/key.store")]
    let s₀ := Site.rehearsal (.numbered "session-") (.numbered "entry-") .recording
    let o := s₀.start (.ofRefusals config true [.publish])
    let c := Conditions.ofRefusals config true []
    o.result = .error (.registry Refusal.publishError) ∧
      config.connectors .xmppDomain = [.tls none defaultTlsPort] ∧
      (o.site.start c).Built o.site c (.xmppDomain "auth.example.com") := by
  intro config s₀ o c
  have hrun : Site.Run (fun _ => True) Visit s₀ o.events o.site := .first trivial
  have hvariant : c.config.variant? = some (.xmppDomain "auth.example.com") := by decide +kernel
  obtain ⟨-, -, hbuilt⟩ := start_builds_what_is_asked_for (c := c)
    (Site.isNew_rehearsal _ (IdSource.distinct_numbered _) _) hrun (by decide +kernel)
    fun v _ => Site.obliging_of_recording rfl rfl rfl rfl v.kind
  obtain ⟨v, hv, hbuilt⟩ := hbuilt (by decide +kernel)
  rw [hvariant] at hv
  cases hv
  exact ⟨rfl, by decide +kernel, hbuilt⟩

end ConferenceAuth
