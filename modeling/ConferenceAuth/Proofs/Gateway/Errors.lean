/-
**Which errors a start can give.**

With a registry and servers that do not refuse of their own accord, a start can only fail at the
network: a connector cannot be bound, or it asks for transport security, which the servers leave to
the web server in front.  The servers would also refuse to start without connectors, and to start
twice; but a start never creates a server without connectors, and starts each once.

Main definitions:

* `Conditions.Working` — nobody refuses of their own accord;
* `ConfigSource.WantsTls` — the settings ask for transport security.

Main results:

* `Site.result_start_of_wanted`, `Site.result_start_of_not_wanted` — **the result of a start is that
  of its server**, if it needs one;
* `ConfigSource.exists_tls_connector_iff`, `ConfigSource.connectors_ne_nil` — what the server is
  asked to bind;
* `Site.Run.factory_eq`, `AtRest.isNew` — what a run keeps, and what it may go on from;
* `Site.result_start_cases`, `AtRest.idle_of_error` — how a start ends, and what is left of one that
  fails;
* `start_fails_at_the_network_only` — **a start fails at the network or not at all**.
-/
import ConferenceAuth.Proofs.Gateway.Building
import ConferenceAuth.Proofs.Gateway.Journal
import ConferenceAuth.Proofs.Server.Binding

set_option autoImplicit false

namespace ConferenceAuth

/-- **Nobody refuses of their own accord**: neither the registry nor a server. -/
structure Conditions.Working (c : Conditions) : Prop where
  publish : c.publish = none
  withdraw : c.withdraw = .works
  serverStart : c.serverStart = none
  serverStop : c.serverStop = none

/-! ### The result of a start -/

namespace Progress

variable {p p' : Progress} {c : Conditions} {policy : ServerPolicy} {r : AuthorityRef}
  {kind : AuthorityKind}

/-- Once the authority runs, only the server can fail. -/
theorem result_finish (h : p.startAuthority c r = (.ok (), p')) :
    (p.finish c policy r kind).1 = (p'.serve c policy r kind).1 := by
  rcases p.finish_cases c policy r kind with
    ⟨e, q, hq, -⟩ | ⟨q, e, q', hq, hq', heq⟩ | ⟨q, q', hq, hq', heq⟩
  · rw [h] at hq
    cases hq
  all_goals
    rw [h] at hq
    cases hq
    rw [heq, hq']

theorem result_startServer {v : ServerRef} {sv : Server} (hsv : p.site.server? v = some sv)
    (hc : c.serverStart = none) :
    (p.startServer c v).1 = (sv.start p.site.factory p.site.network).1 := by
  rcases p.startServer_eq hsv c with ⟨e, heq, hrefused | ⟨-, hfailed⟩⟩ | ⟨sv', net, heq, -, hstart⟩
  · rw [hc] at hrefused
    cases hrefused
  · rw [heq, hfailed]
  · rw [heq, hstart]

/-- **A wanted server decides the result.** -/
theorem result_serve (hc : c.serverStart = none) (hwants : c.config.WantsServer kind) :
    (p.serve c (GatewayConfig.resolve c.config).serverPolicy r kind).1 =
      ((Server.facing (HttpConfig.resolve c.config) r kind).start p.site.factory
        p.site.network).1 := by
  have hopen := p.openServer_site (HttpConfig.resolve c.config) r kind
  unfold serve
  dsimp only
  rw [if_pos ((c.config.wantsServer_iff kind).1 hwants)]
  generalize p.openServer (HttpConfig.resolve c.config) r kind = q at hopen
  have hget : q.site.server? p.site.nextServer =
      some (Server.facing (HttpConfig.resolve c.config) r kind) := by
    rw [hopen]
    exact List.getElem?_concat_length
  rw [result_startServer hget hc, hopen]

end Progress

namespace Site

variable {s : Site} {c : Conditions}

/-- A start that is taken at all gives the result of its first part. -/
theorem result_start (hg : s.gateway = {}) :
    (s.start c).result = (Progress.tryStart ⟨s, []⟩ c).1 := by
  rcases htry : Progress.tryStart ⟨s, []⟩ c with ⟨_ | _, p⟩
  · rw [start_of_error hg htry]
  · rw [start_of_ok hg htry]

/-- **The result of a start is that of its server**, when an authority is selected for which one is
wanted. -/
theorem result_start_of_wanted {v : AuthorityVariant} (hg : s.gateway = {}) (hc : c.Working)
    (hruntime : c.runtime = true) (hv : c.config.variant? = some v)
    (hwants : c.config.WantsServer v.kind) :
    (s.start c).result = ((Server.facing (HttpConfig.resolve c.config) s.nextRef v.kind).start
      s.factory s.network).1 := by
  have ha : Authority.create? (GatewayConfig.resolve c.config) =
      some (.ofVariant v (GatewayConfig.resolve c.config)) := by
    rw [ConfigSource.create?_resolve, hv]
    rfl
  obtain ⟨q, hstarted, hq⟩ := Progress.announced_startAuthority
    (Progress.announced_select hg (.ofVariant v (GatewayConfig.resolve c.config))) hruntime
  rw [result_start hg, Progress.tryStart_of_selected ha, hc.publish]
  refine (Progress.result_finish hstarted).trans ?_
  rw [show (Authority.ofVariant v (GatewayConfig.resolve c.config)).kind = v.kind from rfl,
    Progress.result_serve hc.serverStart hwants, hq.factory, hq.network]

/-- A start succeeds when no server is wanted. -/
theorem result_start_of_not_wanted {v : AuthorityVariant} (hg : s.gateway = {}) (hc : c.Working)
    (hruntime : c.runtime = true) (hv : c.config.variant? = some v)
    (hwants : ¬ c.config.WantsServer v.kind) : (s.start c).result = .ok () :=
  (built_start hg hv ⟨hc.publish, hruntime, fun h => absurd h hwants⟩).result

end Site

/-! ### What the server is asked to bind -/

namespace ConfigSource

variable {source : ConfigSource} {kind : AuthorityKind}

/-- Transport security is asked for exactly with a key store. -/
theorem exists_tls_connector_iff :
    (∃ c ∈ source.connectors kind, c.kind = .tls) ↔
      ∃ path, source.text? Property.keyStorePath.name = some path ∧ path ≠ "" := by
  have hstore : (∃ path, source.text? Property.keyStorePath.name = some path ∧ path ≠ "") ↔
      ∃ path, (HttpConfig.resolve source).keyStorePath = some path :=
    exists_congr fun path => nonEmpty?_eq_some_iff.symm
  rw [hstore]
  constructor
  · rintro ⟨c, hc, htls⟩
    cases hkey : (HttpConfig.resolve source).keyStorePath with
    | some path => exact ⟨path, rfl⟩
    | none =>
        -- neither the plain connector nor the one for forwarded requests has it
        simp only [connectors, hkey, Option.map_none, Option.toList_none, List.append_nil,
          List.mem_append, Option.mem_toList, Option.map_eq_some_iff] at hc
        rcases hc with ⟨port, -, rfl⟩ | hc
        · cases htls
        · split at hc
          · rw [List.mem_singleton.1 hc] at htls
            cases htls
          · cases hc
  · rintro ⟨path, hkey⟩
    refine ⟨.tls (HttpConfig.resolve source).host (HttpConfig.resolve source).tlsPort, ?_, rfl⟩
    simp [connectors, hkey]

/-- A server that is wanted has something to bind. -/
theorem connectors_ne_nil (h : source.WantsServer kind) : source.connectors kind ≠ [] := by
  have hhas := (hasConnectors_resolve_iff source).2 h.reachable
  rw [← Server.connectors_facing source 0 kind]
  show (HttpConfig.resolve source).connectors ++ _ ≠ []
  rw [ne_eq, List.append_eq_nil_iff, HttpConfig.connectors_eq_nil_iff, hhas]
  simp

end ConfigSource

namespace Site

variable {s : Site} {c : Conditions} {v : AuthorityVariant}

/-- With a key store a wanted server is refused. -/
theorem result_start_of_tls (hg : s.gateway = {}) (hfactory : s.factory = .binding)
    (hc : c.Working) (hruntime : c.runtime = true) (hv : c.config.variant? = some v)
    (hwants : c.config.WantsServer v.kind)
    (htls : ∃ x ∈ c.config.connectors v.kind, x.kind = .tls) :
    (s.start c).result = .error (.unsupportedConnector .tls) := by
  obtain ⟨x, hx, hkind⟩ := htls
  rw [← Server.connectors_facing c.config s.nextRef] at hx
  rw [result_start_of_wanted hg hc hruntime hv hwants, hfactory, Server.start_of_tls rfl hx hkind]

/-- Without one, a wanted server fails at its first connector that cannot be bound. -/
theorem result_start_of_stopsAt (hg : s.gateway = {}) (hfactory : s.factory = .binding)
    (hc : c.Working) (hruntime : c.runtime = true) (hv : c.config.variant? = some v)
    (hwants : c.config.WantsServer v.kind)
    (hplain : ∀ x ∈ c.config.connectors v.kind, x.kind ≠ .tls) {x : Connector}
    {failure : BindFailure} (hstops : StopsAt (c.config.connectors v.kind) s.network x failure) :
    (s.start c).result = .error (.bind x.kind x.address failure.reason) := by
  rw [← Server.connectors_facing c.config s.nextRef] at hplain hstops
  rw [result_start_of_wanted hg hc hruntime hv hwants, hfactory,
    Server.start_of_stopsAt rfl hplain hstops]

/-- **A start succeeds when all the connectors of its server can be bound.** -/
theorem result_start_of_binds (hg : s.gateway = {}) (hfactory : s.factory = .binding)
    (hc : c.Working) (hruntime : c.runtime = true) (hv : c.config.variant? = some v)
    (hplain : ∀ x ∈ c.config.connectors v.kind, x.kind ≠ .tls) {listeners : List Listener}
    {last : Network} (hbinds : Binds (c.config.connectors v.kind) s.network listeners last) :
    (s.start c).result = .ok () := by
  by_cases hwants : c.config.WantsServer v.kind
  · have hne := ConfigSource.connectors_ne_nil hwants
    rw [← Server.connectors_facing c.config s.nextRef] at hplain hbinds hne
    rw [result_start_of_wanted hg hc hruntime hv hwants, hfactory,
      Server.start_of_binds rfl hne hplain hbinds]
  · exact result_start_of_not_wanted hg hc hruntime hv hwants

end Site

/-! ### What a run keeps -/

namespace Progress

theorem factory_tryStart (p : Progress) (c : Conditions) :
    (p.tryStart c).2.site.factory = p.site.factory := by
  cases ha : Authority.create? (GatewayConfig.resolve c.config) with
  | none => rw [tryStart_of_disabled ha]; rfl
  | some a =>
      rw [tryStart_of_selected ha]
      cases c.publish with
      | some e => rfl
      | none =>
          dsimp only
          obtain ⟨_, _, _, _, _, hsite⟩ := Progress.finish_site
            (((p.configured.select a).enter .authoritySelected).published p.site.nextRef) c
            (GatewayConfig.resolve c.config).serverPolicy p.site.nextRef a.kind
          rw [hsite]
          rfl

theorem factory_stop (p : Progress) (c : Conditions) :
    (p.stop c).2.site.factory = p.site.factory := by
  obtain ⟨_, _, _, hsite⟩ := p.stop_site c
  rw [hsite]

end Progress

theorem Site.factory_start (s : Site) (c : Conditions) :
    (s.start c).site.factory = s.factory := by
  show (Progress.start ⟨s, []⟩ c).2.site.factory = s.factory
  have htry := Progress.factory_tryStart ⟨s, []⟩ c
  unfold Progress.start
  split
  · rfl
  · rcases hp : Progress.tryStart ⟨s, []⟩ c with ⟨_ | _, p⟩
    · rw [hp] at htry
      exact (p.factory_stop c).trans htry
    · rw [hp] at htry
      exact htry

theorem Visit.factory_eq {es : List Event} {s s' : Site} (h : Visit es s s') :
    s'.factory = s.factory := by
  cases h with
  | withdraw _ h =>
      obtain ⟨_, -, rfl⟩ := Site.eq_of_withdrawEntry h
      rfl
  | _ => rfl

/-- **The factory of a gateway never changes.** -/
theorem Site.Run.factory_eq {admits : Conditions → Prop} {s₀ s : Site} {es : List Event}
    (h : Site.Run admits Visit s₀ es s) : s.factory = s₀.factory := by
  induction h with
  | new => rfl
  | start _ _ ih => exact (Site.factory_start ..).trans ih
  | stop _ _ ih => exact (Progress.factory_stop ..).trans ih
  | visit _ hv ih => exact hv.factory_eq.trans ih

namespace AtRest

variable {s₀ s : Site} {es : List Event}

theorem gateway_eq (h : AtRest s₀ es s)
    (hs : ¬ (s.gateway.state = .started ∨ s.gateway.state = .disabled)) : s.gateway = {} := by
  cases h with
  | stopped hg _ => exact hg
  | disabled hg _ => exact absurd (Or.inr (by rw [hg])) hs
  | started hg _ _ => exact absurd (Or.inl (by rw [hg])) hs

theorem accounts (h : AtRest s₀ es s) (hg : s.gateway = {}) : AccountedFor s₀ es s {} := by
  cases h with
  | stopped _ h => exact h
  | disabled hg' _ => rw [hg'] at hg; cases hg
  | started hg' _ _ => rw [hg'] at hg; cases hg

/-- **A gateway at rest that holds nothing is as good as a new one.** -/
theorem isNew (h : AtRest s₀ es s) (hg : s.gateway = {}) : s.IsNew :=
  have hx := h.accounts hg
  ⟨hg, hx.ready, hx.entries.distinct, hx.entries.issued⟩

end AtRest

/-! ### The errors of a start -/

/-- **Transport security is asked for** where users would meet it. -/
structure ConfigSource.WantsTls (source : ConfigSource) : Prop where
  login : ∃ url, source.text? Property.loginUrl.name = some url ∧ url ≠ ""
  /-- Users reach the authority over the web, or a server is asked for in any case. -/
  needed : (∃ v, source.variant? = some v ∧ v.kind = .shibboleth) ∨
    source.bool? Property.httpAlwaysStart.name = some true
  store : ∃ path, source.text? Property.keyStorePath.name = some path ∧ path ≠ ""

/-- Transport security is asked for exactly if a server is wanted that is to have it. -/
theorem ConfigSource.wantsTls_iff {source : ConfigSource} :
    source.WantsTls ↔ ∃ v, source.variant? = some v ∧ source.WantsServer v.kind ∧
      ∃ x ∈ source.connectors v.kind, x.kind = .tls := by
  simp only [exists_tls_connector_iff]
  constructor
  · rintro ⟨⟨url, hurl, hne⟩, hneeded, hstore⟩
    cases hv : source.variant? with
    | none =>
        rcases AuthorityVariant.select_eq_none_iff.1 hv with hnone | hempty
        · rw [hnone] at hurl
          cases hurl
        · rw [hempty] at hurl
          exact absurd (Option.some.inj hurl).symm hne
    | some v =>
        refine ⟨v, rfl, ⟨?_, Or.inr hstore⟩, hstore⟩
        rcases hneeded with ⟨v', hv', hkind⟩ | halways
        · rw [hv] at hv'
          cases hv'
          exact Or.inl hkind
        · exact Or.inr halways
  · rintro ⟨v, hv, hwants, hstore⟩
    refine ⟨?_, ?_, hstore⟩
    · have hselected : ¬ (source.text? Property.loginUrl.name = none ∨
          source.text? Property.loginUrl.name = some "") := by
        intro h
        have hnone : source.variant? = none := AuthorityVariant.select_eq_none_iff.2 h
        rw [hv] at hnone
        cases hnone
      rw [not_or] at hselected
      obtain ⟨url, hurl⟩ := Option.ne_none_iff_exists'.1 hselected.1
      exact ⟨url, hurl, fun h => hselected.2 (h ▸ hurl)⟩
    · exact hwants.needed.imp (fun hkind => ⟨v, hv, hkind⟩) id

/-- **A start succeeds, or transport security is asked for, or a connector cannot be bound.** -/
theorem Site.result_start_cases {s : Site} {c : Conditions} (hg : s.gateway = {})
    (hfactory : s.factory = .binding) (hc : c.Working) (hruntime : c.runtime = true) :
    ((s.start c).result = .ok () ∧ ¬ c.config.WantsTls) ∨
      ((s.start c).result = .error (.unsupportedConnector .tls) ∧ c.config.WantsTls) ∨
      (¬ c.config.WantsTls ∧ ∃ v x failure, c.config.variant? = some v ∧
        StopsAt (c.config.connectors v.kind) s.network x failure ∧
        (s.start c).result = .error (.bind x.kind x.address failure.reason)) := by
  rw [ConfigSource.wantsTls_iff]
  cases hv : c.config.variant? with
  | none => exact Or.inl ⟨(dormant_start hg hv).result, by simp⟩
  | some v =>
      simp only [Option.some.injEq, exists_eq_left']
      by_cases hwants : c.config.WantsServer v.kind
      · by_cases htls : ∃ x ∈ c.config.connectors v.kind, x.kind = .tls
        · exact Or.inr (Or.inl ⟨result_start_of_tls hg hfactory hc hruntime hv hwants htls,
            hwants, htls⟩)
        · have hplain : ∀ x ∈ c.config.connectors v.kind, x.kind ≠ .tls :=
            fun x hx hkind => htls ⟨x, hx, hkind⟩
          rcases binds_or_stopsAt (c.config.connectors v.kind) s.network with
            ⟨listeners, last, hbinds⟩ | ⟨x, failure, hstops⟩
          · exact Or.inl ⟨result_start_of_binds hg hfactory hc hruntime hv hplain hbinds,
              fun h => htls h.2⟩
          · exact Or.inr (Or.inr ⟨fun h => htls h.2, v, x, failure, rfl, hstops,
              result_start_of_stopsAt hg hfactory hc hruntime hv hwants hplain hstops⟩)
      · exact Or.inl ⟨result_start_of_not_wanted hg hc hruntime hv hwants, fun h => hwants h.1⟩

/-- A start whose settings do not ask for transport security succeeds when all that its server is
asked to bind can be bound. -/
theorem Site.result_start_of_all_bound {s : Site} {c : Conditions} (hg : s.gateway = {})
    (hfactory : s.factory = .binding) (hc : c.Working) (hruntime : c.runtime = true)
    (hwants : ¬ c.config.WantsTls)
    (hbinds : ∀ v, c.config.variant? = some v →
      ∃ listeners last, Binds (c.config.connectors v.kind) s.network listeners last) :
    (s.start c).result = .ok () := by
  rcases result_start_cases hg hfactory hc hruntime with
    ⟨hok, -⟩ | ⟨-, htls⟩ | ⟨-, v, x, failure, hv, hstops, -⟩
  · exact hok
  · exact absurd htls hwants
  · obtain ⟨listeners, last, hbound⟩ := hbinds v hv
    exact absurd hstops hbound.not_stopsAt

/-- **A start that fails leaves the network and the registry as they were**, and a gateway that is
idle, while nothing has been lost to a registry that refuses. -/
theorem AtRest.idle_of_error {s₀ s : Site} {es : List Event} {c : Conditions} {e : GatewayError}
    (h : AtRest s₀ es s) (hg : s.gateway = {}) (hlost : lostBy es = []) (hc : c.withdraw = .works)
    (he : (s.start c).result = .error e) :
    (s.start c).site.network = s.network ∧ (s.start c).site.registry = s.registry ∧
      s₀.Idle (es ++ (s.start c).events) (s.start c).site := by
  obtain ⟨hrestored, hregistry⟩ := (h.accounts hg).restored_start hg he
  have hmore := h.lostBy_start hc
  refine ⟨hrestored.network, hregistry hmore, ?_⟩
  have hall : lostBy (es ++ (s.start c).events) = [] := by
    rw [lostBy_append, hlost, hmore, List.append_nil]
  rcases (h.start c).rest.idle_or_inService hall with ⟨-, -, hidle⟩ | ⟨hstate, -⟩ | ⟨hstate, -⟩
  · exact hidle
  · rw [hrestored.gateway] at hstate
    cases hstate
  · rw [hrestored.gateway] at hstate
    cases hstate

/-- **A start fails at the network or not at all.**  Take any run of a gateway whose servers bind and
whose registry and servers do not refuse of their own accord, with others at work in between, who may
take and give back any addresses.  Let the gateway not have started at its end, and start it with any
texts for its settings, and with a runtime.

* The start succeeds, or it is refused for transport security, or the first connector of its server
  that cannot be bound is named.  Its server always has connectors, and never runs already.
* It is refused for transport security exactly when the texts ask for that.
* Whatever the error is, the network and the registry are as they were, nothing of the gateway's is
  published, and none of its servers runs.
* After a connector could not be bound, the gateway can go on as it likes; as soon as all the
  connectors can be bound, a start with these settings succeeds. -/
theorem start_fails_at_the_network_only {s₀ s : Site} {es : List Event} {c : Conditions}
    (h₀ : s₀.IsNew) (hfactory : s₀.factory = .binding)
    (h : Site.Run Conditions.Working Visit s₀ es s) (hc : c.Working) (hruntime : c.runtime = true)
    (hs : ¬ (s.gateway.state = .started ∨ s.gateway.state = .disabled)) :
    ((s.start c).result = .ok () ∨
      (s.start c).result = .error (.unsupportedConnector .tls) ∨
      ∃ v x failure, c.config.variant? = some v ∧
        StopsAt (c.config.connectors v.kind) s.network x failure ∧
        (s.start c).result = .error (.bind x.kind x.address failure.reason)) ∧
    (s.start c).result ≠ .error (.server "no connectors configured") ∧
    (s.start c).result ≠ .error (.server "server already running") ∧
    ((s.start c).result = .error (.unsupportedConnector .tls) ↔ c.config.WantsTls) ∧
    (∀ e, (s.start c).result = .error e →
      (s.start c).site.network = s.network ∧ (s.start c).site.registry = s.registry ∧
        s₀.Idle (es ++ (s.start c).events) (s.start c).site) ∧
    (∀ kind address reason, (s.start c).result = .error (.bind kind address reason) →
      ∀ more s' c', Site.Run Conditions.Working Visit (s.start c).site more s' →
        ¬ (s'.gateway.state = .started ∨ s'.gateway.state = .disabled) →
        c'.Working → c'.runtime = true → c'.config = c.config →
        (∀ v, c.config.variant? = some v →
          ∃ listeners last, Binds (c.config.connectors v.kind) s'.network listeners last) →
        (s'.start c').result = .ok ()) := by
  have hrest := h.atRest h₀
  have hg := hrest.gateway_eq hs
  have hbinding : s.factory = .binding := h.factory_eq.trans hfactory
  have hcases := Site.result_start_cases hg hbinding hc hruntime
  refine ⟨?results, ?_, ?_, ?tls, fun e herror => ?undone, fun kind address reason hbind => ?later⟩
  case results =>
    rcases hcases with ⟨hok, -⟩ | ⟨htls, -⟩ | ⟨-, hbind⟩
    · exact Or.inl hok
    · exact Or.inr (Or.inl htls)
    · exact Or.inr (Or.inr hbind)
  case tls =>
    rcases hcases with ⟨hresult, hwants⟩ | ⟨hresult, hwants⟩ | ⟨hwants, _, _, _, -, -, hresult⟩
    all_goals
      rw [hresult]
      simp [hwants]
  case undone =>
    have hworks : Site.Run (·.withdraw = .works) Visit s₀ es s :=
      h.mono (fun _ hc => hc.withdraw) fun _ _ _ hv => hv
    exact hrest.idle_of_error hg (hworks.lostBy_eq_nil h₀) hc.withdraw herror
  case later =>
    intro more s' c' hmore hs' hc' hruntime' hconfig hbinds
    -- nothing is left of the failed start, so the gateway goes on like a new one
    have hnew : (s.start c).site.IsNew :=
      (hrest.start c).rest.isNew ((hrest.accounts hg).restored_start hg hbind).1.gateway
    have hbinding' : s'.factory = .binding :=
      hmore.factory_eq.trans ((Site.factory_start s c).trans hbinding)
    have hwants : ¬ c.config.WantsTls := by
      rcases hcases with ⟨hresult, -⟩ | ⟨hresult, -⟩ | ⟨hwants, -⟩
      · rw [hresult] at hbind
        cases hbind
      · rw [hresult] at hbind
        cases hbind
      · exact hwants
    rw [← hconfig] at hwants hbinds
    exact Site.result_start_of_all_bound ((hmore.atRest hnew).gateway_eq hs') hbinding' hc'
      hruntime' hwants hbinds
  all_goals
    rcases hcases with ⟨hresult, -⟩ | ⟨hresult, -⟩ | ⟨-, _, _, _, -, -, hresult⟩
    all_goals
      rw [hresult]
      simp

/-- In a rehearsal of single sign-on somebody else has taken the port of the connector for forwarded
requests.  The start says so, after it has given back the plain connector, which it had bound.  Then
the port is given back, and the next start succeeds. -/
theorem start_succeeds_once_the_port_is_free :
    let s₀ : Site :=
      { Site.rehearsal (.numbered "session-") (.numbered "entry-") .binding with
        network := { taken := [⟨.v4 .unspecified, reverseProxyPort, 0⟩] } }
    let c := Conditions.ofRefusals (.ofProperties Deployment.shibboleth.settings) true []
    let o := s₀.start c
    o.result = .error (.bind .reverseProxy "0.0.0.0:8009" "Address already in use (os error 98)") ∧
      o.site.network = s₀.network ∧
      ({ o.site with network := {} }.start c).result = .ok () := by
  intro s₀ c o
  have hnew : s₀.IsNew :=
    ⟨rfl, rfl, IdSource.distinct_numbered _, by intro p hp; cases hp⟩
  have hworking : c.Working := ⟨rfl, rfl, rfl, rfl⟩
  have herror : o.result =
      .error (.bind .reverseProxy "0.0.0.0:8009" "Address already in use (os error 98)") := by
    decide +kernel
  obtain ⟨-, -, -, -, hundone, hlater⟩ :=
    start_fails_at_the_network_only hnew rfl .new hworking rfl (by decide)
  refine ⟨herror, (hundone _ herror).1, ?_⟩
  refine hlater _ _ _ herror [] _ c (.visit .new (.rewire {})) (by decide +kernel) hworking rfl rfl ?_
  intro v hv
  have hvariant : c.config.variant?.map (·.kind) = some .shibboleth := by decide +kernel
  have hkind : v.kind = .shibboleth := by simpa [hv] using hvariant
  have hbound : (bindAll (c.config.connectors .shibboleth) {}).isOk = true := by decide +kernel
  rw [hkind]
  cases hall : bindAll (c.config.connectors .shibboleth) {} with
  | error e =>
      rw [hall] at hbound
      cases hbound
  | ok bound => exact ⟨bound.1, bound.2, bindAll_eq_ok_iff.1 hall⟩

end ConferenceAuth
