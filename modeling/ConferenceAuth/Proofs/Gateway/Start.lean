/-
**A start, step by step.**

While a gateway starts, its resources grow one by one: an authority, its publication, its running,
a server, the server's running, the readiness.  At every point on the way two things are guarded.
Whenever a server of the gateway's runs, the authority behind it runs and is published; and whenever
the gateway is ready, its state says that it has started, and everything that it holds runs.

Main definitions:

* `Site.Guarded` — what is guarded at every point;
* `Sound` — the progress of a call against the resources, guarded at all its points;
* `Holds` — the gateway holds the resources.

Main results:

* `Sound.publish`, `Sound.startAuthority`, `Sound.serve` — the steps that may fail;
* `Sound.tryStart` — **a start comes to rest with its resources complete, or fails with those
  acquired so far still held**.
-/
import ConferenceAuth.Proofs.Gateway.Resources

set_option autoImplicit false

namespace ConferenceAuth

/-! ### What is guarded -/

/-- **What is guarded at every point** of a run from `s₀`. -/
structure Site.Guarded (s₀ s : Site) : Prop where
  /-- Whenever a server of the gateway's runs, the authority runs and is published. -/
  server : ∀ v, s₀.nextServer ≤ v → s.runsServer v = true → s.Backed
  /-- Whenever the gateway is ready, it has started, and everything that it holds runs. -/
  ready : s.ready = true → s.gateway.state = .disabled ∨
    (s.gateway.state = .started ∧ s.Backed ∧
      ∀ v, s.gateway.server = some v → s.runsServer v = true)

/-- While the gateway is not ready, all that matters is what stands behind a running server. -/
theorem AccountedFor.guarded {s₀ s : Site} {es : List Event} {x : Resources}
    (h : AccountedFor s₀ es s x) (hready : x.ready = false)
    (hserver : ∀ v, x.server = some (v, true) → s.Backed) : s₀.Guarded s where
  server := fun v hv hrunning => hserver v (h.server_of_running hv hrunning)
  ready := by
    intro hs
    rw [h.ready, hready] at hs
    cases hs

/-- The gateway refers to the resources. -/
structure Holds (g : Gateway) (x : Resources) : Prop where
  authority : g.authority = x.authority.map (·.1)
  entry : g.registration = x.entry.map (·.1)
  server : g.server = x.server.map (·.1)

/-- **The progress of a call against the resources**, after the given history. -/
structure Sound (s₀ : Site) (es : List Event) (p : Progress) (x : Resources) : Prop where
  /-- The resources are those of the site. -/
  accounts : AccountedFor s₀ (es ++ p.events) p.site x
  /-- No authority has been stopped yet. -/
  calm : ∀ ev ∈ p.events, ∀ r, ev.call ≠ .stopAuthority r
  /-- The site is guarded. -/
  guarded : s₀.Guarded p.site
  /-- So were the sites at all points so far. -/
  points : ∀ done t, PointOf p.events done t → s₀.Guarded t

namespace Sound

variable {s₀ : Site} {es : List Event} {p : Progress} {x : Resources}

theorem begin {s : Site} (h : AccountedFor s₀ es s x) (hguarded : s₀.Guarded s) :
    Sound s₀ es ⟨s, []⟩ x where
  accounts := by rw [List.append_nil]; exact h
  calm := by intro ev hev; cases hev
  guarded := hguarded
  points := by intro done t ht; exact ht.not_nil.elim

theorem note (h : Sound s₀ es p x) {call : Call} {after : Site} {x' : Resources}
    (hcall : ∀ r, call ≠ .stopAuthority r)
    (haccounts : AccountedFor s₀ (es ++ p.events ++ [⟨call, p.site, after⟩]) after x')
    (hguarded : s₀.Guarded after) : Sound s₀ es (p.note call after) x' where
  accounts := by
    rw [List.append_assoc] at haccounts
    exact haccounts
  calm := by
    intro ev hev r
    rcases List.mem_append.1 hev with hev | hev
    · exact h.calm ev hev r
    · rw [List.mem_singleton.1 hev]
      exact hcall r
  guarded := hguarded
  points := by
    intro done t ht
    rcases ht.of_concat with ht | ⟨-, rfl⟩ | ⟨-, rfl⟩
    · exact h.points done t ht
    · exact h.guarded
    · exact hguarded

/-- A change of what the gateway holds, while it is not ready. -/
theorem hold (h : Sound s₀ es p x) (f : Gateway → Gateway) (hready : x.ready = false)
    (hserver : ∀ v, x.server = some (v, true) → (p.hold f).site.Backed) :
    Sound s₀ es (p.hold f) x where
  accounts := h.accounts.hold _
  calm := h.calm
  guarded := (h.accounts.hold _).guarded hready hserver
  points := h.points

/-- A change of the state, while the gateway is not ready. -/
theorem enter (h : Sound s₀ es p x) (state : LifecycleState) (hready : x.ready = false) :
    Sound s₀ es (p.enter state) x where
  accounts := h.accounts.enter state
  calm := h.calm
  guarded := (h.accounts.enter state).guarded hready fun v hv => by
    obtain ⟨hle, -, sv, hget, hrunning, -⟩ := h.accounts.servers.held v true hv
    refine h.guarded.server v hle ?_
    rw [Site.runsServer, Site.server?, hget]
    exact hrunning
  points := h.points

theorem readConfig (h : Sound s₀ es p x) : Sound s₀ es (p.note .readConfig p.site) x :=
  h.note (by intro r hr; cases hr) (h.accounts.append rfl rfl) h.guarded

/-! ### The authority -/

/-- **An authority is built**, and the gateway holds it. -/
theorem select (h : Sound s₀ es p {}) {a : Authority} (ha : a.keeper.running = false) :
    Sound s₀ es (p.select a) { authority := some (p.site.nextRef, false) } := by
  have haccounts : AccountedFor s₀ (es ++ p.events) (p.select a).site
      { authority := some (p.site.nextRef, false) } := by
    refine ⟨h.accounts.entries, ?_, h.accounts.servers, h.accounts.ready⟩
    have hstaffed := h.accounts.authorities.enroll a.variant
    rw [Backend.length_roster] at hstaffed
    show Staffed s₀.nextRef (p.site.toBackend.enroll a).roster _
    rw [Backend.roster_enroll, ha]
    exact hstaffed
  exact ⟨haccounts, h.calm, haccounts.guarded rfl (by intro v hv; cases hv), h.points⟩

theorem publishRefused (h : Sound s₀ es p x) :
    Sound s₀ es (p.note (.publish authorityService false) p.site) x :=
  h.note (by intro r hr; cases hr) (h.accounts.append rfl rfl) h.guarded

/-- **The authority is published.** -/
theorem publish {r : AuthorityRef} {b : Bool} (h : Sound s₀ es p { authority := some (r, b) }) :
    Sound s₀ es
      (p.note (.publish authorityService true)
        (p.site.publishEntry authorityService (.authority r)))
      { authority := some (r, b), entry := some (p.site.nextEntry authorityService, r) } := by
  have haccounts : AccountedFor s₀
      (es ++ p.events ++ [⟨.publish authorityService true, p.site,
        p.site.publishEntry authorityService (.authority r)⟩])
      (p.site.publishEntry authorityService (.authority r))
      { authority := some (r, b), entry := some (p.site.nextEntry authorityService, r) } :=
    ⟨h.accounts.entries.publish r rfl rfl, h.accounts.authorities, h.accounts.servers,
      h.accounts.ready⟩
  exact h.note (by intro r' hr; cases hr) haccounts
    (haccounts.guarded rfl (by intro v hv; cases hv))

/-- **The authority is started, or fails to start**: it starts when there is a runtime. -/
theorem startAuthority {r : AuthorityRef} {e : RegistryEntry}
    (h : Sound s₀ es p { authority := some (r, false), entry := some (e, r) })
    {v : AuthorityVariant} {b : Backend} {runtime : Bool}
    (hroster : b.roster = p.site.roster.set r (v, runtime)) (hhealth : b.health = p.site.health) :
    Sound s₀ es (p.note (.startAuthority r runtime) (p.site.withBackend b))
      { authority := some (r, runtime), entry := some (e, r) } := by
  have hready : (p.site.withBackend b).ready = false := by
    rw [Site.ready_withBackend, hhealth]
    exact h.accounts.ready
  have hstaffed : Staffed s₀.nextRef b.roster (some (r, runtime)) := by
    rw [hroster]
    exact h.accounts.authorities.set v runtime
  have haccounts : AccountedFor s₀
      (es ++ p.events ++ [⟨.startAuthority r runtime, p.site, p.site.withBackend b⟩])
      (p.site.withBackend b) { authority := some (r, runtime), entry := some (e, r) } :=
    ⟨h.accounts.entries.append rfl rfl, hstaffed, h.accounts.servers, hready⟩
  exact h.note (by intro r' hr; cases hr) haccounts
    (haccounts.guarded rfl (by intro v hv; cases hv))

/-! ### The server -/

/-- The held server is changed before it runs. -/
theorem editServer {v : ServerRef} (h : Sound s₀ es p { x with server := some (v, false) })
    (call : Call) (sv : Server) (hready : x.ready = false) (hcall : ∀ r, call ≠ .stopAuthority r)
    (hpublished : ∀ before after, Event.published? ⟨call, before, after⟩ = none)
    (hlost : ∀ before after, Event.lost? ⟨call, before, after⟩ = none)
    (hrunning : sv.running = false) (hstop : sv.stopCalls = 0) :
    Sound s₀ es (p.note call (p.site.updateServer v sv p.site.network))
      { x with server := some (v, false) } := by
  have haccounts : AccountedFor s₀
      (es ++ p.events ++ [⟨call, p.site, p.site.updateServer v sv p.site.network⟩])
      (p.site.updateServer v sv p.site.network) { x with server := some (v, false) } :=
    ⟨h.accounts.entries.append (hpublished ..) (hlost ..), h.accounts.authorities,
      h.accounts.servers.set hrunning hstop, h.accounts.ready⟩
  exact h.note hcall haccounts (haccounts.guarded hready (by intro v' hv'; cases hv'))

/-- **A server is created, completed and held**, but does not run yet. -/
theorem openServer (h : Sound s₀ es p x) (hserver : x.server = none) (hready : x.ready = false)
    (config : HttpConfig) (r : AuthorityRef) (kind : AuthorityKind) :
    Sound s₀ es (p.openServer config r kind)
      { x with server := some (p.site.nextServer, false) } := by
  have hcreate : Sound s₀ es
      (p.note (.createServer config) (p.site.addServer (Server.create config)))
      { x with server := some (p.site.nextServer, false) } := by
    have hserving : Serving s₀.nextServer p.site.servers none := hserver ▸ h.accounts.servers
    have haccounts : AccountedFor s₀
        (es ++ p.events ++ [⟨.createServer config, p.site,
          p.site.addServer (Server.create config)⟩])
        (p.site.addServer (Server.create config))
        { x with server := some (p.site.nextServer, false) } :=
      ⟨h.accounts.entries.append rfl rfl, h.accounts.authorities, hserving.add rfl rfl,
        h.accounts.ready⟩
    exact h.note (by intro r' hr; cases hr) haccounts
      (haccounts.guarded hready (by intro v hv; cases hv))
  -- handlers and connector are added one after the other, and meanwhile it does not run
  have hhandlers := hcreate.editServer
    (.addHandlers (Chain.kinds (Chain.ofAuthority gatewayHealth (some (r, kind))).1))
    ((Server.create config).addHandlers (Chain.ofAuthority gatewayHealth (some (r, kind))).1)
    hready (by intro r' hr; cases hr) (fun _ _ => rfl) (fun _ _ => rfl) rfl rfl
  unfold Progress.openServer
  dsimp only
  split
  · next connector _ =>
    refine hold (hhandlers.editServer (.addConnector connector) (Server.addConnector _ connector)
      hready ?_ (fun _ _ => rfl) (fun _ _ => rfl) rfl rfl) _ hready ?_
    · intro r' hr; cases hr
    · intro v hv; cases hv
  · exact hhandlers.hold _ hready (by intro v hv; cases hv)

theorem startServerFailed (h : Sound s₀ es p x) (v : ServerRef) :
    Sound s₀ es (p.note (.startServer v false) p.site) x :=
  h.note (by intro r hr; cases hr) (h.accounts.append rfl rfl) h.guarded

/-- **The server starts** in front of an authority that runs and is published. -/
theorem startServer {r : AuthorityRef} {e : RegistryEntry} {v : ServerRef}
    (h : Sound s₀ es p
      { authority := some (r, true), entry := some (e, r), server := some (v, false) })
    (hg : Holds p.site.gateway
      { authority := some (r, true), entry := some (e, r), server := some (v, false) })
    {sv : Server} (hrunning : sv.running = true) (hstop : sv.stopCalls = 0) (net : Network) :
    Sound s₀ es (p.note (.startServer v true) (p.site.updateServer v sv net))
      { authority := some (r, true), entry := some (e, r), server := some (v, true) } := by
  have haccounts : AccountedFor s₀
      (es ++ p.events ++ [⟨.startServer v true, p.site, p.site.updateServer v sv net⟩])
      (p.site.updateServer v sv net)
      { authority := some (r, true), entry := some (e, r), server := some (v, true) } :=
    ⟨h.accounts.entries.append rfl rfl, h.accounts.authorities,
      h.accounts.servers.set hrunning hstop, h.accounts.ready⟩
  exact h.note (by intro r' hr; cases hr) haccounts
    (haccounts.guarded rfl fun _ _ => haccounts.backed rfl rfl hg.authority hg.entry)

end Sound

/-! ### At rest -/

/-- **A site at rest between two calls**, after the given history of a run from `s₀`. -/
inductive AtRest (s₀ : Site) (es : List Event) (s : Site) : Prop
  | stopped (hg : s.gateway = {}) (h : AccountedFor s₀ es s {})
  /-- Nothing is held, but the gateway is ready. -/
  | disabled (hg : s.gateway = { state := .disabled }) (h : AccountedFor s₀ es s { ready := true })
  /-- An authority is held that runs and is published, and perhaps a server that runs. -/
  | started {v : AuthorityVariant} {r : AuthorityRef} {e : RegistryEntry}
      {server : Option ServerRef} (hg : s.gateway = ⟨.started, some v, some r, some e, server⟩)
      (hv : s.roster[r]? = some (v, true))
      (h : AccountedFor s₀ es s
        ⟨some (r, true), some (e, r), server.map fun x => (x, true), true⟩)

theorem AtRest.guarded {s₀ s : Site} {es : List Event} (h : AtRest s₀ es s) : s₀.Guarded s := by
  cases h with
  | stopped hg h => exact h.guarded rfl (by intro v hv; cases hv)
  | disabled hg h =>
      refine ⟨fun v hv hrunning => ?_, fun _ => Or.inl (by rw [hg])⟩
      cases h.server_of_running hv hrunning
  | @started v r e server hg hv h =>
      have hbacked : s.Backed := h.backed rfl rfl (by rw [hg]) (by rw [hg])
      refine ⟨fun _ _ _ => hbacked, fun _ => Or.inr ⟨by rw [hg], hbacked, ?_⟩⟩
      intro w hw
      rw [hg] at hw
      obtain rfl : server = some w := hw
      obtain ⟨-, -, sv, hget, hrunning, -⟩ := h.servers.held w true rfl
      rw [Site.runsServer, Site.server?, hget]
      exact hrunning

namespace Sound

variable {s₀ : Site} {es : List Event} {p : Progress} {x : Resources}

theorem accounts_setReady (h : Sound s₀ es p x) (ready : Bool) :
    AccountedFor s₀ (es ++ (p.setReady ready).events) (p.setReady ready).site { x with ready } := by
  have hevents : (p.setReady ready).events = p.events ++
      [⟨.setReady ready, p.site, (p.setReady ready).site⟩] := rfl
  rw [hevents, ← List.append_assoc]
  exact (h.accounts.append rfl rfl).setReady ready

/-- **The gateway is declared ready**, once it is at rest but for that. -/
theorem declareReady (h : Sound s₀ es p x)
    (hrest : AtRest s₀ (es ++ (p.setReady true).events) (p.setReady true).site) :
    Sound s₀ es (p.setReady true) { x with ready := true } := by
  have haccounts := h.accounts_setReady true
  refine h.note (by intro r hr; cases hr) ?_ hrest.guarded
  rw [List.append_assoc]
  exact haccounts

/-- **The server decision**: with a running and published authority, either the server that is
needed runs, if one is, or it has failed to start and is still held. -/
theorem serve {r : AuthorityRef} {e : RegistryEntry}
    (h : Sound s₀ es p { authority := some (r, true), entry := some (e, r) })
    (hg : Holds p.site.gateway { authority := some (r, true), entry := some (e, r) })
    (c : Conditions) (policy : ServerPolicy) (kind : AuthorityKind) :
    (∃ p' server, p.serve c policy r kind = (.ok (), p') ∧
      p'.site.gateway = { p.site.gateway with server } ∧ p'.site.roster = p.site.roster ∧
      Sound s₀ es p' ⟨some (r, true), some (e, r), server.map fun v => (v, true), false⟩) ∨
    (∃ er p' x', p.serve c policy r kind = (.error er, p') ∧ Sound s₀ es p' x' ∧
      Holds p'.site.gateway x') := by
  unfold Progress.serve
  dsimp only
  split
  · have hopened := h.openServer rfl rfl (HttpConfig.resolve c.config) r kind
    have hsite := p.openServer_site (HttpConfig.resolve c.config) r kind
    -- what matters from here on is that the server is held and does not run
    generalize p.openServer (HttpConfig.resolve c.config) r kind = q at hopened hsite
    have hgq : q.site.gateway = { p.site.gateway with server := some p.site.nextServer } := by
      rw [hsite]
    have hq : Holds q.site.gateway
        ⟨some (r, true), some (e, r), some (p.site.nextServer, false), false⟩ := by
      rw [hgq]
      exact ⟨hg.authority, hg.entry, rfl⟩
    obtain ⟨-, -, sv, hsv, -, hstop⟩ := hopened.accounts.servers.held _ _ rfl
    have hsv' : q.site.server? p.site.nextServer = some sv := hsv
    rcases q.startServer_eq hsv' c with ⟨er, heq, -⟩ | ⟨sv', net, heq, -, hstart⟩
    · exact Or.inr ⟨er, _, _, heq, hopened.startServerFailed _, hq⟩
    · obtain ⟨hrunning, hcalls, -⟩ := Server.start_ok hstart
      refine Or.inl ⟨_, some p.site.nextServer, heq, hgq, ?_,
        hopened.startServer hq hrunning (hcalls.trans hstop) net⟩
      show q.site.roster = p.site.roster
      rw [hsite]
  · refine Or.inl ⟨p, none, rfl, ?_, rfl, h⟩
    have hnone : p.site.gateway.server = none := hg.server
    rw [← hnone]

/-- **The second half of a start**: the authority that has been published starts, so does the server
if one is needed, and the gateway is at rest; or what has been acquired is still held. -/
theorem finish {r : AuthorityRef} {e : RegistryEntry} {v : AuthorityVariant}
    (h : Sound s₀ es p { authority := some (r, false), entry := some (e, r) })
    (hg : p.site.gateway = ⟨.published, some v, some r, some e, none⟩)
    (hv : p.site.roster[r]? = some (v, false)) (c : Conditions) (policy : ServerPolicy)
    (kind : AuthorityKind) :
    (∃ p' x, p.finish c policy r kind = (.ok (), p') ∧ Sound s₀ es p' x ∧
      AtRest s₀ (es ++ p'.events) p'.site) ∨
    (∃ er p' x, p.finish c policy r kind = (.error er, p') ∧ Sound s₀ es p' x ∧
      Holds p'.site.gateway x) := by
  obtain ⟨b, heq, -, hroster, hhealth⟩ := Progress.startAuthority_eq hv c
  have hstarted := h.startAuthority hroster hhealth
  have hgstarted : (p.note (.startAuthority r c.runtime) (p.site.withBackend b)).site.gateway =
      ⟨.published, some v, some r, some e, none⟩ := hg
  have hvstarted : (p.note (.startAuthority r c.runtime) (p.site.withBackend b)).site.roster[r]? =
      some (v, c.runtime) := by
    show b.roster[r]? = _
    rw [hroster, List.getElem?_set_self (List.getElem?_eq_some_iff.1 hv).1]
  unfold Progress.finish
  rw [heq]
  -- without a runtime the authority does not start, but it and its entry are held
  cases hruntime : c.runtime with
  | false =>
      rw [hruntime] at hstarted hgstarted
      refine Or.inr ⟨Keeper.noRuntime, _, _, rfl, hstarted, ?_⟩
      rw [hgstarted]
      exact ⟨rfl, rfl, rfl⟩
  | true =>
      rw [hruntime] at hstarted hgstarted hvstarted
      have hholds : Holds (p.note (.startAuthority r true) (p.site.withBackend b)).site.gateway
          { authority := some (r, true), entry := some (e, r) } := by
        rw [hgstarted]
        exact ⟨rfl, rfl, rfl⟩
      simp only [if_true]
      generalize p.note (.startAuthority r true) (p.site.withBackend b) = q
        at hstarted hgstarted hvstarted hholds
      rcases hstarted.serve hholds c policy kind with
        ⟨p', server, hserve, hg', hroster', hsound⟩ | ⟨er, p', x', hserve, hsound, hg'⟩
      · rw [hserve]
        have hentered := hsound.enter .started rfl
        have hrest : AtRest s₀ (es ++ ((p'.enter .started).setReady true).events)
            ((p'.enter .started).setReady true).site := by
          refine .started (v := v) ?_ ?_ (hentered.accounts_setReady true)
          · show (p'.enter .started).site.gateway = _
            rw [Progress.gateway_enter, hg', hgstarted]
          · show p'.site.roster[r]? = some (v, true)
            rw [hroster', hvstarted]
        exact Or.inl ⟨_, _, rfl, hentered.declareReady hrest, hrest⟩
      · rw [hserve]
        exact Or.inr ⟨er, p', x', rfl, hsound, hg'⟩

/-- **A start from a gateway at rest that holds nothing** comes to rest with its resources
complete, or fails with those acquired so far still held. -/
theorem tryStart {s : Site} (h : AccountedFor s₀ es s {}) (hg : s.gateway = {}) (c : Conditions) :
    (∃ p x, Progress.tryStart ⟨s, []⟩ c = (.ok (), p) ∧ Sound s₀ es p x ∧
      AtRest s₀ (es ++ p.events) p.site) ∨
    (∃ er p x, Progress.tryStart ⟨s, []⟩ c = (.error er, p) ∧ Sound s₀ es p x ∧
      Holds p.site.gateway x) := by
  have hguarded : s₀.Guarded s := h.guarded rfl (by intro v hv; cases hv)
  have hconfig : Sound s₀ es (Progress.configured ⟨s, []⟩) {} :=
    (begin h hguarded).readConfig.enter .configLoaded rfl
  have hgconfig : (Progress.configured ⟨s, []⟩).site.gateway = { state := .configLoaded } := by
    rw [Progress.configured, Progress.gateway_enter, Progress.site_note, hg]
  have hnext : (Progress.configured ⟨s, []⟩).site.nextRef = s.nextRef := rfl
  cases ha : Authority.create? (GatewayConfig.resolve c.config) with
  | none =>
      -- where no authority is wanted, nothing has to be acquired before the gateway is ready
      rw [Progress.tryStart_of_disabled ha]
      have hdisabled := hconfig.enter .disabled rfl
      refine Or.inl ⟨_, _, rfl, hdisabled.declareReady ?_, ?_⟩ <;>
        refine .disabled ?_ (hdisabled.accounts_setReady true)
      all_goals
        show ((Progress.configured ⟨s, []⟩).enter .disabled).site.gateway = _
        rw [Progress.gateway_enter, hgconfig]
  | some a =>
      have hrunning : a.keeper.running = false := by
        obtain ⟨v, -, rfl⟩ := Option.map_eq_some_iff.1 ha
        rfl
      have hselected := (hconfig.select hrunning).enter .authoritySelected rfl
      have hgselected : (((Progress.configured ⟨s, []⟩).select a).enter
          .authoritySelected).site.gateway =
            ⟨.authoritySelected, some a.variant, some s.nextRef, none, none⟩ := by
        rw [Progress.gateway_enter, Progress.gateway_select, hgconfig, hnext]
      have hv : (((Progress.configured ⟨s, []⟩).select a).enter
          .authoritySelected).site.roster[s.nextRef]? = some (a.variant, false) := by
        rw [← hrunning]
        exact (Progress.configured ⟨s, []⟩).roster_select a
      rw [Progress.tryStart_of_selected ha]
      rw [hnext] at hselected
      generalize ((Progress.configured ⟨s, []⟩).select a).enter .authoritySelected = q
        at hselected hgselected hv
      cases c.publish with
      | some er =>
          refine Or.inr ⟨.registry er, _, _, rfl, hselected.publishRefused, ?_⟩
          rw [Progress.site_note, hgselected]
          exact ⟨rfl, rfl, rfl⟩
      | none =>
          have hpublished : Sound s₀ es (q.published s.nextRef) _ :=
            (hselected.publish.hold _ rfl (by intro v hv; cases hv)).enter .published rfl
          refine hpublished.finish (v := a.variant) ?_ hv c _ _
          show ({ q.site.gateway with
            state := .published, registration := some (q.site.nextEntry authorityService) } :
              Gateway) = _
          rw [hgselected]

end Sound

end ConferenceAuth
