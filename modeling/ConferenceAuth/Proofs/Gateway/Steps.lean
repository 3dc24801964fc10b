/-
**The steps of a start and of a stop, each in one equation.**

Each step of a call asks something of a service, notes it, and may change what the gateway holds.
Here every step is brought into one equation for each way in which it can end, so that later modules
never open it again.

Main definitions:

* `Server.facing` — the server that stands before an authority, complete but not started;
* `Progress.configured`, `Progress.published`, `Progress.finish` — a start in its parts.

Main results:

* `Progress.startAuthority_eq`, `Progress.openServer_site`, `Progress.startServer_eq` — the steps of
  a start;
* `Progress.tryStart_of_disabled`, `Progress.tryStart_of_selected`, `Progress.finish_cases` — a start
  as a whole;
* `Progress.serve_site`, `Progress.finish_site`, `Progress.stop_site` — what the steps leave alone;
* `Progress.releaseServer_eq`, `Progress.releaseRegistration_of_ok`,
  `Progress.releaseRegistration_of_error`, `Progress.releaseAuthority_eq` — the steps of a stop;
* `Progress.withdrawUnder_works`, `Progress.withdrawUnder_refused`,
  `Progress.withdrawUnder_misses` — the ways in which a registry takes a withdrawal;
* `Progress.gateway_stop` — **a stop leaves a gateway that holds nothing**.
-/
import ConferenceAuth.Proofs.Backend.Roster
import ConferenceAuth.Proofs.Gateway.Publications

set_option autoImplicit false

namespace ConferenceAuth

/-! ### Servers -/

namespace Server

/-- The server that stands before an authority, complete but not started. -/
def facing (config : HttpConfig) (r : AuthorityRef) (kind : AuthorityKind) : Server where
  config
  connectors :=
    config.connectors ++ (Chain.ofAuthority gatewayHealth (some (r, kind))).2.toList
  handlers := (Chain.ofAuthority gatewayHealth (some (r, kind))).1

end Server

/-! ### Sites -/

namespace Site

@[simp] theorem toBackend_withBackend (s : Site) (b : Backend) :
    (s.withBackend b).toBackend = b := rfl

theorem ready_withBackend (s : Site) (b : Backend) :
    (s.withBackend b).ready = (b.health gatewayHealth).ready := rfl

theorem ready_setReady (s : Site) (ready : Bool) :
    (s.withBackend (s.toBackend.setReady gatewayHealth ready)).ready = ready := by
  rw [ready_withBackend, Backend.health_setReady_self, Health.ready_withReady]

theorem ready_stopAuthority (s : Site) (r : AuthorityRef) :
    (s.withBackend (s.toBackend.stopAuthority r)).ready = s.ready := by
  rw [ready_withBackend, Backend.health_stopAuthority]
  rfl

theorem updateServer_self {s : Site} {v : ServerRef} {sv : Server} (h : s.server? v = some sv) :
    s.updateServer v sv s.network = s := by
  have hset : s.servers.set v sv = s.servers := by
    refine List.ext_getElem? fun i => ?_
    rw [List.getElem?_set]
    split
    · next heq =>
      subst heq
      have hlt : v < s.servers.length := (List.getElem?_eq_some_iff.1 h).1
      rw [if_pos hlt]
      exact h.symm
    · rfl
  unfold updateServer
  rw [hset]

end Site

namespace Progress

/-! ### Notes -/

@[simp] theorem site_note (p : Progress) (call : Call) (after : Site) :
    (p.note call after).site = after := rfl

@[simp] theorem events_note (p : Progress) (call : Call) (after : Site) :
    (p.note call after).events = p.events ++ [⟨call, p.site, after⟩] := rfl

@[simp] theorem events_hold (p : Progress) (f : Gateway → Gateway) :
    (p.hold f).events = p.events := rfl

@[simp] theorem gateway_enter (p : Progress) (state : LifecycleState) :
    (p.enter state).site.gateway = { p.site.gateway with state } := rfl

@[simp] theorem events_enter (p : Progress) (state : LifecycleState) :
    (p.enter state).events = p.events := rfl

/-! ### The steps of a start -/

@[simp] theorem gateway_select (p : Progress) (a : Authority) :
    (p.select a).site.gateway =
      { p.site.gateway with variant := some a.variant, authority := some p.site.nextRef } := rfl

theorem roster_select (p : Progress) (a : Authority) :
    (p.select a).site.roster[p.site.nextRef]? = some (a.variant, a.keeper.running) := by
  show (p.site.toBackend.enroll a).roster[p.site.nextRef]? = _
  rw [Backend.roster_enroll, ← Backend.length_roster]
  simp

/-- **An authority that does not run yet starts when there is a runtime.** -/
theorem startAuthority_eq {p : Progress} {r : AuthorityRef} {v : AuthorityVariant}
    (hv : p.site.roster[r]? = some (v, false)) (c : Conditions) :
    ∃ b, p.startAuthority c r =
        (if c.runtime then .ok () else .error Keeper.noRuntime,
          p.note (.startAuthority r c.runtime) (p.site.withBackend b)) ∧
      p.site.toBackend.startAuthority r c.runtime =
        (if c.runtime then .ok () else .error Keeper.noRuntime, b) ∧
      b.roster = p.site.roster.set r (v, c.runtime) ∧ b.health = p.site.health := by
  obtain ⟨hresult, hroster, hhealth⟩ := Backend.roster_startAuthority hv c.runtime
  rcases hb : p.site.toBackend.startAuthority r c.runtime with ⟨result, b⟩
  rw [hb] at hresult hroster hhealth
  simp only [Bool.false_or] at hresult hroster
  subst hresult
  refine ⟨b, ?_, rfl, hroster, hhealth⟩
  unfold startAuthority
  rw [hb]
  cases c.runtime <;> rfl

/-- **A server is opened** in front of an authority, and the gateway holds it. -/
theorem openServer_site (p : Progress) (config : HttpConfig) (r : AuthorityRef)
    (kind : AuthorityKind) :
    (p.openServer config r kind).site =
      { p.site with
        servers := p.site.servers ++ [Server.facing config r kind]
        gateway := { p.site.gateway with server := some p.site.nextServer } } := by
  cases kind <;>
    simp [openServer, hold, note, Site.addServer, Site.updateServer, Site.nextServer,
      Chain.ofAuthority, AuthorityKind.extraConnector, Server.create, Server.addHandlers,
      Server.addConnector, Server.facing]

/-- **A server starts or fails to start**; when it fails, nothing has changed. -/
theorem startServer_eq {p : Progress} {v : ServerRef} {sv : Server}
    (hsv : p.site.server? v = some sv) (c : Conditions) :
    (∃ e, p.startServer c v = (.error e, p.note (.startServer v false) p.site) ∧
      (c.serverStart = some e ∨ c.serverStart = none ∧
        (sv.start p.site.factory p.site.network).1 = .error e)) ∨
    (∃ sv' net, p.startServer c v =
        (.ok (), p.note (.startServer v true) (p.site.updateServer v sv' net)) ∧
      c.serverStart = none ∧ sv.start p.site.factory p.site.network = (.ok (), sv', net)) := by
  unfold startServer
  rw [hsv]
  cases c.serverStart with
  | some e => exact Or.inl ⟨e, rfl, Or.inl rfl⟩
  | none =>
      rcases hstart : sv.start p.site.factory p.site.network with ⟨_ | _, sv', net⟩
      · next e =>
        obtain ⟨rfl, rfl⟩ := Server.start_error hstart
        refine Or.inl ⟨e, ?_, Or.inr ⟨rfl, rfl⟩⟩
        simp only [hstart, Site.updateServer_self hsv]
      · exact Or.inr ⟨sv', net, by simp only [hstart], rfl, rfl⟩

/-! ### A start as a whole -/

/-- The settings have been read. -/
def configured (p : Progress) : Progress := (p.note .readConfig p.site).enter .configLoaded

/-- An authority has been published and its entry is held. -/
def published (p : Progress) (r : AuthorityRef) : Progress :=
  ((p.note (.publish authorityService true)
    (p.site.publishEntry authorityService (.authority r))).hold fun g =>
      { g with registration := some (p.site.nextEntry authorityService) }).enter .published

/-- The second half of a start, from the published authority on. -/
def finish (p : Progress) (c : Conditions) (policy : ServerPolicy) (r : AuthorityRef)
    (kind : AuthorityKind) : Except GatewayError Unit × Progress :=
  match p.startAuthority c r with
  | (.error e, p) => (.error e, p)
  | (.ok (), p) =>
      match p.serve c policy r kind with
      | (.error e, p) => (.error e, p)
      | (.ok (), p) => (.ok (), (p.enter .started).setReady true)

theorem tryStart_of_disabled {c : Conditions}
    (h : Authority.create? (GatewayConfig.resolve c.config) = none) (p : Progress) :
    p.tryStart c = (.ok (), (p.configured.enter .disabled).setReady true) := by
  simp only [tryStart, h]
  rfl

/-- **A start that selects an authority** fails to publish it, or goes on once it is published. -/
theorem tryStart_of_selected {c : Conditions} {a : Authority}
    (h : Authority.create? (GatewayConfig.resolve c.config) = some a) (p : Progress) :
    p.tryStart c =
      match c.publish with
      | some e => (.error (.registry e),
          ((p.configured.select a).enter .authoritySelected).note
            (.publish authorityService false)
            ((p.configured.select a).enter .authoritySelected).site)
      | none => (((p.configured.select a).enter .authoritySelected).published p.site.nextRef).finish
          c (GatewayConfig.resolve c.config).serverPolicy p.site.nextRef a.kind := by
  cases hc : c.publish with
  | some e =>
      simp only [tryStart, h, publish, hc]
      rfl
  | none =>
      simp only [tryStart, h, publish, hc]
      rfl

/-- **The second half of a start** ends at the part of it that fails, or goes through to its end. -/
theorem finish_cases (p : Progress) (c : Conditions) (policy : ServerPolicy) (r : AuthorityRef)
    (kind : AuthorityKind) :
    (∃ e q, p.startAuthority c r = (.error e, q) ∧ p.finish c policy r kind = (.error e, q)) ∨
    (∃ q e q', p.startAuthority c r = (.ok (), q) ∧ q.serve c policy r kind = (.error e, q') ∧
      p.finish c policy r kind = (.error e, q')) ∨
    (∃ q q', p.startAuthority c r = (.ok (), q) ∧ q.serve c policy r kind = (.ok (), q') ∧
      p.finish c policy r kind = (.ok (), (q'.enter .started).setReady true)) := by
  rcases hq : p.startAuthority c r with ⟨e | _, q⟩
  · exact Or.inl ⟨e, q, rfl, by simp only [finish, hq]⟩
  · rcases hq' : q.serve c policy r kind with ⟨e | _, q'⟩
    · exact Or.inr (Or.inl ⟨q, e, q', rfl, hq', by simp only [finish, hq, hq']⟩)
    · exact Or.inr (Or.inr ⟨q, q', rfl, hq', by simp only [finish, hq, hq']⟩)

/-! ### What each step of a start may change -/

theorem startAuthority_site (p : Progress) (c : Conditions) (r : AuthorityRef) :
    (p.startAuthority c r).2.site =
      p.site.withBackend (p.site.toBackend.startAuthority r c.runtime).2 := by
  unfold startAuthority
  rcases p.site.toBackend.startAuthority r c.runtime with ⟨_ | _, b⟩ <;> rfl

theorem startServer_site (p : Progress) (c : Conditions) (v : ServerRef) :
    ∃ servers network, (p.startServer c v).2.site = { p.site with servers, network } := by
  unfold startServer
  split
  · exact ⟨_, _, rfl⟩
  · split
    · exact ⟨_, _, rfl⟩
    · split <;> exact ⟨_, _, rfl⟩

theorem serve_site (p : Progress) (c : Conditions) (policy : ServerPolicy) (r : AuthorityRef)
    (kind : AuthorityKind) :
    ∃ server servers network, (p.serve c policy r kind).2.site =
      { p.site with gateway := { p.site.gateway with server }, servers, network } := by
  unfold serve
  dsimp only
  split
  · obtain ⟨servers, network, hsite⟩ :=
      (p.openServer (HttpConfig.resolve c.config) r kind).startServer_site c p.site.nextServer
    refine ⟨some p.site.nextServer, servers, network, ?_⟩
    rw [hsite, openServer_site]
  · exact ⟨_, _, _, rfl⟩

theorem finish_site (p : Progress) (c : Conditions) (policy : ServerPolicy) (r : AuthorityRef)
    (kind : AuthorityKind) :
    ∃ b state server servers network, (p.finish c policy r kind).2.site =
      { p.site.withBackend b with
        gateway := { p.site.gateway with state, server }, servers, network } := by
  have hstart := p.startAuthority_site c r
  rcases p.finish_cases c policy r kind with
    ⟨e, q, hq, heq⟩ | ⟨q, e, q', hq, hq', heq⟩ | ⟨q, q', hq, hq', heq⟩
  · rw [hq] at hstart
    rw [heq, hstart]
    exact ⟨_, p.site.gateway.state, p.site.gateway.server, p.site.servers, p.site.network, rfl⟩
  all_goals
    obtain ⟨server, servers, network, hserve⟩ := q.serve_site c policy r kind
    rw [hq] at hstart
    rw [hq', hstart] at hserve
    rw [heq]
  · exact ⟨_, p.site.gateway.state, server, servers, network, hserve⟩
  · refine ⟨(q'.site.enter .started).toBackend.setReady gatewayHealth true, .started, server,
      servers, network, ?_⟩
    show (q'.site.enter .started).withBackend
      ((q'.site.enter .started).toBackend.setReady gatewayHealth true) = _
    generalize (q'.site.enter .started).toBackend.setReady gatewayHealth true = b
    rw [hserve]
    rfl

/-! ### The steps of a stop -/

theorem releaseServer_of_none {p : Progress} (h : p.site.gateway.server = none) (c : Conditions) :
    p.releaseServer c = (.ok (), p) := by
  unfold releaseServer
  rw [h]

/-- **The held server is stopped**, once it has been let go of. -/
theorem releaseServer_eq {p : Progress} {v : ServerRef} {sv : Server}
    (h : p.site.gateway.server = some v) (hsv : p.site.server? v = some sv) (c : Conditions) :
    p.releaseServer c =
      (match c.serverStop with | none => .ok () | some e => .error e,
        (p.hold fun g => { g with server := none }).note (.stopServer v c.serverStop.isNone)
          ((p.hold fun g => { g with server := none }).site.updateServer v
            (sv.stop p.site.network).1 (sv.stop p.site.network).2)) := by
  have hsv' : (p.hold fun g => { g with server := none }).site.server? v = some sv := hsv
  unfold releaseServer
  simp only [h, hsv']
  cases c.serverStop <;> rfl

theorem releaseRegistration_of_none {p : Progress} (h : p.site.gateway.registration = none)
    (c : Conditions) : p.releaseRegistration c = (.ok (), p) := by
  unfold releaseRegistration
  rw [h]

theorem releaseRegistration_of_ok {p : Progress} {entry : RegistryEntry} {c : Conditions}
    {after : Site} (h : p.site.gateway.registration = some entry)
    (hafter : withdrawUnder c (p.hold fun g => { g with registration := none }).site entry =
      (.ok (), after)) :
    p.releaseRegistration c =
      (.ok (), (p.hold fun g => { g with registration := none }).note (.withdraw entry true)
        after) := by
  unfold releaseRegistration
  simp only [h, hafter]

theorem releaseRegistration_of_error {p : Progress} {entry : RegistryEntry} {c : Conditions}
    {e : HostError} {after : Site} (h : p.site.gateway.registration = some entry)
    (hafter : withdrawUnder c (p.hold fun g => { g with registration := none }).site entry =
      (.error e, after)) :
    p.releaseRegistration c =
      (.error e, (p.hold fun g => { g with registration := none }).note (.withdraw entry false)
        after) := by
  unfold releaseRegistration
  simp only [h, hafter]

/-- An entry that is in the registry can be withdrawn from a registry that works. -/
theorem withdrawUnder_works {c : Conditions} (hc : c.withdraw = .works) {s : Site}
    {entry : RegistryEntry} (h : s.registry.holds entry = true) :
    withdrawUnder c s entry =
      (.ok (), { s with registry := ⟨s.registry.published.erase entry.id⟩
                        journal := s.journal ++ [.withdraw entry] }) := by
  simp only [withdrawUnder, hc, Site.withdrawEntry, Registry.withdraw_of_holds h]

theorem withdrawUnder_refused {c : Conditions} {e : HostError} (hc : c.withdraw = .refused e)
    (s : Site) (entry : RegistryEntry) : withdrawUnder c s entry = (.error e, s) := by
  simp only [withdrawUnder, hc]

/-- A registry that misses removes the publication, but fails because nothing is known by the
identifier that comes next. -/
theorem withdrawUnder_misses {c : Conditions} (hc : c.withdraw = .misses) {s : Site}
    {entry : RegistryEntry} (h : s.registry.holds entry = true)
    (hnext : s.registry.published.find? s.entryIds.current = none) :
    withdrawUnder c s entry =
      (.error (.entryNotFound (s.nextEntry entry.service).display),
        { s with registry := ⟨s.registry.published.erase entry.id⟩
                 journal := s.journal ++ [.withdraw entry]
                 entryIds := s.entryIds.advance }) := by
  -- the stray entry gets the next identifier, under which nothing is published
  have hstray : (⟨s.registry.published.erase entry.id⟩ : Registry Capability).holds
      (s.nextEntry entry.service) = false := by
    rw [Bool.eq_false_iff, ne_eq, Registry.holds_erase_iff, Registry.holds]
    rintro ⟨hsome, -⟩
    rw [show (s.nextEntry entry.service).id = s.entryIds.current from rfl, hnext] at hsome
    cases hsome
  have hwithdraw := Registry.withdraw_of_not_holds hstray
  simp only [withdrawUnder, hc, Site.withdrawEntry, Registry.withdraw_of_holds h, Site.drawEntry]
  simp only [Site.nextEntry] at hwithdraw ⊢
  rw [hwithdraw]

theorem releaseAuthority_of_none {p : Progress} (h : p.site.gateway.authority = none) :
    p.releaseAuthority = p := by
  unfold releaseAuthority
  rw [h]

/-- **The held authority is stopped**, once it has been let go of. -/
theorem releaseAuthority_eq {p : Progress} {r : AuthorityRef}
    (h : p.site.gateway.authority = some r) :
    p.releaseAuthority = (p.hold fun g => { g with authority := none }).note (.stopAuthority r)
      ((p.hold fun g => { g with authority := none }).site.withBackend
        (p.site.toBackend.stopAuthority r)) := by
  unfold releaseAuthority
  rw [h]
  rfl

/-! ### What each step of a stop may change -/

theorem releaseServer_site (p : Progress) (c : Conditions) :
    ∃ servers network, (p.releaseServer c).2.site =
      { p.site with gateway := { p.site.gateway with server := none }, servers, network } := by
  unfold releaseServer
  split
  · next h => exact ⟨p.site.servers, p.site.network, by simp only [← h]⟩
  · dsimp only
    split
    · exact ⟨_, _, rfl⟩
    · split <;> exact ⟨_, _, rfl⟩

theorem withdrawUnder_site (c : Conditions) (s : Site) (entry : RegistryEntry) :
    ∃ registry journal entryIds, (withdrawUnder c s entry).2 =
      { s with registry, journal, entryIds } := by
  unfold withdrawUnder
  split
  · exact ⟨_, _, _, rfl⟩
  · split
    · next s' h =>
      obtain ⟨registry, -, rfl⟩ := Site.eq_of_withdrawEntry h
      exact ⟨_, _, _, rfl⟩
    · exact ⟨_, _, _, rfl⟩
  · split
    · exact ⟨_, _, _, rfl⟩
    · next s' h =>
      obtain ⟨registry, -, rfl⟩ := Site.eq_of_withdrawEntry h
      dsimp only
      split
      · next s'' h' =>
        obtain ⟨registry', -, rfl⟩ := Site.eq_of_withdrawEntry h'
        exact ⟨_, _, _, rfl⟩
      · exact ⟨_, _, _, rfl⟩

theorem releaseRegistration_site (p : Progress) (c : Conditions) :
    ∃ registry journal entryIds, (p.releaseRegistration c).2.site =
      { p.site with
        gateway := { p.site.gateway with registration := none }
        registry, journal, entryIds } := by
  cases h : p.site.gateway.registration with
  | none =>
      rw [releaseRegistration_of_none h]
      exact ⟨p.site.registry, p.site.journal, p.site.entryIds, by simp only [← h]⟩
  | some entry =>
      obtain ⟨registry, journal, entryIds, hsite⟩ :=
        withdrawUnder_site c (p.hold fun g => { g with registration := none }).site entry
      rcases hafter : withdrawUnder c (p.hold fun g => { g with registration := none }).site entry
        with ⟨_ | _, after⟩
      · rw [hafter] at hsite
        rw [releaseRegistration_of_error h hafter]
        exact ⟨registry, journal, entryIds, hsite⟩
      · rw [hafter] at hsite
        rw [releaseRegistration_of_ok h hafter]
        exact ⟨registry, journal, entryIds, hsite⟩

theorem releaseAuthority_site (p : Progress) :
    p.releaseAuthority.site =
      { p.site with
        gateway := { p.site.gateway with authority := none }
        toBackend := (p.site.gateway.authority.map p.site.toBackend.stopAuthority).getD
          p.site.toBackend } := by
  cases h : p.site.gateway.authority with
  | none =>
      have hgateway : p.site.gateway = { p.site.gateway with authority := none } := by rw [← h]
      rw [releaseAuthority_of_none h]
      simp only [← hgateway, Option.map_none, Option.getD_none]
  | some r =>
      rw [releaseAuthority_eq h]
      rfl

theorem settle_site (p : Progress) :
    ∃ metrics, p.settle.site =
      { p.site with
        gateway := { p.site.gateway with state := .stopped, variant := none }
        toBackend := { p.site.toBackend with metrics } } := by
  unfold settle
  dsimp only
  split
  · next h =>
    refine ⟨p.site.metrics, ?_⟩
    have hstate : p.site.gateway.state = .stopped := h
    simp only [← hstate]
    rfl
  · exact ⟨_, rfl⟩

/-! ### What a stop comes to -/

@[simp] theorem events_settle (p : Progress) : p.settle.events = p.events := by
  unfold settle
  dsimp only
  split <;> rfl

theorem stop_eq (p : Progress) (c : Conditions) :
    p.stop c =
      (stopResult ((p.setReady false).releaseServer c).1
        (((p.setReady false).releaseServer c).2.releaseRegistration c).1,
      (((p.setReady false).releaseServer c).2.releaseRegistration c).2.releaseAuthority.settle) :=
  rfl

/-- A stop adds to the calls that have been made. -/
theorem events_stop (p : Progress) (c : Conditions) :
    ∃ rest, (p.stop c).2.events = p.events ++ rest := by
  have hserver : ∀ p : Progress, ∃ rest, (p.releaseServer c).2.events = p.events ++ rest := by
    intro p
    unfold releaseServer
    split
    · exact ⟨[], by simp⟩
    · dsimp only
      split
      · exact ⟨[], by simp⟩
      · split <;> exact ⟨_, rfl⟩
  have hregistration : ∀ p : Progress,
      ∃ rest, (p.releaseRegistration c).2.events = p.events ++ rest := by
    intro p
    unfold releaseRegistration
    split
    · exact ⟨[], by simp⟩
    · dsimp only
      split <;> exact ⟨_, rfl⟩
  have hauthority : ∀ p : Progress, ∃ rest, p.releaseAuthority.events = p.events ++ rest := by
    intro p
    unfold releaseAuthority
    split
    · exact ⟨[], by simp⟩
    · exact ⟨_, rfl⟩
  obtain ⟨rest, hrest⟩ := hserver (p.setReady false)
  obtain ⟨rest', hrest'⟩ := hregistration ((p.setReady false).releaseServer c).2
  obtain ⟨rest'', hrest''⟩ :=
    hauthority (((p.setReady false).releaseServer c).2.releaseRegistration c).2
  refine ⟨[⟨.setReady false, p.site, (p.setReady false).site⟩] ++ rest ++ rest' ++ rest'', ?_⟩
  rw [stop_eq, events_settle, hrest'', hrest', hrest]
  simp [setReady]

theorem lostBy_releaseServer (p : Progress) (c : Conditions) :
    lostBy (p.releaseServer c).2.events = lostBy p.events := by
  unfold releaseServer
  split
  · rfl
  · dsimp only
    split
    · rfl
    · split <;> simp [lostBy, Event.lost?]

theorem lostBy_releaseAuthority (p : Progress) :
    lostBy p.releaseAuthority.events = lostBy p.events := by
  unfold releaseAuthority
  split
  · rfl
  · simp [lostBy, Event.lost?]

/-- **A stop in terms of its steps**: it leaves a gateway that holds nothing, whatever it held and
whatever has failed, and stops what was held. -/
theorem stop_site (p : Progress) (c : Conditions) :
    ∃ metrics journal entryIds, (p.stop c).2.site =
      { p.site with
        gateway := {}
        registry := (((p.setReady false).releaseServer c).2.releaseRegistration c).2.site.registry
        journal, entryIds
        servers := ((p.setReady false).releaseServer c).2.site.servers
        network := ((p.setReady false).releaseServer c).2.site.network
        toBackend :=
          { (p.site.gateway.authority.map
              (p.site.toBackend.setReady gatewayHealth false).stopAuthority).getD
                (p.site.toBackend.setReady gatewayHealth false) with metrics } } := by
  obtain ⟨servers, network, hserver⟩ := (p.setReady false).releaseServer_site c
  obtain ⟨registry, journal, entryIds, hregistration⟩ :=
    ((p.setReady false).releaseServer c).2.releaseRegistration_site c
  have hauthority := (((p.setReady false).releaseServer c).2.releaseRegistration c).2
    |>.releaseAuthority_site
  obtain ⟨metrics, hsettle⟩ := (((p.setReady false).releaseServer c).2.releaseRegistration c).2
    |>.releaseAuthority.settle_site
  refine ⟨metrics, journal, entryIds, ?_⟩
  rw [stop_eq, hsettle, hauthority, hregistration, hserver]
  rfl

theorem gateway_stop (p : Progress) (c : Conditions) : (p.stop c).2.site.gateway = {} := by
  obtain ⟨_, _, _, hsite⟩ := p.stop_site c
  rw [hsite]

end Progress

/-! ### Whole starts -/

namespace Site

theorem start_of_ok {s : Site} {c : Conditions} {p : Progress} (hg : s.gateway = {})
    (h : Progress.tryStart ⟨s, []⟩ c = (.ok (), p)) : s.start c = ⟨.ok (), p.site, p.events⟩ := by
  have hstate : s.gateway.state.isStarted = false := by rw [hg]; rfl
  simp [start, Progress.start, Outcome.ofProgress, hstate, h]

/-- **A start that fails** is followed by a stop, and keeps its own error. -/
theorem start_of_error {s : Site} {c : Conditions} {p : Progress} {e : GatewayError}
    (hg : s.gateway = {}) (h : Progress.tryStart ⟨s, []⟩ c = (.error e, p)) :
    s.start c = ⟨.error e, (p.stop c).2.site, (p.stop c).2.events⟩ := by
  have hstate : s.gateway.state.isStarted = false := by rw [hg]; rfl
  simp [start, Progress.start, Outcome.ofProgress, hstate, h]

end Site

end ConferenceAuth
