/-
**What a failed start leaves behind.**

A start adds to what is there: one authority, one publication, one server.  When it fails, exactly
what it has added is released, so that afterwards all is as it was before, but for an authority that
does not run and has no sessions, and perhaps a server that never ran.

Main definitions:

* `Site.Grown` — what a start has added until it failed;
* `Site.Restored` — what is left of it once it has been released.

Main results:

* `Site.Grown.tryStart` — **until it fails, a start only adds**;
* `Site.Grown.stop` — **and a stop takes all of that back**;
* `Sound.registry_stop` — what a stop leaves of the registry.
-/
import ConferenceAuth.Proofs.Gateway.Stop

set_option autoImplicit false

namespace ConferenceAuth

/-! ### The last of a row -/

theorem modify_concat {α : Type} (l : List α) (a : α) (f : α → α) :
    (l ++ [a]).modify l.length f = l ++ [f a] := by
  induction l with
  | nil => rfl
  | cons x l ih => rw [List.cons_append, List.length_cons, List.modify_succ_cons, ih]; rfl

theorem set_concat {α : Type} (l : List α) (a b : α) : (l ++ [a]).set l.length b = l ++ [b] := by
  rw [List.set_append_right _ _ (Nat.le_refl _), Nat.sub_self]
  rfl

namespace Backend

variable {b : Backend} {as : List Authority} {a : Authority}

theorem authority?_concat (h : b.authorities = as ++ [a]) : b.authority? as.length = some a := by
  rw [authority?, h, List.getElem?_concat_length]

/-- A start of the last authority leaves all others alone. -/
theorem authorities_startAuthority_concat (h : b.authorities = as ++ [a]) (runtime : Bool) :
    ∃ a', (b.startAuthority as.length runtime).2.authorities = as ++ [a'] := by
  simp only [startAuthority, authority?_concat h, updateKeeper]
  rw [h, modify_concat]
  exact ⟨_, rfl⟩

/-- **So does its stop**, after which it does not run and has no sessions. -/
theorem authorities_stopAuthority_concat (h : b.authorities = as ++ [a]) :
    ∃ a', (b.stopAuthority as.length).authorities = as ++ [a'] ∧ a'.keeper.running = false ∧
      a'.keeper.sessions = .empty := by
  simp only [stopAuthority, authority?_concat h, updateKeeper]
  rw [h, modify_concat]
  exact ⟨_, rfl, rfl, rfl⟩

end Backend

/-! ### What a start adds -/

/-- **What a start has added to a site until it failed**: an authority that the gateway holds, its
publication unless that has been refused, and a server that does not run, if it has come that
far. -/
structure Site.Grown (s t : Site) : Prop where
  /-- One authority has been added, and it is held. -/
  authority : t.gateway.authority = some s.nextRef ∧ ∃ a, t.authorities = s.authorities ++ [a]
  /-- A publication has been added, and its entry is held. -/
  entry : (t.gateway.registration = none ∧ t.registry = s.registry) ∨
    ∃ service value, t.gateway.registration = some (s.nextEntry service) ∧
      t.registry = s.registry.publish (s.nextEntry service) value
  /-- A server has been added, and it is held. -/
  server : (t.gateway.server = none ∧ t.servers = s.servers) ∨
    (t.gateway.server = some s.nextServer ∧
      ∃ sv, t.servers = s.servers ++ [sv] ∧ sv.listeners = none ∧ sv.stopCalls = 0)
  /-- Nothing has been bound. -/
  network : t.network = s.network
  factory : t.factory = s.factory

namespace Site.Grown

variable {s : Site} {p : Progress}

theorem startAuthority (h : s.Grown p.site) (c : Conditions) :
    s.Grown (p.startAuthority c s.nextRef).2.site ∧
      (p.startAuthority c s.nextRef).2.site.gateway = p.site.gateway := by
  obtain ⟨hauthority, a, ha⟩ := h.authority
  obtain ⟨a', ha'⟩ := Backend.authorities_startAuthority_concat ha c.runtime
  rw [Progress.startAuthority_site]
  exact ⟨⟨⟨hauthority, a', ha'⟩, h.entry, h.server, h.network, h.factory⟩, rfl⟩

theorem serve (h : s.Grown p.site) (hnone : p.site.gateway.server = none) {c : Conditions}
    {policy : ServerPolicy} {kind : AuthorityKind} {e : GatewayError} {p' : Progress}
    (heq : p.serve c policy s.nextRef kind = (.error e, p')) : s.Grown p'.site := by
  have hservers : p.site.servers = s.servers := by
    rcases h.server with ⟨-, hservers⟩ | ⟨hsome, -⟩
    · exact hservers
    · rw [hnone] at hsome
      cases hsome
  have hnext : p.site.nextServer = s.nextServer := by
    rw [Site.nextServer, hservers]
    rfl
  unfold Progress.serve at heq
  dsimp only at heq
  split at heq
  · have hsite := p.openServer_site (HttpConfig.resolve c.config) s.nextRef kind
    generalize p.openServer (HttpConfig.resolve c.config) s.nextRef kind = q at heq hsite
    have hsv : q.site.server? p.site.nextServer =
        some (Server.facing (HttpConfig.resolve c.config) s.nextRef kind) := by
      rw [hsite]
      exact List.getElem?_concat_length
    rcases q.startServer_eq hsv c with ⟨e', hfail, -⟩ | ⟨sv', net, hok, -, -⟩
    -- a server that has been opened and has not started is what has been added
    · rw [hfail] at heq
      cases heq
      show s.Grown q.site
      rw [hsite]
      exact ⟨h.authority, h.entry, Or.inr ⟨by rw [hnext], Server.facing _ _ _, by rw [hservers],
        rfl, rfl⟩, h.network, h.factory⟩
    · rw [hok] at heq
      cases heq
  · cases heq

theorem finish (h : s.Grown p.site) (hnone : p.site.gateway.server = none) {c : Conditions}
    {policy : ServerPolicy} {kind : AuthorityKind} {e : GatewayError} {p' : Progress}
    (heq : p.finish c policy s.nextRef kind = (.error e, p')) : s.Grown p'.site := by
  obtain ⟨hgrown, hgateway⟩ := h.startAuthority c
  rcases p.finish_cases c policy s.nextRef kind with
    ⟨_, q, hq, hfinish⟩ | ⟨q, _, q', hq, hserve, hfinish⟩ | ⟨q, q', -, -, hfinish⟩
  all_goals
    rw [hfinish] at heq
    cases heq
  · rw [hq] at hgrown
    exact hgrown
  · rw [hq] at hgrown hgateway
    exact hgrown.serve (by rw [hgateway]; exact hnone) hserve

/-- **Until it fails, a start only adds.** -/
theorem tryStart {c : Conditions} {e : GatewayError} (hg : s.gateway = {})
    (heq : Progress.tryStart ⟨s, []⟩ c = (.error e, p)) : s.Grown p.site := by
  cases ha : Authority.create? (GatewayConfig.resolve c.config) with
  | none =>
      rw [Progress.tryStart_of_disabled ha] at heq
      cases heq
  | some a =>
      rw [Progress.tryStart_of_selected ha] at heq
      have hselected : s.Grown (((Progress.configured ⟨s, []⟩).select a).enter
          .authoritySelected).site := by
        refine ⟨⟨rfl, a, rfl⟩, Or.inl ⟨?_, rfl⟩, Or.inl ⟨?_, rfl⟩, rfl, rfl⟩
        · show s.gateway.registration = none
          rw [hg]
        · show s.gateway.server = none
          rw [hg]
      cases hc : c.publish with
      | some er =>
          rw [hc] at heq
          cases heq
          exact hselected
      | none =>
          rw [hc] at heq
          refine finish (p := Progress.published _ s.nextRef) ?_ ?_ heq
          · exact ⟨hselected.authority, Or.inr ⟨authorityService, _, rfl, rfl⟩, hselected.server,
              rfl, rfl⟩
          · show s.gateway.server = none
            rw [hg]

end Site.Grown

/-! ### What a stop takes back -/

/-- **What is left of a start that has failed**: an authority that does not run and has no sessions,
and perhaps a server that does not run. -/
structure Site.Restored (s t : Site) : Prop where
  gateway : t.gateway = {}
  ready : t.ready = false
  /-- The authority that was built does not run, and it has no sessions. -/
  authorities : ∃ a, t.authorities = s.authorities ++ [a] ∧ a.keeper.running = false ∧
    a.keeper.sessions = .empty
  /-- If a server was created, it does not run, and it has been stopped once. -/
  servers : t.servers = s.servers ∨
    ∃ sv, t.servers = s.servers ++ [sv] ∧ sv.running = false ∧ sv.stopCalls = 1
  /-- No address is taken that was free. -/
  network : t.network = s.network
  factory : t.factory = s.factory

/-- **A stop takes back what a start has added.** -/
theorem Site.Grown.stop {s : Site} {p : Progress} (h : s.Grown p.site) (c : Conditions) :
    s.Restored (p.stop c).2.site := by
  obtain ⟨metrics, journal, entryIds, hsite⟩ := p.stop_site c
  obtain ⟨hauthority, a, ha⟩ := h.authority
  have hstopped := Backend.authorities_stopAuthority_concat
    (b := p.site.toBackend.setReady gatewayHealth false) ha
  have hserver : ((p.setReady false).releaseServer c).2.site.network = s.network ∧
      (((p.setReady false).releaseServer c).2.site.servers = s.servers ∨
        ∃ sv, ((p.setReady false).releaseServer c).2.site.servers = s.servers ++ [sv] ∧
          sv.running = false ∧ sv.stopCalls = 1) := by
    rcases h.server with ⟨hnone, hservers⟩ | ⟨hsome, sv, hservers, hidle, hcalls⟩
    · rw [Progress.releaseServer_of_none (p := p.setReady false) hnone]
      exact ⟨h.network, Or.inl hservers⟩
    · have hsv : (p.setReady false).site.server? s.nextServer = some sv := by
        show p.site.servers[s.servers.length]? = some sv
        rw [hservers, List.getElem?_concat_length]
      rw [Progress.releaseServer_eq (p := p.setReady false) hsome hsv, Server.stop_idle hidle]
      refine ⟨h.network, Or.inr ⟨{ sv with stopCalls := sv.stopCalls + 1 }, ?_, ?_, ?_⟩⟩
      · show p.site.servers.set s.servers.length _ = _
        rw [hservers, set_concat]
      · show sv.listeners.isSome = false
        rw [hidle]
        rfl
      · rw [hcalls]
  rw [hsite, hauthority]
  refine ⟨rfl, ?_, hstopped, hserver.2, hserver.1, h.factory⟩
  show (((p.site.toBackend.setReady gatewayHealth false).stopAuthority s.nextRef).health
    gatewayHealth).ready = false
  rw [Backend.health_stopAuthority, Backend.health_setReady_self, Health.ready_withReady]

/-! ### The registry -/

/-- A new publication that is erased again leaves no trace. -/
theorem Registry.erase_publish {α : Type} {r : Registry α} {entry : RegistryEntry} (value : α)
    (h : ∀ p ∈ r.published.toList, p.entry.id ≠ entry.id) :
    (⟨(r.publish entry value).published.erase entry.id⟩ : Registry α) = r := by
  have hpublished : (r.publish entry value).published.erase entry.id = r.published := by
    refine Table.ext ?_
    rw [Table.toList_erase, Registry.publish, Table.toList_insert_of_fresh h, List.filter_append,
      List.filter_eq_self.2 fun p hp => bne_iff_ne.2 (h p hp)]
    simp
  rw [hpublished]

/-- A withdrawal that loses no entry takes out the held one, and no other. -/
theorem Sound.registry_releaseRegistration {s₀ : Site} {es : List Event} {p : Progress}
    {x : Resources} (h : Sound s₀ es p x) (hg : Holds p.site.gateway x) (c : Conditions)
    (hlost : lostBy (p.releaseRegistration c).2.events = []) :
    (p.releaseRegistration c).2.site.registry =
      match p.site.gateway.registration with
      | none => p.site.registry
      | some e => ⟨p.site.registry.published.erase e.id⟩ := by
  cases hx : x.entry with
  | none =>
      have hnone : p.site.gateway.registration = none := by rw [hg.entry, hx]; rfl
      rw [Progress.releaseRegistration_of_none hnone, hnone]
  | some er =>
      obtain ⟨e, r⟩ := er
      have hsome : p.site.gateway.registration = some e := by rw [hg.entry, hx]; rfl
      have hreg : Registered (es ++ p.events) p.site.entryIds p.site.registry (some (e, r)) :=
        hx ▸ h.accounts.entries
      rw [hsome]
      -- a withdrawal that fails is noted, and then an entry has been lost
      cases hc : c.withdraw with
      | works =>
          rw [Progress.releaseRegistration_of_ok hsome (Progress.withdrawUnder_works hc hreg.holds)]
          rfl
      | refused er =>
          rw [Progress.releaseRegistration_of_error hsome
            (Progress.withdrawUnder_refused hc _ e)] at hlost
          simp [lostBy, Event.lost?] at hlost
      | misses =>
          rw [Progress.releaseRegistration_of_error hsome
            (Progress.withdrawUnder_misses hc hreg.holds hreg.find?_current)] at hlost
          simp [lostBy, Event.lost?] at hlost

/-- **What a stop leaves of the registry**, when it loses no entry: the held one is gone, and all
others are there. -/
theorem Sound.registry_stop {s₀ : Site} {es : List Event} {p : Progress} {x : Resources}
    (h : Sound s₀ es p x) (hg : Holds p.site.gateway x) (c : Conditions)
    (hlost : lostBy (p.stop c).2.events = []) :
    (p.stop c).2.site.registry =
      match p.site.gateway.registration with
      | none => p.site.registry
      | some e => ⟨p.site.registry.published.erase e.id⟩ := by
  obtain ⟨hserver, hgserver⟩ := h.setReady_false.releaseServer (x := { x with ready := false })
    ⟨hg.authority, hg.entry, hg.server⟩ rfl c
  have hevents : lostBy (((p.setReady false).releaseServer c).2.releaseRegistration c).2.events =
      [] := by
    rw [← Progress.lostBy_releaseAuthority, ← Progress.events_settle]
    exact hlost
  have hregistry := hserver.registry_releaseRegistration hgserver c hevents
  obtain ⟨_, _, hsite⟩ := (p.setReady false).releaseServer_site c
  obtain ⟨_, _, _, hstop⟩ := p.stop_site c
  rw [hstop]
  refine hregistry.trans ?_
  rw [hsite]
  rfl

/-- **A start that fails leaves the site as it was**, and, if no withdrawal has failed, the registry
as well. -/
theorem AccountedFor.restored_start {s₀ s : Site} {es : List Event} (h : AccountedFor s₀ es s {})
    (hg : s.gateway = {}) {c : Conditions} {e : GatewayError}
    (herror : (s.start c).result = .error e) :
    s.Restored (s.start c).site ∧
      (lostBy (s.start c).events = [] → (s.start c).site.registry = s.registry) := by
  rcases Sound.tryStart h hg c with ⟨p, x, heq, -, -⟩ | ⟨er, p, x, heq, hsound, hheld⟩
  · rw [Site.start_of_ok hg heq] at herror
    cases herror
  · rw [Site.start_of_error hg heq]
    have hgrown : s.Grown p.site := .tryStart hg heq
    refine ⟨hgrown.stop c, fun hlost => ?_⟩
    have hregistry := hsound.registry_stop hheld c hlost
    rcases hgrown.entry with ⟨hnone, hsame⟩ | ⟨service, value, hsome, hpublished⟩
    · rw [hnone] at hregistry
      exact hregistry.trans hsame
    · rw [hsome, hpublished] at hregistry
      -- nothing was published under the new identifier before
      refine hregistry.trans (Registry.erase_publish value fun p hp => ?_)
      exact h.entries.distinct.ne_current (h.entries.issued p hp)

end ConferenceAuth
