/-
**A stop of any gateway.**

A start that breaks off may leave a gateway in any state, with some of a server, an entry and an
authority held and the others not.  Nothing of this is assumed to fit together here: a stop is
followed from every gateway whatsoever, only that what it holds exists.  Every step is taken, also
after one that has failed; what is not held is skipped; and of the failures the first is reported.

Main definitions:

* `Site.Linked` — what the gateway holds exists;
* `Site.stopFailure?`, `Site.withdrawFailure?`, `Site.withdrawn` — what a stop will meet.

Main results:

* `Progress.releaseServer_stops`, `Progress.releaseRegistration_withdraws`,
  `Progress.asked_releaseAuthority` — what each step calls and what it comes to;
* `Progress.asked_stop`, `Progress.result_stop` — the calls and the result of a stop;
* `Site.stop_of_empty` — a gateway that holds nothing and is not ready has nothing to stop;
* `Site.stop_releases_everything` — **a stop releases whatever is held**, and a second one finds
  nothing to do.
-/
import ConferenceAuth.Proofs.Gateway.Periods

set_option autoImplicit false

namespace ConferenceAuth

/-! ### What can fail -/

namespace Site

/-- **What the gateway holds exists**: its server is among the servers, and its authority among the
authorities. -/
structure Linked (s : Site) : Prop where
  server : ∀ v, s.gateway.server = some v → (s.server? v).isSome = true
  authority : ∀ r, s.gateway.authority = some r → (s.authority? r).isSome = true

/-- The error of the held server's stop. -/
def stopFailure? (s : Site) (c : Conditions) : Option GatewayError :=
  s.gateway.server.bind fun _ => c.serverStop

/-- The error of the held entry's withdrawal. -/
def withdrawFailure? (s : Site) (c : Conditions) : Option HostError :=
  s.gateway.registration.bind fun e => failureOf (Progress.withdrawUnder c s e).1

/-- The registry after the withdrawal of the held entry. -/
def withdrawn (s : Site) (c : Conditions) : Registry Capability :=
  (s.gateway.registration.map fun e => (Progress.withdrawUnder c s e).2.registry).getD s.registry

end Site

namespace Progress

/-- The calls that have been made so far. -/
def asked (p : Progress) : List Call := p.events.map (·.call)

@[simp] theorem asked_note (p : Progress) (call : Call) (after : Site) :
    (p.note call after).asked = p.asked ++ [call] := by
  simp [asked]

@[simp] theorem asked_hold (p : Progress) (f : Gateway → Gateway) : (p.hold f).asked = p.asked :=
  rfl

/-! ### The steps of a stop -/

/-- **The server's step**: the held server is stopped in one call, and no other. -/
theorem releaseServer_stops {p : Progress} (h : p.site.Linked) (c : Conditions) :
    failureOf (p.releaseServer c).1 = p.site.stopFailure? c ∧
    (p.releaseServer c).2.asked = p.asked ++
      (p.site.gateway.server.map fun v => .stopServer v (p.site.stopFailure? c).isNone).toList ∧
    ∀ v, (p.releaseServer c).2.site.server? v = (p.site.server? v).map fun sv =>
      if p.site.gateway.server = some v then (sv.stop p.site.network).1 else sv := by
  unfold Site.stopFailure?
  cases hv : p.site.gateway.server with
  | none =>
      rw [releaseServer_of_none hv]
      exact ⟨rfl, by simp, fun v => by simp⟩
  | some v =>
      obtain ⟨sv, hsv⟩ := Option.isSome_iff_exists.1 (h.server v hv)
      rw [releaseServer_eq hv hsv]
      refine ⟨?_, by rw [asked_note, asked_hold]; rfl, fun w => ?_⟩
      · cases c.serverStop <;> rfl
      · show (p.site.servers.set v (sv.stop p.site.network).1)[w]? = (p.site.servers[w]?).map _
        rw [List.getElem?_set]
        by_cases hvw : v = w
        · subst hvw
          have hlt : v < p.site.servers.length := (List.getElem?_eq_some_iff.1 hsv).1
          rw [if_pos rfl, if_pos hlt, show p.site.servers[v]? = some sv from hsv]
          simp
        · simp [hvw]

/-- What becomes of a registry depends on nothing else of the site. -/
theorem withdrawUnder_congr {s t : Site} (hregistry : t.registry = s.registry)
    (hids : t.entryIds = s.entryIds) (c : Conditions) (e : RegistryEntry) :
    (withdrawUnder c t e).1 = (withdrawUnder c s e).1 ∧
      (withdrawUnder c t e).2.registry = (withdrawUnder c s e).2.registry := by
  cases hc : c.withdraw with
  | refused cause =>
    rw [withdrawUnder_refused hc, withdrawUnder_refused hc]
    exact ⟨rfl, hregistry⟩
  | works =>
    simp only [withdrawUnder, hc, Site.withdrawEntry, hregistry]
    cases s.registry.withdraw e with
    | error => exact ⟨rfl, hregistry⟩
    | ok => exact ⟨rfl, rfl⟩
  | misses =>
    simp only [withdrawUnder, hc, Site.withdrawEntry, hregistry, Site.drawEntry, Site.nextEntry,
      hids]
    cases s.registry.withdraw e with
    | error => exact ⟨rfl, hregistry⟩
    | ok r =>
      dsimp only
      cases r.withdraw ⟨s.entryIds.current, e.service⟩ <;> exact ⟨rfl, rfl⟩

/-- So the withdrawal goes the same way at sites that agree on the held entry and on the
registry. -/
theorem withdrawal_congr {s t : Site}
    (hentry : t.gateway.registration = s.gateway.registration)
    (hregistry : t.registry = s.registry) (hids : t.entryIds = s.entryIds) (c : Conditions) :
    t.withdrawFailure? c = s.withdrawFailure? c ∧ t.withdrawn c = s.withdrawn c := by
  have hcongr := withdrawUnder_congr hregistry hids c
  unfold Site.withdrawFailure? Site.withdrawn
  simp only [hentry, hregistry, hcongr, and_self]

/-- **The registry's step**: the held entry is withdrawn in one call, and no other. -/
theorem releaseRegistration_withdraws (p : Progress) (c : Conditions) :
    failureOf (p.releaseRegistration c).1 = p.site.withdrawFailure? c ∧
    (p.releaseRegistration c).2.asked = p.asked ++ (p.site.gateway.registration.map fun e =>
      .withdraw e (p.site.withdrawFailure? c).isNone).toList ∧
    (p.releaseRegistration c).2.site.registry = p.site.withdrawn c := by
  unfold Site.withdrawFailure? Site.withdrawn
  cases he : p.site.gateway.registration with
  | none =>
      rw [releaseRegistration_of_none he]
      exact ⟨rfl, by simp, rfl⟩
  | some e =>
      obtain ⟨hresult, hregistry⟩ := withdrawUnder_congr (s := p.site)
        (t := (p.hold fun g => { g with registration := none }).site) rfl rfl c e
      rw [Option.bind_some, Option.map_some, Option.map_some, Option.getD_some, ← hresult,
        ← hregistry]
      rcases hafter : withdrawUnder c (p.hold fun g => { g with registration := none }).site e
        with ⟨h | _, after⟩
      · rw [releaseRegistration_of_error he hafter]
        exact ⟨rfl, by simp [failureOf], rfl⟩
      · rw [releaseRegistration_of_ok he hafter]
        exact ⟨rfl, by simp [failureOf], rfl⟩

/-- **The authority's step**: the held authority is stopped in one call, and no other. -/
theorem asked_releaseAuthority (p : Progress) :
    p.releaseAuthority.asked =
      p.asked ++ (p.site.gateway.authority.map Call.stopAuthority).toList := by
  cases hr : p.site.gateway.authority with
  | none =>
      rw [releaseAuthority_of_none hr]
      simp
  | some r =>
      rw [releaseAuthority_eq hr, asked_note, asked_hold]
      rfl

/-! ### A stop as a whole -/

/-- A stop reports the failure of the server, or else that of the registry. -/
theorem stopResult_eq (server : Except GatewayError Unit) (registry : Except HostError Unit) :
    stopResult server registry = match failureOf server, failureOf registry with
      | some e, _ => .error e
      | none, some e => .error (.registry e)
      | none, none => .ok () := by
  cases server <;> cases registry <;> rfl

/-- By the time of the withdrawal nothing has changed that it, or the step after it, looks at. -/
theorem beforeWithdrawal (p : Progress) (c : Conditions) :
    ((p.setReady false).releaseServer c).2.site.withdrawFailure? c = p.site.withdrawFailure? c ∧
    ((p.setReady false).releaseServer c).2.site.withdrawn c = p.site.withdrawn c ∧
    ((p.setReady false).releaseServer c).2.site.gateway.registration =
      p.site.gateway.registration ∧
    ((p.setReady false).releaseServer c).2.site.gateway.authority = p.site.gateway.authority := by
  obtain ⟨_, _, hsite⟩ := (p.setReady false).releaseServer_site c
  generalize ((p.setReady false).releaseServer c).2.site = t at hsite ⊢
  obtain ⟨hfailure, hwithdrawn⟩ := withdrawal_congr (s := p.site) (t := t) (by rw [hsite]; rfl)
    (by rw [hsite]; rfl) (by rw [hsite]; rfl) c
  exact ⟨hfailure, hwithdrawn, by rw [hsite]; rfl, by rw [hsite]; rfl⟩

/-- **What a stop calls**: after the health state the three services that are held, in the order
against that of a start, whichever of them has failed. -/
theorem asked_stop {p : Progress} (h : p.site.Linked) (c : Conditions) :
    (p.stop c).2.asked = p.asked ++ ([.setReady false] ++
      (p.site.gateway.server.map fun v => .stopServer v (p.site.stopFailure? c).isNone).toList ++
      (p.site.gateway.registration.map fun e =>
        .withdraw e (p.site.withdrawFailure? c).isNone).toList ++
      (p.site.gateway.authority.map .stopAuthority).toList) := by
  have hsettle : ∀ q : Progress, q.settle.asked = q.asked := fun q => by
    rw [asked, events_settle, asked]
  have hlinked : (p.setReady false).site.Linked := ⟨h.server, h.authority⟩
  obtain ⟨-, hserver, -⟩ := releaseServer_stops hlinked c
  obtain ⟨hfailure, -, hentry, hauthority⟩ := p.beforeWithdrawal c
  rw [stop_eq, hsettle]
  generalize ((p.setReady false).releaseServer c).2 = q at hserver hfailure hentry hauthority
  obtain ⟨-, hregistration, -⟩ := q.releaseRegistration_withdraws c
  obtain ⟨_, _, _, hsite⟩ := q.releaseRegistration_site c
  rw [asked_releaseAuthority, hregistration, hserver, hsite, hfailure, hentry, hauthority,
    setReady, asked_note]
  simp only [List.append_assoc]
  rfl

/-- **What a stop reports**: the first of its failures. -/
theorem result_stop {p : Progress} (h : p.site.Linked) (c : Conditions) :
    (p.stop c).1 = match p.site.stopFailure? c, p.site.withdrawFailure? c with
      | some e, _ => .error e
      | none, some e => .error (.registry e)
      | none, none => .ok () := by
  have hlinked : (p.setReady false).site.Linked := ⟨h.server, h.authority⟩
  obtain ⟨hserver, -, -⟩ := releaseServer_stops hlinked c
  obtain ⟨hregistration, -, -⟩ := ((p.setReady false).releaseServer c).2
    |>.releaseRegistration_withdraws c
  rw [stop_eq, stopResult_eq, hserver, hregistration, (p.beforeWithdrawal c).1]
  rfl

/-- A gateway that holds nothing is in its last state already. -/
theorem settle_of_empty {p : Progress} (hg : p.site.gateway = {}) : p.settle = p := by
  have hheld : (p.hold fun g => { g with variant := none }) = p := by
    have hgateway : { p.site.gateway with variant := none } = p.site.gateway := by rw [hg]
    unfold hold
    dsimp only
    rw [hgateway]
  unfold settle
  rw [hheld, if_pos (by rw [hg])]

end Progress

namespace Site

variable {s : Site}

/-- A readiness that is there already can be declared again. -/
theorem setReady_self {ready : Bool} (h : s.ready = ready) :
    s.withBackend (s.toBackend.setReady gatewayHealth ready) = s := by
  have hhealth : (s.toBackend.setReady gatewayHealth ready).health = s.health := by
    funext x
    show (if x = gatewayHealth then (s.health x).withReady ready else s.health x) = s.health x
    split
    · next hx =>
      subst hx
      subst h
      rfl
    · rfl
  have hbackend : s.toBackend.setReady gatewayHealth ready = s.toBackend := by
    unfold Backend.setReady at hhealth ⊢
    dsimp only at hhealth
    rw [hhealth]
  rw [hbackend]
  rfl

/-- **A gateway that holds nothing and is not ready has nothing to stop.** -/
theorem stop_of_empty (hg : s.gateway = {}) (hready : s.ready = false) (c : Conditions) :
    s.stop c = ⟨.ok (), s, [⟨.setReady false, s, s⟩]⟩ := by
  have hsite : (Progress.setReady ⟨s, []⟩ false) = ⟨s, [⟨.setReady false, s, s⟩]⟩ := by
    unfold Progress.setReady Progress.note
    rw [setReady_self hready]
    rfl
  unfold stop
  rw [Progress.stop_eq, hsite, Progress.releaseServer_of_none (by rw [hg]),
    Progress.releaseRegistration_of_none (by rw [hg]),
    Progress.releaseAuthority_of_none (by rw [hg]), Progress.settle_of_empty hg]
  rfl

/-- **What a stop leaves of the registry and of the servers.** -/
theorem services_stop (h : s.Linked) (c : Conditions) :
    (s.stop c).site.registry = s.withdrawn c ∧
    ∀ v, (s.stop c).site.server? v = (s.server? v).map fun sv =>
      if s.gateway.server = some v then (sv.stop s.network).1 else sv := by
  obtain ⟨_, _, _, hsite⟩ := Progress.stop_site ⟨s, []⟩ c
  have hlinked : (Progress.setReady ⟨s, []⟩ false).site.Linked := ⟨h.server, h.authority⟩
  obtain ⟨-, -, hservers⟩ := Progress.releaseServer_stops hlinked c
  obtain ⟨-, hwithdrawn, -⟩ := Progress.beforeWithdrawal ⟨s, []⟩ c
  obtain ⟨-, -, hregistry⟩ := Progress.releaseRegistration_withdraws
    (Progress.releaseServer (Progress.setReady ⟨s, []⟩ false) c).2 c
  have hstop : (s.stop c).site = _ := hsite
  rw [hstop]
  exact ⟨hregistry.trans hwithdrawn, hservers⟩

/-- A stop ends not ready. -/
theorem ready_stop (s : Site) (c : Conditions) : (s.stop c).site.ready = false := by
  obtain ⟨_, _, _, hsite⟩ := Progress.stop_site ⟨s, []⟩ c
  have hstop : (s.stop c).site = _ := hsite
  rw [hstop]
  have hready := s.ready_setReady false
  cases s.gateway.authority with
  | none => exact hready
  | some r =>
      rw [← ready_stopAuthority _ r] at hready
      exact hready

/-- **A stop releases whatever is held.**  Take any gateway whatsoever, in any state and with any of
a server, an entry and an authority held, and any conditions.

* The stop declares that the gateway is not ready, stops the held server, withdraws the held entry
  and stops the held authority, each in one call and in this order; it skips what is not held, and
  goes on after a failure.
* It succeeds exactly if neither the server nor the registry has failed, and otherwise reports the
  failure of the server, or if there is none, that of the registry.
* Then the gateway is in the stopped state and holds nothing, and it is not ready.
* The server that was held does not listen any more, and has been stopped once more often; no other
  has changed.  The registry is what the withdrawal has left of it.
* The authority that was held does not run and has no sessions; no other has changed.
* The stopped state has been entered once, unless the gateway was in it already, and no other state.
* A second stop succeeds and leaves everything as it is; it asks nothing of the server, the registry
  or the authority, and only says once more that the gateway is not ready. -/
theorem stop_releases_everything (h : s.Linked) (c : Conditions) :
    ((s.stop c).events.map (·.call) = [.setReady false] ++
      (s.gateway.server.map fun v => .stopServer v (s.stopFailure? c).isNone).toList ++
      (s.gateway.registration.map fun e => .withdraw e (s.withdrawFailure? c).isNone).toList ++
      (s.gateway.authority.map .stopAuthority).toList) ∧
    ((s.stop c).result = match s.stopFailure? c, s.withdrawFailure? c with
      | some e, _ => .error e
      | none, some e => .error (.registry e)
      | none, none => .ok ()) ∧
    (s.stop c).site.gateway = {} ∧
    (s.stop c).site.ready = false ∧
    (∀ v, (s.stop c).site.server? v = (s.server? v).map fun sv =>
      if s.gateway.server = some v then
        { sv with listeners := none, stopCalls := sv.stopCalls + 1 } else sv) ∧
    (s.stop c).site.registry = s.withdrawn c ∧
    (∀ r, (s.stop c).site.authority? r = (s.authority? r).map fun a =>
      if s.gateway.authority = some r then
        { a with keeper := { a.keeper with sessions := .empty, sweeper := none } } else a) ∧
    (∀ x, (s.stop c).site.metrics.transitions x = s.metrics.transitions x +
      if x = .stopped ∧ s.gateway.state ≠ .stopped then 1 else 0) ∧
    (∀ c', (s.stop c).site.stop c' = ⟨.ok (), (s.stop c).site,
      [⟨.setReady false, (s.stop c).site, (s.stop c).site⟩]⟩) := by
  have hlinked : (⟨s, []⟩ : Progress).site.Linked := h
  have hgateway := Progress.gateway_stop ⟨s, []⟩ c
  obtain ⟨hregistry, hservers⟩ := s.services_stop h c
  refine ⟨Progress.asked_stop hlinked c, Progress.result_stop hlinked c, hgateway, s.ready_stop c,
    hservers, hregistry, s.authority?_stop c, fun x => ?_,
    stop_of_empty hgateway (s.ready_stop c)⟩
  have hentered := Progress.entered_stop ⟨s, []⟩ c x
  refine hentered.trans (congrArg _ ?_)
  by_cases hstate : s.gateway.state = .stopped
  · simp [hstate]
  · by_cases hx : x = .stopped
    · simp [hstate, hx]
    · simp [hstate, hx, Ne.symm hx]

/-- A gateway has come as far as the published state, with a server that reports a failure when it
is stopped, and with an entry that is not in the registry any more.  Both failures are met, that of
the server is reported, and yet everything is released. -/
theorem stop_releases_after_two_failures :
    let a := Authority.ofVariant (.xmppDomain "example.org") {}
    let s : Site := {
      sessionIds := .numbered "session-"
      entryIds := .numbered "entry-"
      authorities := [{ a with keeper := { a.keeper with sweeper := some ⟨10000⟩ } }]
      health := fun _ => { ready := true }
      servers := [.create {}]
      gateway := {
        state := .published, variant := some a.variant, authority := some 0
        registration := some ⟨"entry-0", authorityService⟩, server := some 0 } }
    let c : Conditions := { config := .ofProperties [], serverStop := some (.server "still busy") }
    s.Linked ∧
    (s.stop c).events.map (·.call) = [.setReady false, .stopServer 0 false,
      .withdraw ⟨"entry-0", authorityService⟩ false, .stopAuthority 0] ∧
    (s.stop c).result = .error (.server "still busy") ∧
    (s.stop c).site.gateway = {} ∧
    (s.stop c).site.running 0 = false ∧
    ((s.stop c).site.stop c).result = .ok () := by
  intro a s c
  have hlinked : s.Linked := by
    refine ⟨fun v hv => ?_, fun r hr => ?_⟩
    · cases hv
      rfl
    · cases hr
      rfl
  obtain ⟨hcalls, hresult, hgateway, -, -, -, hauthorities, -, hagain⟩ :=
    stop_releases_everything hlinked c
  refine ⟨hlinked, hcalls, hresult, hgateway, ?_, by rw [hagain c]⟩
  rw [Backend.running, hauthorities]
  rfl

end Site

end ConferenceAuth
