/-
**What there is of a gateway's making.**

In the course of a run a gateway builds authorities, publishes them and has servers created.  At any
point at most one of each is of any account: one authority that is held and may run, one entry that
is live in the registry, one server that is held and may run.  Together with the readiness they are
the resources of the gateway, and a site is accounted for by given resources when nothing else of
the gateway's making runs or is published there.

The numbers of authorities and servers tell the gateway's own from those that were there before it:
nobody else builds any.

Main definitions:

* `Resources`;
* `Staffed`, `Serving` — the authorities and the servers of a site against the held ones;
* `AccountedFor` — a site against the resources;
* `Site.Backed` — the authority that the gateway holds runs and is published.

Main results:

* `AccountedFor.visit` — what others do does not touch the resources;
* `Staffed.enroll`, `Staffed.set`, `Staffed.stop`, `Serving.add`, `Serving.set`, `Serving.stop` —
  what the gateway does.
-/
import ConferenceAuth.Proofs.Gateway.Steps

set_option autoImplicit false

namespace ConferenceAuth

/-- What of a gateway's making is of any account. -/
structure Resources where
  /-- The authority, and whether it runs. -/
  authority : Option (AuthorityRef × Bool) := none
  /-- The live entry, and the authority that is published under it. -/
  entry : Option (RegistryEntry × AuthorityRef) := none
  /-- The server, and whether it runs. -/
  server : Option (ServerRef × Bool) := none
  ready : Bool := false

/-! ### Authorities -/

/-- **Of the authorities from a number on, only the given one may run.** -/
structure Staffed (first : AuthorityRef) (roster : List (AuthorityVariant × Bool))
    (x : Option (AuthorityRef × Bool)) : Prop where
  /-- The given one is there, and runs or not as given. -/
  held : ∀ r b, x = some (r, b) → first ≤ r ∧ ∃ v, roster[r]? = some (v, b)
  /-- What runs is the given one. -/
  runs : ∀ r, first ≤ r → (roster[r]?).any (·.2) = true → x = some (r, true)
  /-- The next one is among them. -/
  le_next : first ≤ roster.length

namespace Staffed

variable {first : AuthorityRef} {roster : List (AuthorityVariant × Bool)}

theorem nil (roster : List (AuthorityVariant × Bool)) : Staffed roster.length roster none where
  held := by intro r b h; cases h
  runs := by
    intro r hr hrunning
    rw [List.getElem?_eq_none hr] at hrunning
    cases hrunning
  le_next := Nat.le_refl _

theorem enroll (h : Staffed first roster none) (v : AuthorityVariant) :
    Staffed first (roster ++ [(v, false)]) (some (roster.length, false)) where
  held := by
    intro r b hr
    cases hr
    exact ⟨h.le_next, v, by simp⟩
  runs := by
    intro r hr hrunning
    -- none of those before it runs, and it does not run itself
    rcases Nat.lt_trichotomy r roster.length with hlt | rfl | hgt
    · rw [List.getElem?_append_left hlt] at hrunning
      cases h.runs r hr hrunning
    · simp at hrunning
    · rw [List.getElem?_eq_none (by simp; omega)] at hrunning
      cases hrunning
  le_next := by
    rw [List.length_append]
    exact Nat.le_trans h.le_next (Nat.le_add_right ..)

theorem set {r : AuthorityRef} {b : Bool} (h : Staffed first roster (some (r, b)))
    (v : AuthorityVariant) (b' : Bool) : Staffed first (roster.set r (v, b')) (some (r, b')) where
  held := by
    intro r' b'' hr
    cases hr
    obtain ⟨hle, w, hw⟩ := h.held r b rfl
    have hlt : r < roster.length := (List.getElem?_eq_some_iff.1 hw).1
    exact ⟨hle, v, by rw [List.getElem?_set_self hlt]⟩
  runs := by
    intro r' hr' hrunning
    rw [List.getElem?_set] at hrunning
    split at hrunning
    · next heq =>
      subst heq
      split at hrunning
      · simp only [Option.any_some] at hrunning
        rw [hrunning]
      · cases hrunning
    · next hne =>
      cases h.runs r' hr' hrunning
      exact absurd rfl hne
  le_next := by
    rw [List.length_set]
    exact h.le_next

theorem stop {r : AuthorityRef} {b : Bool} (h : Staffed first roster (some (r, b))) :
    Staffed first (roster.modify r fun x => (x.1, false)) none where
  held := by intro r b h; cases h
  runs := by
    intro r' hr' hrunning
    rw [List.getElem?_modify] at hrunning
    by_cases heq : r = r'
    · subst heq
      simp only [if_true] at hrunning
      cases hget : roster[r]? <;> simp [hget] at hrunning
    · simp only [if_neg heq, id_map'] at hrunning
      cases h.runs r' hr' hrunning
      exact absurd rfl heq
  le_next := by
    rw [List.length_modify]
    exact h.le_next

end Staffed

/-! ### Servers -/

/-- **Of the servers from a number on, only the given one may run**; it is the last of them, it has
not been stopped, and all others have been stopped exactly once. -/
structure Serving (first : ServerRef) (servers : List Server) (x : Option (ServerRef × Bool)) :
    Prop where
  /-- The given one is the last, and runs or not as given. -/
  held : ∀ v b, x = some (v, b) → first ≤ v ∧ v + 1 = servers.length ∧
    ∃ sv, servers[v]? = some sv ∧ sv.running = b ∧ sv.stopCalls = 0
  /-- All others have been stopped once. -/
  stopped : ∀ v sv, first ≤ v → servers[v]? = some sv → x.map (·.1) ≠ some v →
    sv.running = false ∧ sv.stopCalls = 1
  /-- The next one is among them. -/
  le_next : first ≤ servers.length

namespace Serving

variable {first : ServerRef} {servers : List Server}

theorem nil (servers : List Server) : Serving servers.length servers none where
  held := by intro v b h; cases h
  stopped := by
    intro v sv hv hget
    rw [List.getElem?_eq_none hv] at hget
    cases hget
  le_next := Nat.le_refl _

theorem eq_of_running {x : Option (ServerRef × Bool)} (h : Serving first servers x) {v : ServerRef}
    (hv : first ≤ v) (hrunning : (servers[v]?).any (·.running) = true) : x = some (v, true) := by
  obtain ⟨sv, hget, hsv⟩ := (Option.any_eq_true ..).1 hrunning
  by_cases hx : x.map (·.1) = some v
  · obtain ⟨⟨v', b⟩, rfl, rfl⟩ := Option.map_eq_some_iff.1 hx
    obtain ⟨-, -, sv', hget', hb, -⟩ := h.held v' b rfl
    rw [hget] at hget'
    cases hget'
    rw [← hb, hsv]
  -- every other has been stopped
  · have hstopped := (h.stopped v sv hv hget hx).1
    rw [hsv] at hstopped
    cases hstopped

theorem add (h : Serving first servers none) {sv : Server} (hrunning : sv.running = false)
    (hstop : sv.stopCalls = 0) :
    Serving first (servers ++ [sv]) (some (servers.length, false)) where
  held := by
    intro v b hv
    cases hv
    exact ⟨h.le_next, by simp, sv, by simp, hrunning, hstop⟩
  stopped := by
    intro v sv' hv hget hne
    rcases Nat.lt_or_ge v servers.length with hlt | hge
    · rw [List.getElem?_append_left hlt] at hget
      exact h.stopped v sv' hv hget (by simp)
    · have hlen : v < (servers ++ [sv]).length := (List.getElem?_eq_some_iff.1 hget).1
      simp only [List.length_append, List.length_cons, List.length_nil] at hlen
      have hlast : servers.length = v := Nat.le_antisymm hge (Nat.lt_succ_iff.1 hlen)
      simp [hlast] at hne
  le_next := by
    rw [List.length_append]
    exact Nat.le_trans h.le_next (Nat.le_add_right ..)

theorem set {v : ServerRef} {b b' : Bool} (h : Serving first servers (some (v, b))) {sv : Server}
    (hrunning : sv.running = b') (hstop : sv.stopCalls = 0) :
    Serving first (servers.set v sv) (some (v, b')) where
  held := by
    intro v' b'' hv
    cases hv
    obtain ⟨hle, hlast, -⟩ := h.held v b rfl
    refine ⟨hle, by rw [List.length_set, hlast], sv, ?_, hrunning, hstop⟩
    rw [List.getElem?_set_self (hlast ▸ Nat.lt_succ_self v)]
  stopped := by
    intro v' sv' hv' hget hne
    have hvv : v ≠ v' := fun heq => hne (by rw [heq]; rfl)
    rw [List.getElem?_set_ne hvv] at hget
    exact h.stopped v' sv' hv' hget hne
  le_next := by
    rw [List.length_set]
    exact h.le_next

theorem stop {v : ServerRef} {b : Bool} (h : Serving first servers (some (v, b))) {sv : Server}
    (hrunning : sv.running = false) (hstop : sv.stopCalls = 1) :
    Serving first (servers.set v sv) none where
  held := by intro v b h; cases h
  stopped := by
    intro v' sv' hv' hget hne
    rw [List.getElem?_set] at hget
    split at hget
    · split at hget
      · cases hget
        exact ⟨hrunning, hstop⟩
      · cases hget
    · next hvv =>
      refine h.stopped v' sv' hv' hget ?_
      intro heq
      cases heq
      exact hvv rfl
  le_next := by
    rw [List.length_set]
    exact h.le_next

end Serving

/-! ### Sites -/

def Site.runsServer (s : Site) (v : ServerRef) : Bool := (s.server? v).any (·.running)

/-- **The authority that the gateway holds runs, and is published** under the entry that it
holds. -/
def Site.Backed (s : Site) : Prop :=
  ∃ r e, s.gateway.authority = some r ∧ s.running r = true ∧ s.gateway.registration = some e ∧
    e.service = authorityService ∧ s.registry.published.find? e.id = some ⟨e, .authority r⟩

/-- **A site against the resources of its gateway**: after the given history of a run from `s₀`,
nothing else of the gateway's making runs or is published. -/
structure AccountedFor (s₀ : Site) (es : List Event) (s : Site) (x : Resources) : Prop where
  entries : Registered es s.entryIds s.registry x.entry
  authorities : Staffed s₀.nextRef s.roster x.authority
  servers : Serving s₀.nextServer s.servers x.server
  ready : s.ready = x.ready

namespace AccountedFor

variable {s₀ s : Site} {es : List Event} {x : Resources}

theorem new (h : s₀.IsNew) : AccountedFor s₀ [] s₀ {} where
  entries := .nil ⟨h.distinct, h.issued⟩
  authorities := by
    rw [← Backend.length_roster]
    exact .nil _
  servers := .nil _
  ready := h.ready

/-- An event that neither publishes nor fails to withdraw is of no account to the registry. -/
theorem append (h : AccountedFor s₀ es s x) {ev : Event} (hpublished : ev.published? = none)
    (hlost : ev.lost? = none) : AccountedFor s₀ (es ++ [ev]) s x :=
  ⟨h.entries.append hpublished hlost, h.authorities, h.servers, h.ready⟩

theorem enter (h : AccountedFor s₀ es s x) (state : LifecycleState) :
    AccountedFor s₀ es (s.enter state) x := ⟨h.entries, h.authorities, h.servers, h.ready⟩

theorem hold (h : AccountedFor s₀ es s x) (g : Gateway) :
    AccountedFor s₀ es { s with gateway := g } x := ⟨h.entries, h.authorities, h.servers, h.ready⟩

theorem setReady (h : AccountedFor s₀ es s x) (ready : Bool) :
    AccountedFor s₀ es (s.withBackend (s.toBackend.setReady gatewayHealth ready))
      { x with ready } where
  entries := h.entries
  authorities := h.authorities
  servers := h.servers
  ready := s.ready_setReady ready

/-- The held authority is stopped and let go of. -/
theorem stopAuthority {r : AuthorityRef} {b : Bool} (h : AccountedFor s₀ es s x)
    (hx : x.authority = some (r, b)) :
    AccountedFor s₀ es (s.withBackend (s.toBackend.stopAuthority r))
      { x with authority := none } where
  entries := h.entries
  authorities := by
    have hstaffed : Staffed s₀.nextRef s.roster (some (r, b)) := hx ▸ h.authorities
    rw [Site.toBackend_withBackend, Backend.roster_stopAuthority]
    exact hstaffed.stop
  servers := h.servers
  ready := (s.ready_stopAuthority r).trans h.ready

theorem withBackend (h : AccountedFor s₀ es s x) {b : Backend} (hb : s.toBackend.Undisturbed b) :
    AccountedFor s₀ es (s.withBackend b) x where
  entries := h.entries
  authorities := by
    rw [Site.toBackend_withBackend, hb.roster]
    exact h.authorities
  servers := h.servers
  ready := by
    rw [Site.ready_withBackend, hb.health]
    exact h.ready

/-- **What others do between two calls touches neither the resources nor the gateway.** -/
theorem visit {s' : Site} (h : AccountedFor s₀ es s x) (hv : Visit es s s') :
    AccountedFor s₀ es s' x ∧ s'.gateway = s.gateway ∧ s'.roster = s.roster := by
  -- most of it goes by way of the backend, where it disturbs no authority
  have hbackend : ∀ b : Backend, s.toBackend.Undisturbed b →
      AccountedFor s₀ es (s.withBackend b) x ∧ (s.withBackend b).gateway = s.gateway ∧
        (s.withBackend b).roster = s.roster :=
    fun b hb => ⟨h.withBackend hb, rfl, hb.roster⟩
  cases hv with
  | publish service value =>
      exact ⟨⟨h.entries.visitPublish service value, h.authorities, h.servers, h.ready⟩, rfl, rfl⟩
  | draw => exact ⟨⟨h.entries.draw, h.authorities, h.servers, h.ready⟩, rfl, rfl⟩
  | @withdraw entry _ hown hs =>
      obtain ⟨registry, hregistry, rfl⟩ := Site.eq_of_withdrawEntry hs
      rw [Registry.eq_erase_of_withdraw hregistry]
      exact ⟨⟨h.entries.visitWithdraw hown, h.authorities, h.servers, h.ready⟩, rfl, rfl⟩
  | request c r => exact hbackend _ (c.undisturbed_router r s.toBackend)
  | authenticate r machineUid identity room =>
      exact hbackend _ (s.toBackend.undisturbed_authenticate r machineUid identity room)
  | conferenceEnded r room => exact hbackend _ (s.toBackend.undisturbed_conferenceEnded r room)
  | elapse ms => exact hbackend _ (s.toBackend.undisturbed_elapse ms)
  | rewire net => exact ⟨⟨h.entries, h.authorities, h.servers, h.ready⟩, rfl, rfl⟩

/-! ### What runs -/

theorem authority_of_running (h : AccountedFor s₀ es s x) {r : AuthorityRef} (hr : s₀.nextRef ≤ r)
    (hrunning : s.running r = true) : x.authority = some (r, true) :=
  h.authorities.runs r hr (by rw [← Backend.running_eq_roster]; exact hrunning)

theorem server_of_running (h : AccountedFor s₀ es s x) {v : ServerRef} (hv : s₀.nextServer ≤ v)
    (hrunning : s.runsServer v = true) : x.server = some (v, true) :=
  h.servers.eq_of_running hv hrunning

theorem backed (h : AccountedFor s₀ es s x) {r : AuthorityRef} {e : RegistryEntry}
    (ha : x.authority = some (r, true)) (he : x.entry = some (e, r))
    (hauthority : s.gateway.authority = some r) (hentry : s.gateway.registration = some e) :
    s.Backed := by
  obtain ⟨-, v, hv⟩ := h.authorities.held r true ha
  obtain ⟨-, hservice, hfind⟩ := h.entries.held e r he
  refine ⟨r, e, hauthority, ?_, hentry, hservice, hfind⟩
  rw [Backend.running_eq_roster, hv]
  rfl

end AccountedFor

end ConferenceAuth
