/-
**What holds of a gateway between two calls.**

However a gateway has been started and stopped, and whatever has failed on the way, between two
calls it is in one of three states: it holds nothing; it holds nothing but is ready, because no
authority is wanted; or it serves, with an authority that runs and is published, and perhaps with a
server that runs.  Each call leads from one of them to one of them, and what others do in between
leaves them as they are.

Main definitions:

* `Passed` — what a whole call comes to;
* `Site.Idle`, `Site.InService` — the gateway holds nothing, and it serves.

Main results:

* `AtRest.start`, `AtRest.stop`, `AtRest.visit` — one call, or one act of others;
* `Site.Run.atRest` — a whole run;
* `Site.Run.lostBy_eq_nil` — under a working registry no entry is lost;
* `idle_or_in_service_between_calls` — **the state of a gateway agrees with its resources**.
-/
import ConferenceAuth.Deployment
import ConferenceAuth.Proofs.Gateway.Failure
import ConferenceAuth.Proofs.Gateway.Stop

set_option autoImplicit false

namespace ConferenceAuth

/-- **What a whole call comes to**: it ends at rest, and all its points are as they should be. -/
structure Passed (s₀ : Site) (es : List Event) (o : Outcome) : Prop where
  rest : AtRest s₀ (es ++ o.events) o.site
  /-- All its points were guarded. -/
  guarded : ∀ done t, PointOf o.events done t → s₀.Guarded t
  /-- At no point was a stopped authority published. -/
  unexposed : ∀ done t, PointOf o.events done t → Unexposed es done t

/-! ### One call -/

namespace AtRest

variable {s₀ s : Site} {es : List Event}

theorem new (h : s₀.IsNew) : AtRest s₀ [] s₀ := .stopped h.gateway (.new h)

/-- **What others do leaves a gateway at rest.** -/
theorem visit {s' : Site} (h : AtRest s₀ es s) (hv : Visit es s s') : AtRest s₀ es s' := by
  cases h with
  | stopped hg h =>
      obtain ⟨h', hg', -⟩ := h.visit hv
      exact .stopped (hg'.trans hg) h'
  | disabled hg h =>
      obtain ⟨h', hg', -⟩ := h.visit hv
      exact .disabled (hg'.trans hg) h'
  | started hg hroster h =>
      obtain ⟨h', hg', hroster'⟩ := h.visit hv
      exact .started (hg'.trans hg) (hroster' ▸ hroster) h'

/-- The gateway refers to its resources when a call begins. -/
theorem sound (h : AtRest s₀ es s) : ∃ x, Sound s₀ es ⟨s, []⟩ x ∧ Holds s.gateway x := by
  have hguarded := h.guarded
  cases h with
  | stopped hg h => exact ⟨_, .begin h hguarded, by rw [hg]; exact ⟨rfl, rfl, rfl⟩⟩
  | disabled hg h => exact ⟨_, .begin h hguarded, by rw [hg]; exact ⟨rfl, rfl, rfl⟩⟩
  | @started v r e server hg _ h =>
      refine ⟨_, .begin h hguarded, ?_⟩
      rw [hg]
      exact ⟨rfl, rfl, by cases server <;> rfl⟩

/-- **A stop leads to a gateway that holds nothing.** -/
theorem stop (h : AtRest s₀ es s) (c : Conditions) : Passed s₀ es (s.stop c) := by
  obtain ⟨x, hsound, hg⟩ := h.sound
  have hreleased := hsound.stop hg c
  exact ⟨.stopped (Progress.gateway_stop _ c) hreleased.accounts, hreleased.guarded,
    hreleased.unexposed⟩

/-- **A start leads from rest to rest**, whether it succeeds or fails. -/
theorem start (h : AtRest s₀ es s) (c : Conditions) : Passed s₀ es (s.start c) := by
  have hstarted : s.gateway.state.isStarted = true → Passed s₀ es (s.start c) := by
    intro hs
    rw [Site.start_of_isStarted hs]
    exact ⟨by rw [List.append_nil]; exact h, fun done t ht => ht.not_nil.elim,
      fun done t ht => ht.not_nil.elim⟩
  cases h with
  | stopped hg h =>
      rcases Sound.tryStart h hg c with ⟨p, x, heq, hsound, hrest⟩ | ⟨er, p, x, heq, hsound, hheld⟩
      · rw [Site.start_of_ok hg heq]
        exact ⟨hrest, hsound.points, fun done t ht => hsound.unexposed ht.subset t⟩
      · rw [Site.start_of_error hg heq]
        -- what has been acquired is still held, and that is all that a stop needs
        have hreleased := hsound.stop hheld c
        exact ⟨.stopped (Progress.gateway_stop p c) hreleased.accounts, hreleased.guarded,
          hreleased.unexposed⟩
  | disabled hg h => exact hstarted (by rw [hg]; rfl)
  | started hg _ h => exact hstarted (by rw [hg]; rfl)

/-- Under a working registry no stop loses an entry. -/
theorem lostBy_stop (h : AtRest s₀ es s) {c : Conditions} (hc : c.withdraw = .works) :
    lostBy (s.stop c).events = [] := by
  obtain ⟨x, hsound, hg⟩ := h.sound
  exact hsound.lostBy_stop hg hc

theorem lostBy_start (h : AtRest s₀ es s) {c : Conditions} (hc : c.withdraw = .works) :
    lostBy (s.start c).events = [] := by
  have hstarted : s.gateway.state.isStarted = true → lostBy (s.start c).events = [] := by
    intro hs
    rw [Site.start_of_isStarted hs]
    rfl
  have hlost := lostBy_tryStart s c
  cases h with
  | stopped hg h =>
      rcases Sound.tryStart h hg c with ⟨p, x, heq, hsound, hrest⟩ | ⟨er, p, x, heq, hsound, hheld⟩
      · rw [heq] at hlost
        rw [Site.start_of_ok hg heq]
        exact hlost
      · rw [heq] at hlost
        rw [Site.start_of_error hg heq]
        exact (hsound.lostBy_stop hheld hc).trans hlost
  | disabled hg h => exact hstarted (by rw [hg]; rfl)
  | started hg _ h => exact hstarted (by rw [hg]; rfl)

end AtRest

/-! ### A whole run -/

namespace Site.Run

variable {admits : Conditions → Prop} {s₀ s : Site} {es : List Event}

/-- **Between two calls of a run the gateway is at rest.** -/
theorem atRest (h : Site.Run admits Visit s₀ es s) (h₀ : s₀.IsNew) : AtRest s₀ es s := by
  -- every call and every act of others leads from rest to rest
  induction h with
  | new => exact .new h₀
  | start _ _ ih => exact (ih.start _).rest
  | stop _ _ ih => exact (ih.stop _).rest
  | visit _ hv ih => exact ih.visit hv

/-- **Under a working registry no entry is ever lost.** -/
theorem lostBy_eq_nil (h : Site.Run (·.withdraw = .works) Visit s₀ es s) (h₀ : s₀.IsNew) :
    lostBy es = [] := by
  induction h with
  | new => rfl
  | start hrun hc ih => rw [lostBy_append, ih, (hrun.atRest h₀).lostBy_start hc, List.append_nil]
  | stop hrun hc ih => rw [lostBy_append, ih, (hrun.atRest h₀).lostBy_stop hc, List.append_nil]
  | visit _ _ ih => exact ih

end Site.Run

/-! ### The state and the resources -/

/-- **The gateway holds nothing**, and nothing of its making runs or is published. -/
structure Site.Idle (s₀ : Site) (es : List Event) (s : Site) : Prop where
  variant : s.gateway.variant = none
  authority : s.gateway.authority = none
  registration : s.gateway.registration = none
  server : s.gateway.server = none
  /-- None of its publications is in the registry. -/
  live : liveOf es s = []
  /-- No authority of its making runs. -/
  authorities : ∀ r, s₀.nextRef ≤ r → s.running r = false
  /-- No server of its making runs. -/
  servers : ∀ v, s₀.nextServer ≤ v → s.runsServer v = false

/-- **The gateway serves** with an authority of a variant, published under an entry. -/
structure Site.InService (s₀ : Site) (es : List Event) (s : Site) (v : AuthorityVariant)
    (r : AuthorityRef) (e : RegistryEntry) : Prop where
  variant : s.gateway.variant = some v
  authority : s.gateway.authority = some r
  registration : s.gateway.registration = some e
  /-- The authority is of the variant, and its sweeper runs. -/
  sweeping : ∃ a, s.authority? r = some a ∧ a.variant = v ∧ a.keeper.running = true
  /-- The entry is one of the authority's service. -/
  service : e.service = authorityService
  /-- The authority is published under the entry. -/
  published : s.registry.published.find? e.id = some ⟨e, .authority r⟩
  /-- Of all publications that the gateway has made, this is the live one. -/
  live : liveOf es s = [e]
  /-- A held server runs, and has not been stopped. -/
  server : ∀ n, s.gateway.server = some n →
    ∃ sv, s.server? n = some sv ∧ sv.running = true ∧ sv.stopCalls = 0
  /-- No other authority of its making runs. -/
  authorities : ∀ r', s₀.nextRef ≤ r' → s.running r' = true → r' = r
  /-- No other server of its making runs. -/
  servers : ∀ n, s₀.nextServer ≤ n → s.runsServer n = true → s.gateway.server = some n

/-- A gateway at rest serves, or else it is idle. -/
theorem AtRest.idle_or_inService {s₀ s : Site} {es : List Event} (h : AtRest s₀ es s)
    (hlost : lostBy es = []) :
    (s.gateway.state = .stopped ∧ s.ready = false ∧ s₀.Idle es s) ∨
      (s.gateway.state = .disabled ∧ s.ready = true ∧ s₀.Idle es s) ∨
      (s.gateway.state = .started ∧ s.ready = true ∧ ∃ v r e, s₀.InService es s v r e) := by
  have hidle : ∀ {state : LifecycleState} {ready : Bool}, s.gateway = { state } →
      AccountedFor s₀ es s { ready } → s₀.Idle es s := by
    intro state ready hg h
    refine ⟨by rw [hg], by rw [hg], by rw [hg], by rw [hg], h.entries.live_eq_nil hlost, ?_, ?_⟩
    · intro r hr
      refine Bool.eq_false_iff.2 fun hrunning => ?_
      cases h.authority_of_running hr hrunning
    · intro v hv
      refine Bool.eq_false_iff.2 fun hrunning => ?_
      cases h.server_of_running hv hrunning
  cases h with
  | stopped hg h => exact Or.inl ⟨by rw [hg], h.ready, hidle hg h⟩
  | disabled hg h => exact Or.inr (Or.inl ⟨by rw [hg], h.ready, hidle hg h⟩)
  | @started v r e server hg hroster h =>
      refine Or.inr (Or.inr ⟨by rw [hg], h.ready, v, r, e, ?_⟩)
      obtain ⟨-, hservice, hfind⟩ := h.entries.held e r rfl
      refine ⟨by rw [hg], by rw [hg], by rw [hg], ?_, hservice, hfind,
        h.entries.live_eq_singleton hlost, ?_, ?_, ?_⟩
      · rw [Backend.getElem?_roster] at hroster
        obtain ⟨a, ha, hav⟩ := Option.map_eq_some_iff.1 hroster
        obtain ⟨hvariant, hrunning⟩ := Prod.mk.inj hav
        exact ⟨a, ha, hvariant, hrunning⟩
      · intro n hn
        rw [hg] at hn
        obtain rfl : server = some n := hn
        obtain ⟨-, -, sv, hsv, hrunning, hcalls⟩ := h.servers.held n true rfl
        exact ⟨sv, hsv, hrunning, hcalls⟩
      · intro r' hr' hrunning
        cases h.authority_of_running hr' hrunning
        rfl
      · intro n hn hrunning
        rw [hg]
        have hsome := h.server_of_running hn hrunning
        cases server with
        | none => cases hsome
        | some m => cases hsome; rfl

/-- **The state of a gateway agrees with its resources.**  Take any run of a gateway over a registry
that may refuse to publish but not to withdraw, where authorities and servers may fail to start and
servers may report failures when they stop, and where others use the services in between.  Between
two calls the gateway is stopped, disabled or started; and it is ready, holds what it needs and has
it running and published exactly as its state says. -/
theorem idle_or_in_service_between_calls {s₀ s : Site} {es : List Event} (h₀ : s₀.IsNew)
    (h : Site.Run (·.withdraw = .works) Visit s₀ es s) :
    (s.gateway.state = .stopped ∧ s.ready = false ∧ s₀.Idle es s) ∨
      (s.gateway.state = .disabled ∧ s.ready = true ∧ s₀.Idle es s) ∨
      (s.gateway.state = .started ∧ s.ready = true ∧ ∃ v r e, s₀.InService es s v r e) :=
  (h.atRest h₀).idle_or_inService (h.lostBy_eq_nil h₀)

/-! ### A rehearsal -/

theorem Site.isNew_rehearsal (sessionIds : IdSource) {entryIds : IdSource} (h : entryIds.Distinct)
    (factory : ServerFactory) : (Site.rehearsal sessionIds entryIds factory).IsNew where
  gateway := rfl
  ready := rfl
  distinct := h
  issued := by intro p hp; cases hp

/-- In a rehearsal of single sign-on in which the first start fails, because servers refuse to
start, the gateway is in service after the second. -/
theorem in_service_after_second_start :
    let s₀ := Site.rehearsal (.numbered "session-") (.numbered "entry-") .recording
    let config := ConfigSource.ofProperties Deployment.shibboleth.settings
    let o := s₀.start (.ofRefusals config true [.serverStart])
    let o' := o.site.start (.ofRefusals config true [])
    o.result = .error Refusal.serverStartError ∧ o.site.gateway = {} ∧
      ∃ v r e, s₀.InService (o.events ++ o'.events) o'.site v r e := by
  intro s₀ config o o'
  refine ⟨rfl, by decide +kernel, ?_⟩
  have hfirst : Site.Run (·.withdraw = .works) Visit s₀ o.events o.site := .first rfl
  have hrun : Site.Run (·.withdraw = .works) Visit s₀ (o.events ++ o'.events) o'.site :=
    hfirst.start rfl
  rcases idle_or_in_service_between_calls
      (Site.isNew_rehearsal _ (IdSource.distinct_numbered _) _) hrun
    with ⟨hstate, -⟩ | ⟨hstate, -⟩ | ⟨-, -, h⟩
  · exact absurd hstate (by decide +kernel)
  · exact absurd hstate (by decide +kernel)
  · exact h

end ConferenceAuth
