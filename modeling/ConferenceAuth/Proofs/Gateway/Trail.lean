/-
**Which states a start and a stop enter.**

Each time the gateway enters a state, the counter of that state is increased, and nothing else ever
touches it.  What a start or a stop does to the counters is therefore a row of states, its trail.  A
start that is not turned away ends in one of four ways, and each has its trail: the states that the
start has come to and, if it fails, the stopped state to which it goes back.  Which of the four it
is, the first call that has failed tells.

Main definitions:

* `Site.Still`, `Site.Entered` — no state has been entered, and a row of states has;
* `Outcome.failure?`, `Outcome.turnedAway` — the first failed call, and a call that asks nothing;
* `Ending`, `Ending.trail` — how a start ends, and which states it enters on the way;
* `Outcome.Took` — a start has ended in one way.

Main results:

* `Progress.still_serve`, `Progress.still_releaseServer` — the steps that enter no state;
* `Progress.entered_stop` — a stop enters the stopped state, unless the gateway is there already;
* `Progress.entered_finish` — the second half of a start enters the started state or fails;
* `Event.starts_of_error?`, `Event.error?_ne_alreadyStarted` — which calls end a start;
* `Site.took_start` — **a start ends in one of four ways**.
-/
import ConferenceAuth.Proofs.Backend.Transitions
import ConferenceAuth.Proofs.Gateway.Failure
import ConferenceAuth.Proofs.Gateway.Likeness
import ConferenceAuth.Proofs.Server.Binding

set_option autoImplicit false

namespace ConferenceAuth

/-! ### States that are entered -/

namespace Site

/-- The gateway is in the state in which it was, and no transition has been counted. -/
structure Still (s t : Site) : Prop where
  state : t.gateway.state = s.gateway.state
  transitions : t.metrics.transitions = s.metrics.transitions

theorem Still.trans {s t u : Site} (h : s.Still t) (h' : t.Still u) : s.Still u :=
  ⟨h'.state.trans h.state, h'.transitions.trans h.transitions⟩

/-- **A row of states has been entered**: each is counted as often as it stands there. -/
def Entered (s t : Site) (trail : List LifecycleState) : Prop :=
  ∀ x, t.metrics.transitions x = s.metrics.transitions x + trail.count x

theorem Still.entered {s t : Site} (h : s.Still t) : s.Entered t [] :=
  fun x => by rw [h.transitions, List.count_nil, Nat.add_zero]

theorem entered_enter (s : Site) (state : LifecycleState) : s.Entered (s.enter state) [state] := by
  intro x
  show (s.metrics.countTransition state).transitions x = _
  rw [Metrics.transitions_countTransition, List.count_singleton]
  by_cases h : x = state
  · simp [h]
  · simp [h, Ne.symm h]

theorem Entered.trans {s t u : Site} {trail trail' : List LifecycleState} (h : s.Entered t trail)
    (h' : t.Entered u trail') : s.Entered u (trail ++ trail') := by
  intro x
  rw [h' x, h x, List.count_append, Nat.add_assoc]

/-- A state is entered after a row of others. -/
theorem Entered.concat {s t u : Site} {trail : List LifecycleState} (h : s.Entered t trail)
    (hstill : t.Still u) (state : LifecycleState) :
    s.Entered (u.enter state) (trail ++ [state]) := by
  have hall := (h.trans hstill.entered).trans (u.entered_enter state)
  rw [List.append_nil] at hall
  exact hall

end Site

/-! ### The steps that enter no state -/

namespace Progress

theorem still_startAuthority (p : Progress) (c : Conditions) (r : AuthorityRef) :
    p.site.Still (p.startAuthority c r).2.site := by
  rw [startAuthority_site, Backend.startAuthority_eq_stepAt]
  exact ⟨rfl, p.site.toBackend.transitions_stepAt r (.start c.runtime)⟩

theorem still_serve (p : Progress) (c : Conditions) (policy : ServerPolicy) (r : AuthorityRef)
    (kind : AuthorityKind) : p.site.Still (p.serve c policy r kind).2.site := by
  obtain ⟨_, _, _, hsite⟩ := p.serve_site c policy r kind
  rw [hsite]
  exact ⟨rfl, rfl⟩

theorem still_releaseServer (p : Progress) (c : Conditions) :
    p.site.Still (p.releaseServer c).2.site := by
  obtain ⟨_, _, hsite⟩ := p.releaseServer_site c
  rw [hsite]
  exact ⟨rfl, rfl⟩

theorem still_releaseRegistration (p : Progress) (c : Conditions) :
    p.site.Still (p.releaseRegistration c).2.site := by
  obtain ⟨_, _, _, hsite⟩ := p.releaseRegistration_site c
  rw [hsite]
  exact ⟨rfl, rfl⟩

theorem still_releaseAuthority (p : Progress) : p.site.Still p.releaseAuthority.site := by
  cases h : p.site.gateway.authority with
  | none => rw [releaseAuthority_of_none h]; exact ⟨rfl, rfl⟩
  | some r =>
      rw [releaseAuthority_eq h]
      exact ⟨rfl, p.site.toBackend.transitions_stepAt r .stop⟩

theorem entered_settle (p : Progress) :
    p.site.Entered p.settle.site (if p.site.gateway.state = .stopped then [] else [.stopped]) := by
  unfold settle
  by_cases hstate : p.site.gateway.state = .stopped
  · have hheld : (p.hold fun g => { g with variant := none }).site.gateway.state = .stopped := hstate
    rw [if_pos hstate]
    dsimp only
    rw [if_pos hheld]
    exact Site.Still.entered ⟨rfl, rfl⟩
  · have hheld : ¬ (p.hold fun g => { g with variant := none }).site.gateway.state = .stopped :=
      hstate
    rw [if_neg hstate]
    dsimp only
    rw [if_neg hheld]
    exact (Site.Still.entered (s := p.site) ⟨rfl, rfl⟩).concat ⟨rfl, rfl⟩ .stopped

/-- **A stop enters the stopped state**, unless the gateway is there already. -/
theorem entered_stop (p : Progress) (c : Conditions) :
    p.site.Entered (p.stop c).2.site
      (if p.site.gateway.state = .stopped then [] else [.stopped]) := by
  have hready : p.site.Still (p.setReady false).site := ⟨rfl, rfl⟩
  have hstill := ((hready.trans (still_releaseServer _ c)).trans
    (still_releaseRegistration _ c)).trans (still_releaseAuthority _)
  rw [stop_eq, ← hstill.state]
  exact hstill.entered.trans (entered_settle _)

/-- The second half of a start enters the started state, or it fails and enters none. -/
theorem entered_finish (p : Progress) (c : Conditions) (policy : ServerPolicy) (r : AuthorityRef)
    (kind : AuthorityKind) :
    (∃ p', p.finish c policy r kind = (.ok (), p') ∧ p'.site.gateway.state = .started ∧
      p'.events ≠ [] ∧ p.site.Entered p'.site [.started]) ∨
    (∃ e p', p.finish c policy r kind = (.error e, p') ∧ p.site.Still p'.site) := by
  have hstart := p.still_startAuthority c r
  rcases p.finish_cases c policy r kind with
    ⟨e, q, hq, heq⟩ | ⟨q, e, q', hq, hq', heq⟩ | ⟨q, q', hq, hq', heq⟩
  · rw [hq] at hstart
    exact Or.inr ⟨e, q, heq, hstart⟩
  all_goals
    have hserve := q.still_serve c policy r kind
    rw [hq] at hstart
    rw [hq'] at hserve
  · exact Or.inr ⟨e, q', heq, hstart.trans hserve⟩
  · refine Or.inl ⟨_, heq, rfl, by simp [setReady], ?_⟩
    exact ((hstart.trans hserve).entered.concat ⟨rfl, rfl⟩ .started).trans
      (Site.Still.entered ⟨rfl, rfl⟩)

end Progress

/-! ### How a start ends -/

namespace Call

/-- Whether a call publishes. -/
def publishes : Call → Bool
  | publish _ _ => true
  | _ => false

/-- Whether a call starts the authority or the server. -/
def starts : Call → Bool
  | startAuthority _ _ | startServer _ _ => true
  | _ => false

end Call

namespace Outcome

/-- The first call that has failed. -/
def failure? (o : Outcome) : Option Call := (o.events.map (·.call)).find? Call.failed

/-- Whether the first call that has failed is of a kind. -/
def failedIn (o : Outcome) (kind : Call → Bool) : Bool := o.failure?.any kind

/-- Whether a call of the gateway was turned away before anything was asked. -/
def turnedAway (o : Outcome) : Bool :=
  decide (o.result = .error .alreadyStarted) && o.events.isEmpty

theorem failure?_eq_none {o : Outcome} (h : ∀ ev ∈ o.events, ev.call.failed = false) :
    o.failure? = none := by
  refine List.find?_eq_none.2 fun call hcall => ?_
  obtain ⟨ev, hev, rfl⟩ := List.mem_map.1 hcall
  simp [h ev hev]

theorem failure?_eq_some {o : Outcome} {more rest : List Event} {ev : Event}
    (hevents : o.events = more ++ ev :: rest) (hmore : ∀ ev ∈ more, ev.call.failed = false)
    (hev : ev.call.failed = true) : o.failure? = some ev.call := by
  have hnone : (more.map (·.call)).find? Call.failed = none :=
    failure?_eq_none (o := ⟨o.result, o.site, more⟩) hmore
  rw [failure?, hevents, List.map_append, List.map_cons, List.find?_append, hnone, Option.none_or,
    List.find?_cons_of_pos hev]

end Outcome

/-- **How a start ends** that is not turned away. -/
inductive Ending where
  /-- No authority is wanted. -/
  | disabled
  /-- The registry refuses the publication. -/
  | notPublished
  /-- The authority or the server does not start. -/
  | notStarted
  | started
  deriving DecidableEq, Repr

namespace Ending

/-- The states that are entered on the way, with the return to the stopped one. -/
def trail : Ending → List LifecycleState
  | disabled => [.configLoaded, .disabled]
  | notPublished => [.configLoaded, .authoritySelected, .stopped]
  | notStarted => [.configLoaded, .authoritySelected, .published, .stopped]
  | started => [.configLoaded, .authoritySelected, .published, .started]

/-- The state in which the gateway is then. -/
def state : Ending → LifecycleState
  | disabled => .disabled
  | notPublished | notStarted => .stopped
  | started => .started

end Ending

/-- **A start has ended in one way**, from a site and under conditions. -/
structure Outcome.Took (s : Site) (c : Conditions) (o : Outcome) (e : Ending) : Prop where
  entered : s.Entered o.site e.trail
  state : o.site.gateway.state = e.state
  /-- A gateway that is not up holds nothing. -/
  gateway : o.site.gateway = {} ∨ o.site.gateway.state.isStarted = true
  asked : o.events ≠ []
  result : (o.result = .ok ()) ↔ (e = .disabled ∨ e = .started)
  notPublished : o.failedIn Call.publishes = decide (e = .notPublished)
  notStarted : o.failedIn Call.starts = decide (e = .notStarted)
  /-- It is the gateway that knows of earlier starts, unless the server says so of itself. -/
  own : c.serverStart ≠ some .alreadyStarted → o.result ≠ .error .alreadyStarted

theorem Server.start_ne_alreadyStarted (sv : Server) (factory : ServerFactory) (net : Network) :
    (sv.start factory net).1 ≠ .error .alreadyStarted := by
  cases factory with
  | refusing reason => simp [start]
  | recording => simp [start]
  | binding =>
      have hlisten : sv.listen net ≠ .error .alreadyStarted := by
        unfold listen
        split
        · simp [GatewayError.alreadyRunning]
        · split
          · simp [GatewayError.noConnectors]
          · split
            · simp
            · intro h
              obtain ⟨_, _, -, hbind⟩ := bindAll_eq_error_iff.1 h
              cases hbind
      simp only [start]
      split
      · next e he => exact fun h => hlisten (by rw [he]; exact congrArg _ (Except.error.inj h))
      · simp

theorem Backend.startAuthority_ne_alreadyStarted (b : Backend) (r : AuthorityRef)
    (runtime : Bool) : (b.startAuthority r runtime).1 ≠ .error .alreadyStarted := by
  unfold startAuthority
  split
  · simp
  · next a _ =>
    show (a.keeper.start b.metrics b.now runtime).1 ≠ _
    unfold Keeper.start
    split
    · simp
    · split <;> simp [Keeper.noRuntime]

namespace Event

variable {c : Conditions} {ev : Event} {e : GatewayError}

theorem failed_of_error? (h : ev.error? c = some e) : ev.call.failed = true := by
  cases hfailed : ev.call.failed with
  | true => rfl
  | false =>
      rw [error?_of_not_failed hfailed] at h
      cases h

/-- Where the registry takes what is published, only the start of the authority or of the server
ends a start. -/
theorem starts_of_error? (hc : c.publish = none) (hrefuse : ev.call.mayRefuse = true)
    (h : ev.error? c = some e) : ev.call.starts = true := by
  obtain ⟨call, before, after⟩ := ev
  cases call with
  | publish service ok =>
      have hfailed := failed_of_error? h
      obtain rfl : ok = false := by simpa [Call.failed] using hfailed
      have hnone : c.publish.map GatewayError.registry = some e := h
      rw [hc] at hnone
      cases hnone
  | startAuthority => rfl
  | startServer => rfl
  | _ => cases hrefuse

/-- None of the calls that end a start says that the gateway has started already, unless the server
is made to say so. -/
theorem error?_ne_alreadyStarted (hc : c.serverStart ≠ some .alreadyStarted)
    (hrefuse : ev.call.mayRefuse = true) : ev.error? c ≠ some .alreadyStarted := by
  intro h
  have hfailed := failed_of_error? h
  have hfailure : ∀ {x : Except GatewayError Unit}, failureOf x = some .alreadyStarted →
      x = .error .alreadyStarted := by
    intro x hx
    cases x with
    | error e => cases hx; rfl
    | ok _ => cases hx
  obtain ⟨call, before, after⟩ := ev
  cases call with
  | publish service ok =>
      obtain rfl : ok = false := by simpa [Call.failed] using hfailed
      have hregistry : c.publish.map GatewayError.registry = some .alreadyStarted := h
      cases hpublish : c.publish with
      | none => rw [hpublish] at hregistry; cases hregistry
      | some _ => rw [hpublish] at hregistry; cases hregistry
  | startAuthority r ok =>
      obtain rfl : ok = false := by simpa [Call.failed] using hfailed
      exact before.toBackend.startAuthority_ne_alreadyStarted r c.runtime (hfailure h)
  | startServer v ok =>
      obtain rfl : ok = false := by simpa [Call.failed] using hfailed
      have hserver : c.serverStart.or ((before.server? v).bind fun sv =>
        failureOf (sv.start before.factory before.network).1) = some .alreadyStarted := h
      cases hstart : c.serverStart with
      | some e =>
          rw [hstart] at hserver
          exact hc (hstart.trans hserver)
      | none =>
          rw [hstart, Option.none_or] at hserver
          obtain ⟨sv, -, hsv⟩ := Option.bind_eq_some_iff.1 hserver
          exact sv.start_ne_alreadyStarted _ _ (hfailure hsv)
  | _ => cases hrefuse

end Event

namespace Site

variable {s : Site} {c : Conditions} {p : Progress}

/-- A first part that succeeds is the whole start. -/
theorem took_of_ok (hg : s.gateway = {}) {e : Ending} (he : e = .disabled ∨ e = .started)
    (htry : Progress.tryStart ⟨s, []⟩ c = (.ok (), p)) (hentered : s.Entered p.site e.trail)
    (hstate : p.site.gateway.state = e.state) (hasked : p.events ≠ []) :
    (s.start c).Took s c e := by
  have hfailure : Outcome.failure? ⟨.ok (), p.site, p.events⟩ = none := by
    have hattempt := Attempt.tryStart ⟨s, []⟩ c
    rw [htry] at hattempt
    cases hattempt with
    | ok more hevents hmore =>
        refine Outcome.failure?_eq_none ?_
        rw [hevents]
        exact hmore
  rw [start_of_ok hg htry]
  refine ⟨hentered, hstate, Or.inr ?_, hasked, ⟨fun _ => he, fun _ => rfl⟩, ?_, ?_, nofun⟩
  · rw [hstate]
    rcases he with rfl | rfl <;> rfl
  all_goals
    rw [Outcome.failedIn, hfailure]
    rcases he with rfl | rfl <;> rfl

/-- **A first part that fails is followed by a stop**, which enters the stopped state, and whose
failures come too late to be the first. -/
theorem took_of_error (hg : s.gateway = {}) {e : Ending} {er : GatewayError} {more : List Event}
    {ev : Event} {trail : List LifecycleState}
    (htry : Progress.tryStart ⟨s, []⟩ c = (.error er, p)) (hentered : s.Entered p.site trail)
    (hstate : p.site.gateway.state ≠ .stopped) (hend : e.state = .stopped)
    (htrail : e.trail = trail ++ [.stopped])
    (hevents : p.events = more ++ [ev]) (hmore : ∀ ev ∈ more, ev.call.failed = false)
    (hrefuse : ev.call.mayRefuse = true) (herror : ev.error? c = some er)
    (hpublishes : ev.call.publishes = decide (e = .notPublished))
    (hstarts : ev.call.starts = decide (e = .notStarted)) : (s.start c).Took s c e := by
  have hnot : ¬ (e = .disabled ∨ e = .started) := by
    rintro (rfl | rfl) <;> cases hend
  have hentered' := hentered.trans (p.entered_stop c)
  rw [if_neg hstate] at hentered'
  obtain ⟨rest, hrest⟩ := p.events_stop c
  have hall : (p.stop c).2.events = more ++ ev :: rest := by
    rw [hrest, hevents, List.append_assoc, List.singleton_append]
  have hfailure : Outcome.failure? ⟨.error er, (p.stop c).2.site, (p.stop c).2.events⟩ =
      some ev.call := Outcome.failure?_eq_some hall hmore (Event.failed_of_error? herror)
  rw [start_of_error hg htry]
  refine ⟨htrail ▸ hentered', ?_, Or.inl (p.gateway_stop c), ?_, ?_, ?_, ?_, ?_⟩
  · show (p.stop c).2.site.gateway.state = _
    rw [Progress.gateway_stop, hend]
  · show (p.stop c).2.events ≠ []
    rw [hall]
    simp
  · exact ⟨nofun, fun h => absurd h hnot⟩
  · rw [Outcome.failedIn, hfailure]
    exact hpublishes
  · rw [Outcome.failedIn, hfailure]
    exact hstarts
  · intro hc h
    refine Event.error?_ne_alreadyStarted hc hrefuse ?_
    rw [herror, Except.error.inj h]

theorem entered_configured (s : Site) :
    s.Entered (Progress.configured ⟨s, []⟩).site [.configLoaded] :=
  (Still.entered (s := s) ⟨rfl, rfl⟩).concat ⟨rfl, rfl⟩ .configLoaded

theorem entered_selected (s : Site) (a : Authority) :
    s.Entered (((Progress.configured ⟨s, []⟩).select a).enter .authoritySelected).site
      [.configLoaded, .authoritySelected] :=
  s.entered_configured.concat ⟨rfl, rfl⟩ .authoritySelected

theorem entered_published (s : Site) (a : Authority) :
    s.Entered ((((Progress.configured ⟨s, []⟩).select a).enter .authoritySelected).published
      s.nextRef).site [.configLoaded, .authoritySelected, .published] :=
  (s.entered_selected a).concat ⟨rfl, rfl⟩ .published

theorem took_disabled (hg : s.gateway = {})
    (ha : Authority.create? (GatewayConfig.resolve c.config) = none) :
    (s.start c).Took s c .disabled := by
  refine took_of_ok hg (Or.inl rfl) (Progress.tryStart_of_disabled ha _) ?_ rfl ?_
  · exact (s.entered_configured.concat ⟨rfl, rfl⟩ .disabled).trans (Still.entered ⟨rfl, rfl⟩)
  · simp [Progress.setReady]

theorem took_notPublished (hg : s.gateway = {}) {a : Authority}
    (ha : Authority.create? (GatewayConfig.resolve c.config) = some a) {er : HostError}
    (hc : c.publish = some er) : (s.start c).Took s c .notPublished := by
  have htry := Progress.tryStart_of_selected ha ⟨s, []⟩
  rw [hc] at htry
  refine took_of_error hg htry (s.entered_selected a) (by simp) rfl rfl
    (show _ = [⟨.readConfig, s, s⟩] ++ [_] from rfl) ?_ rfl ?_ rfl rfl
  · intro ev hev
    rw [List.mem_singleton.1 hev]
    rfl
  · show c.publish.map GatewayError.registry = _
    rw [hc]
    rfl

/-- **Once the authority has been published**, the start goes through, or it fails with the start of
the authority or of the server. -/
theorem took_published (hg : s.gateway = {}) {a : Authority}
    (ha : Authority.create? (GatewayConfig.resolve c.config) = some a) (hc : c.publish = none) :
    (s.start c).Took s c .started ∨ (s.start c).Took s c .notStarted := by
  have htry := Progress.tryStart_of_selected ha ⟨s, []⟩
  rw [hc] at htry
  have hpublished := s.entered_published a
  have hstate : ((((Progress.configured ⟨s, []⟩).select a).enter .authoritySelected).published
      s.nextRef).site.gateway.state = .published := rfl
  have hattempt := Attempt.tryStart ⟨s, []⟩ c
  rcases Progress.entered_finish _ c (GatewayConfig.resolve c.config).serverPolicy s.nextRef
    a.kind with ⟨p, hfinish, hpstate, hasked, hstarted⟩ | ⟨er, p, hfinish, hstill⟩
  · exact Or.inl (took_of_ok hg (Or.inr rfl) (htry.trans hfinish) (hpublished.trans hstarted)
      hpstate hasked)
  · rw [htry.trans hfinish] at hattempt
    cases hattempt with
    | error more ev hevents hmore hrefuse herror =>
        have hstarts := Event.starts_of_error? hc hrefuse herror
        have hnot : ev.call.publishes = false := by
          cases hcall : ev.call with
          | publish => rw [hcall] at hstarts; cases hstarts
          | _ => rfl
        have hpstate : p.site.gateway.state ≠ .stopped := by
          rw [hstill.state, hstate]
          decide
        exact Or.inr (took_of_error hg (htry.trans hfinish) (hpublished.trans hstill.entered)
          hpstate rfl rfl hevents hmore hrefuse herror hnot hstarts)

/-- **A start that is not turned away ends in one of four ways.** -/
theorem took_start (hg : s.gateway = {}) (c : Conditions) : ∃ e, (s.start c).Took s c e := by
  cases ha : Authority.create? (GatewayConfig.resolve c.config) with
  | none => exact ⟨_, took_disabled hg ha⟩
  | some a =>
      cases hc : c.publish with
      | some er => exact ⟨_, took_notPublished hg ha hc⟩
      | none =>
          rcases took_published hg ha hc with hstarted | hnot
          · exact ⟨_, hstarted⟩
          · exact ⟨_, hnot⟩

end Site

end ConferenceAuth
