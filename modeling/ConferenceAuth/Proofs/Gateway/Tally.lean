/-
**What the counters of transitions tell.**

Every start and every stop of a gateway enters a row of states that depends on how it ends, and what
others do in between enters none.  So the counters add up: how many starts were attempted, how far
each of them came, and whether the gateway is up can be read off them.

Main definitions:

* `Site.Logged` — the runs of a gateway, with a log of its calls;
* `startsThat` — how many starts of a log have ended in some way;
* `Tallied` — the counters agree with a log.

Main results:

* `Tallied.took`, `Tallied.turnedAway`, `Tallied.stop` — one more call;
* `Visit.same` — what others do in between is counted nowhere;
* `Site.Logged.tallied` — the counters agree with the log of every run;
* `transition_counters_tell_the_run` — **the counters tell the run**.
-/
import ConferenceAuth.Deployment
import ConferenceAuth.Proofs.Gateway.Trail

set_option autoImplicit false

namespace ConferenceAuth

/-! ### Runs with a log -/

namespace Action

def isStart : Action → Bool
  | start _ => true
  | stop _ => false

def conditions : Action → Conditions
  | start c | stop c => c

end Action

/-- **A run of a gateway with a log** of its calls and their outcomes.  The conditions are arbitrary,
and so is what others do in between. -/
inductive Site.Logged (s₀ : Site) : List (Action × Outcome) → Site → Prop
  | new : Site.Logged s₀ [] s₀
  | call {log : List (Action × Outcome)} {s : Site} (h : Site.Logged s₀ log s) (a : Action) :
      Site.Logged s₀ (log ++ [(a, s.act a)]) (s.act a).site
  | visit {log : List (Action × Outcome)} {s s' : Site} (h : Site.Logged s₀ log s)
      (hv : Visit [] s s') : Site.Logged s₀ log s'

/-- The number of starts in a log that have ended in some way. -/
def startsThat (log : List (Action × Outcome)) (test : Outcome → Bool) : Nat :=
  log.countP fun x => x.1.isStart && test x.2

theorem startsThat_start (log : List (Action × Outcome)) (c : Conditions) (o : Outcome)
    (test : Outcome → Bool) :
    startsThat (log ++ [(.start c, o)]) test = startsThat log test + if test o then 1 else 0 := by
  simp [startsThat, List.countP_append, List.countP_singleton, Action.isStart]

theorem startsThat_stop (log : List (Action × Outcome)) (c : Conditions) (o : Outcome)
    (test : Outcome → Bool) : startsThat (log ++ [(.stop c, o)]) test = startsThat log test := by
  simp [startsThat, List.countP_append, Action.isStart]

/-- **The counters agree with a log.** -/
structure Tallied (log : List (Action × Outcome)) (s : Site) : Prop where
  attempts : s.metrics.transitions .configLoaded = startsThat log fun o => !o.turnedAway
  /-- Where no server says so of itself, to be turned away is to be told of an earlier start. -/
  answers : (∀ x ∈ log, x.1.conditions.serverStart ≠ some .alreadyStarted) →
    s.metrics.transitions .configLoaded =
      startsThat log fun o => decide (o.result ≠ .error .alreadyStarted)
  selected : s.metrics.transitions .configLoaded =
    s.metrics.transitions .disabled + s.metrics.transitions .authoritySelected
  published : s.metrics.transitions .authoritySelected =
    s.metrics.transitions .published + startsThat log (·.failedIn Call.publishes)
  started : s.metrics.transitions .published =
    s.metrics.transitions .started + startsThat log (·.failedIn Call.starts)
  succeeded : s.metrics.transitions .started + s.metrics.transitions .disabled =
    startsThat log fun o => decide (o.result = .ok ())
  stopped : s.metrics.transitions .configLoaded =
    s.metrics.transitions .stopped + if s.gateway.state.isStarted then 1 else 0
  /-- A gateway that is not up holds nothing. -/
  gateway : s.gateway = {} ∨ s.gateway.state.isStarted = true

namespace Tallied

variable {log : List (Action × Outcome)} {s : Site}

theorem new (hg : s.gateway = {}) (hnone : ∀ x, s.metrics.transitions x = 0) : Tallied [] s := by
  refine ⟨?_, fun _ => ?_, ?_, ?_, ?_, ?_, ?_, Or.inl hg⟩
  all_goals simp [hnone, startsThat, hg, LifecycleState.isStarted]

/-- What leaves the gateway and the counters alone changes nothing. -/
theorem congr {t : Site} (h : Tallied log s) (hg : t.gateway = s.gateway)
    (hmetrics : t.metrics.transitions = s.metrics.transitions) : Tallied log t := by
  obtain ⟨h1, h2, h3, h4, h5, h6, h7, h8⟩ := h
  rw [← hmetrics] at h1 h2 h3 h4 h5 h6 h7
  rw [← hg] at h7 h8
  exact ⟨h1, h2, h3, h4, h5, h6, h7, h8⟩

/-- **A start that is turned away** is counted nowhere. -/
theorem turnedAway (h : Tallied log s) (hs : s.gateway.state.isStarted = true) (c : Conditions) :
    Tallied (log ++ [(.start c, ⟨.error .alreadyStarted, s, []⟩)]) s where
  attempts := by rw [startsThat_start, h.attempts]; rfl
  answers := by
    intro hall
    rw [startsThat_start, h.answers fun x hx => hall x (List.mem_append_left _ hx)]
    rfl
  selected := h.selected
  published := by rw [startsThat_start, h.published]; rfl
  started := by rw [startsThat_start, h.started]; rfl
  succeeded := by rw [startsThat_start, h.succeeded]; rfl
  stopped := h.stopped
  gateway := Or.inr hs

/-- **A start that ends in one of the four ways** is counted once in each phase that it has come to,
and the way back to the stopped state is counted with it. -/
theorem took (h : Tallied log s) (hg : s.gateway = {}) {c : Conditions} {o : Outcome} {e : Ending}
    (ho : o.Took s c e) : Tallied (log ++ [(.start c, o)]) o.site := by
  have hturned : o.turnedAway = false := by simp [Outcome.turnedAway, ho.asked]
  have hresult : decide (o.result = .ok ()) = decide (e = .disabled ∨ e = .started) := by
    simp only [ho.result]
  have hbefore : s.gateway.state.isStarted = false := by rw [hg]; rfl
  have hstopped := h.stopped
  rw [hbefore] at hstopped
  refine ⟨?_, fun hall => ?_, ?_, ?_, ?_, ?_, ?_, ?_⟩
  · rw [startsThat_start, ho.entered, h.attempts, hturned]
    cases e <;> rfl
  · have hown := ho.own (hall _ (List.mem_append_right _ (List.mem_singleton_self _)))
    rw [startsThat_start, ho.entered, h.answers fun x hx => hall x (List.mem_append_left _ hx),
      if_pos (decide_eq_true hown)]
    cases e <;> rfl
  · rw [ho.entered, ho.entered, ho.entered, h.selected]
    cases e <;> simp [Ending.trail] <;> omega
  · rw [startsThat_start, ho.entered, ho.entered, h.published, ho.notPublished]
    cases e <;> simp [Ending.trail] <;> omega
  · rw [startsThat_start, ho.entered, ho.entered, h.started, ho.notStarted]
    cases e <;> simp [Ending.trail] <;> omega
  · rw [startsThat_start, ho.entered, ho.entered, ← h.succeeded, hresult]
    cases e <;> simp [Ending.trail] <;> omega
  · rw [ho.entered, ho.entered, ho.state, hstopped]
    cases e <;> rfl
  · exact ho.gateway

/-- **One more start.** -/
theorem start (h : Tallied log s) (c : Conditions) :
    Tallied (log ++ [(.start c, s.start c)]) (s.start c).site := by
  rcases h.gateway with hg | hs
  · obtain ⟨e, ho⟩ := Site.took_start hg c
    exact h.took hg ho
  · rw [Site.start_of_isStarted hs]
    exact h.turnedAway hs c

/-- **One more stop** is counted once if the gateway was up, and not at all otherwise. -/
theorem stop (h : Tallied log s) (c : Conditions) :
    Tallied (log ++ [(.stop c, s.stop c)]) (s.stop c).site := by
  have hentered : s.Entered (s.stop c).site
      (if s.gateway.state.isStarted then [.stopped] else []) := by
    have hentered : s.Entered (s.stop c).site
        (if s.gateway.state = .stopped then [] else [.stopped]) := Progress.entered_stop ⟨s, []⟩ c
    rcases h.gateway with hg | hs
    · rw [hg] at hentered ⊢
      exact hentered
    · have hne : s.gateway.state ≠ .stopped := by
        intro hstate
        rw [hstate] at hs
        cases hs
      rw [if_neg hne] at hentered
      rw [if_pos hs]
      exact hentered
  have hsame : ∀ x, x ≠ .stopped →
      (s.stop c).site.metrics.transitions x = s.metrics.transitions x := by
    intro x hx
    rw [hentered x]
    split
    · simp [Ne.symm hx]
    · rfl
  have hgateway : (s.stop c).site.gateway = {} := Progress.gateway_stop _ c
  refine ⟨?_, fun hall => ?_, ?_, ?_, ?_, ?_, ?_, Or.inl hgateway⟩
  · rw [startsThat_stop, hsame _ (by decide), h.attempts]
  · rw [startsThat_stop, hsame _ (by decide),
      h.answers fun x hx => hall x (List.mem_append_left _ hx)]
  · rw [hsame _ (by decide), hsame _ (by decide), hsame _ (by decide), h.selected]
  · rw [startsThat_stop, hsame _ (by decide), hsame _ (by decide), h.published]
  · rw [startsThat_stop, hsame _ (by decide), hsame _ (by decide), h.started]
  · rw [startsThat_stop, hsame _ (by decide), hsame _ (by decide), h.succeeded]
  · rw [hsame _ (by decide), hentered, hgateway, h.stopped]
    cases s.gateway.state.isStarted <;> rfl

end Tallied

/-- **What others do in between** is counted nowhere. -/
theorem Visit.same {es : List Event} {s s' : Site} (h : Visit es s s') :
    s'.gateway = s.gateway ∧ s'.metrics.transitions = s.metrics.transitions := by
  cases h with
  | publish service value => exact ⟨rfl, rfl⟩
  | draw => exact ⟨rfl, rfl⟩
  | withdraw _ h =>
      obtain ⟨_, -, rfl⟩ := Site.eq_of_withdrawEntry h
      exact ⟨rfl, rfl⟩
  | request chain r => exact ⟨rfl, chain.transitions_router r s.toBackend⟩
  | authenticate r machineUid identity room =>
      exact ⟨rfl, s.toBackend.transitions_authenticate r machineUid identity room⟩
  | conferenceEnded r room =>
      exact ⟨rfl, s.toBackend.transitions_stepAt r (.conferenceEnded room)⟩
  | elapse ms => exact ⟨rfl, s.toBackend.transitions_elapse ms⟩
  | rewire net => exact ⟨rfl, rfl⟩

/-- **The counters agree with the log of every run.** -/
theorem Site.Logged.tallied {s₀ s : Site} {log : List (Action × Outcome)} (hg : s₀.gateway = {})
    (hnone : ∀ x, s₀.metrics.transitions x = 0) (h : Site.Logged s₀ log s) : Tallied log s := by
  induction h with
  | new => exact .new hg hnone
  | call _ a ih =>
      cases a with
      | start c => exact ih.start c
      | stop c => exact ih.stop c
  | visit _ hv ih => exact ih.congr hv.same.1 hv.same.2

/-! ### The counters and the run -/

/-- **The counters of transitions tell the run.**  Take a new gateway whose counters show nothing,
and any row of starts and stops, each under any conditions, with others at work in between.  Write
`c` for what is exported.

* `c configLoaded` is the number of starts that were not turned away because of an earlier one; and
  if no server makes that error its own, it is the number of those that do not give this error.
* Each of them has either found that no authority is wanted or selected one.
* The difference of `c authoritySelected` and `c published` is the number of starts that failed in
  the publication; that of `c published` and `c started` is the number of those that failed in the
  start of the authority or of the server.
* `c started` and `c disabled` together are the number of starts that succeeded.
* The gateway has come to the stopped state as often as it has left it, but for the last time if it
  is up. -/
theorem transition_counters_tell_the_run {s₀ s : Site} {log : List (Action × Outcome)}
    (hg : s₀.gateway = {}) (hnone : ∀ x, s₀.metrics.transitionsShown x = 0)
    (h : Site.Logged s₀ log s) :
    s.metrics.transitionsShown .configLoaded = startsThat log (fun o => !o.turnedAway) ∧
    ((∀ x ∈ log, x.1.conditions.serverStart ≠ some .alreadyStarted) →
      s.metrics.transitionsShown .configLoaded =
        startsThat log fun o => decide (o.result ≠ .error .alreadyStarted)) ∧
    s.metrics.transitionsShown .configLoaded =
      s.metrics.transitionsShown .disabled + s.metrics.transitionsShown .authoritySelected ∧
    s.metrics.transitionsShown .authoritySelected =
      s.metrics.transitionsShown .published + startsThat log (·.failedIn Call.publishes) ∧
    s.metrics.transitionsShown .published =
      s.metrics.transitionsShown .started + startsThat log (·.failedIn Call.starts) ∧
    s.metrics.transitionsShown .started + s.metrics.transitionsShown .disabled =
      startsThat log (fun o => decide (o.result = .ok ())) ∧
    s.metrics.transitionsShown .configLoaded = s.metrics.transitionsShown .stopped +
      if s.gateway.state = .started ∨ s.gateway.state = .disabled then 1 else 0 := by
  simp only [Metrics.transitionsShown_eq] at hnone ⊢
  have htallied := h.tallied hg hnone
  refine ⟨htallied.attempts, htallied.answers, htallied.selected, htallied.published,
    htallied.started, htallied.succeeded, ?_⟩
  simp only [← LifecycleState.isStarted_iff]
  exact htallied.stopped

/-- In a rehearsal of single sign-on the registry refuses the first start, and the server the second;
the third succeeds, and the fourth is turned away.  Three starts are counted, of which two have gone
back to the stopped state. -/
theorem counters_of_four_starts :
    let s₀ := Site.rehearsal (.numbered "session-") (.numbered "entry-") .recording
    let config := ConfigSource.ofProperties Deployment.shibboleth.settings
    let c := Conditions.ofRefusals config true
    let o₁ := s₀.start (c [.publish])
    let o₂ := o₁.site.start (c [.serverStart])
    let o₃ := o₂.site.start (c [])
    let o₄ := o₃.site.start (c [])
    let shown := o₄.site.metrics.transitionsShown
    shown .configLoaded = 3 ∧ shown .authoritySelected = shown .published + 1 ∧
      shown .published = shown .started + 1 ∧ shown .configLoaded = shown .stopped + 1 := by
  intro s₀ config c o₁ o₂ o₃ o₄ shown
  let log : List (Action × Outcome) :=
    [(.start (c [.publish]), o₁), (.start (c [.serverStart]), o₂), (.start (c []), o₃),
      (.start (c []), o₄)]
  have hlogged : Site.Logged s₀ log o₄.site :=
    .call (.call (.call (.call .new (.start (c [.publish]))) (.start (c [.serverStart])))
      (.start (c []))) (.start (c []))
  have hattempts : startsThat log (fun o => !o.turnedAway) = 3 := by decide +kernel
  have hpublish : startsThat log (·.failedIn Call.publishes) = 1 := by decide +kernel
  have hstart : startsThat log (·.failedIn Call.starts) = 1 := by decide +kernel
  have hup : o₄.site.gateway.state = .started := by decide +kernel
  obtain ⟨hloaded, -, -, hpublished, hstarted, -, hstopped⟩ :=
    transition_counters_tell_the_run rfl (fun x => by cases x <;> rfl) hlogged
  rw [hattempts] at hloaded
  rw [hpublish] at hpublished
  rw [hstart] at hstarted
  rw [if_pos (Or.inl hup)] at hstopped
  exact ⟨hloaded, hpublished, hstarted, hstopped⟩

end ConferenceAuth
