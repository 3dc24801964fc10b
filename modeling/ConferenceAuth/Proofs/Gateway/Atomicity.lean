/-
**A start succeeds, or it has never been.**

A start of a gateway that has started already is refused before anything is touched.  Any other
start that fails says why it failed, and not what went wrong while it was taken back; and it leaves
nothing behind: the gateway, the registry, the network and the readiness are as they were, nothing
of what was built for it runs, and from then on the gateway cannot be told from a new one.

Main definitions:

* `Undone` — what a start that has failed comes to.

Main results:

* `failed_start_is_undone` — **a start that fails is undone, and keeps its own error**.
-/
import ConferenceAuth.Proofs.Gateway.Invariant
import ConferenceAuth.Proofs.Gateway.Likeness
import ConferenceAuth.Proofs.Gateway.Unwinding

set_option autoImplicit false

namespace ConferenceAuth

/-- **What a start that has failed with an error comes to.** -/
structure Undone (s : Site) (c : Conditions) (e : GatewayError) (o : Outcome) : Prop where
  /-- The error is that of the first call that has failed, which was a publication, the start of an
  authority or the start of a server. -/
  first : ∃ done ev rest, o.events = done ++ ev :: rest ∧
    (∀ ev' ∈ done, ev'.call.failed = false) ∧ ev.call.failed = true ∧ ev.call.mayRefuse = true ∧
    ev.error? c = some e
  /-- Nothing runs of what was built, and nothing else has changed. -/
  restored : s.Restored o.site
  /-- The registry is as it was, if no withdrawal has failed. -/
  registry : lostBy o.events = [] → o.site.registry = s.registry
  /-- In every row of starts and stops that follows, the same is seen as of a new gateway. -/
  later : ∀ t : Site, t.IsNew → t.factory = s.factory → t.network = s.network →
    ∀ as, o.site.sightings as = t.sightings as

/-- A start that fails makes the calls of its first part, and then those of a stop. -/
theorem first_failure_of_start {s : Site} {c : Conditions} {e : GatewayError} (hg : s.gateway = {})
    (herror : (s.start c).result = .error e) :
    ∃ done ev rest, (s.start c).events = done ++ ev :: rest ∧
      (∀ ev' ∈ done, ev'.call.failed = false) ∧ ev.call.failed = true ∧
      ev.call.mayRefuse = true ∧ ev.error? c = some e := by
  have hattempt := Attempt.tryStart ⟨s, []⟩ c
  rcases htry : Progress.tryStart ⟨s, []⟩ c with ⟨_ | _, p⟩
  · next e' =>
    rw [Site.start_of_error hg htry] at herror ⊢
    cases herror
    rw [htry] at hattempt
    cases hattempt with
    | error more ev hevents hmore hrefuse hev =>
        -- the calls of the stop come behind it, so none of them is the first to fail
        obtain ⟨rest, hrest⟩ := p.events_stop c
        refine ⟨more, ev, rest, ?_, hmore, ?_, hrefuse, hev⟩
        · show (p.stop c).2.events = more ++ ev :: rest
          rw [hrest, hevents]
          simp
        · by_cases hfailed : ev.call.failed = true
          · exact hfailed
          · rw [Event.error?_of_not_failed (Bool.eq_false_iff.2 hfailed)] at hev
            cases hev
  · rw [Site.start_of_ok hg htry] at herror
    cases herror

/-- **A start that fails is undone, and keeps its own error.**  Take any run of a gateway, under any
conditions, with others at work in between, and a start after it:

* if the gateway has started already, the start is refused, and nothing is called or changed;
* if not, and if the start fails, its error is that of its first failing call, whatever fails while
  it is taken back, and it is undone. -/
theorem failed_start_is_undone {s₀ s : Site} {es : List Event} (h₀ : s₀.IsNew)
    (h : Site.Run (fun _ => True) Visit s₀ es s) (c : Conditions) :
    (s.gateway.state = .started ∨ s.gateway.state = .disabled →
      s.start c = ⟨.error .alreadyStarted, s, []⟩) ∧
    (¬ (s.gateway.state = .started ∨ s.gateway.state = .disabled) →
      ∀ e, (s.start c).result = .error e → Undone s c e (s.start c)) := by
  have hrest := h.atRest h₀
  constructor
  · intro hstate
    exact Site.start_of_isStarted ((LifecycleState.isStarted_iff _).2 hstate)
  · intro hstate e herror
    have hafter := (hrest.start c).rest
    cases hrest with
    | disabled hg _ => exact absurd (Or.inr (by rw [hg])) hstate
    | started hg _ _ => exact absurd (Or.inl (by rw [hg])) hstate
    | stopped hg haccounts =>
        obtain ⟨hrestored, hregistry⟩ := haccounts.restored_start hg herror
        refine ⟨first_failure_of_start hg herror, hrestored, hregistry, ?_⟩
        -- what is left holds nothing, so it and a new gateway are twins
        intro t ht hfactory hnetwork as
        have hnumbered : Numbered (s.start c).site.entryIds (s.start c).site.registry := by
          cases hafter with
          | stopped _ haccounts => exact haccounts.entries.toNumbered
          | disabled _ haccounts => exact haccounts.entries.toNumbered
          | started _ _ haccounts => exact haccounts.entries.toNumbered
        exact (Site.Twin.of_new hrestored.gateway ht.gateway hrestored.ready ht.ready
          (hrestored.factory.trans hfactory.symm) (hrestored.network.trans hnetwork.symm) hnumbered
          ⟨ht.distinct, ht.issued⟩).sightings_eq as

/-- In a rehearsal of single sign-on, servers refuse to start, and report failures when they stop:
the start gives the first of the two errors, and is undone.  The next start succeeds, and another
one is refused. -/
theorem undone_then_started_then_refused :
    let s₀ := Site.rehearsal (.numbered "session-") (.numbered "entry-") .recording
    let config := ConfigSource.ofProperties Deployment.shibboleth.settings
    let c := Conditions.ofRefusals config true [.serverStart, .serverStop]
    let c' := Conditions.ofRefusals config true []
    Undone s₀ c Refusal.serverStartError (s₀.start c) ∧
      (s₀.start c').site.start c' = ⟨.error .alreadyStarted, (s₀.start c').site, []⟩ := by
  intro s₀ config c c'
  have hnew : s₀.IsNew := Site.isNew_rehearsal _ (IdSource.distinct_numbered _) _
  have hstarted : (s₀.start c').site.gateway.state = .started := by decide +kernel
  exact ⟨(failed_start_is_undone hnew .new c).2 (by decide) _ rfl,
    (failed_start_is_undone hnew (.first trivial) c').1 (Or.inl hstarted)⟩

end ConferenceAuth
