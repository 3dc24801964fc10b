/-
**The order of what a gateway asks for.**

Starting and stopping take many calls, and between any two of them others can see how far the
gateway has come.  The order of the calls is such that nothing half-done is ever offered: a server
that runs has a running and published authority behind it, a gateway that is ready has everything
that it holds running, and an authority that a stop has stopped is not to be found in the registry.

Main results:

* `safe_at_every_point_of_a_call` — **at every point of every call** these three hold.
-/
import ConferenceAuth.Proofs.Gateway.Invariant

set_option autoImplicit false

namespace ConferenceAuth

variable {s₀ s : Site} {es : List Event}

theorem PointOf.lostBy_eq_nil {es done : List Event} {t : Site} (h : PointOf es done t)
    (hlost : lostBy es = []) : lostBy done = [] := by
  refine List.filterMap_eq_nil_iff.2 fun ev hev => ?_
  exact List.filterMap_eq_nil_iff.1 hlost ev (h.subset ev hev)

/-- Where no entry has been lost, an unexposed point shows nothing of the gateway's. -/
theorem Unexposed.live_eq_nil {done : List Event} {t : Site} (h : Unexposed es done t)
    (hlost : lostBy (es ++ done) = []) {ev : Event} (hev : ev ∈ done) {r : AuthorityRef}
    (hcall : ev.call = .stopAuthority r) : liveOf (es ++ done) t = [] := by
  refine List.filter_eq_nil_iff.2 fun e he hlive => ?_
  have hmem := h ev hev r hcall e he hlive
  rw [hlost] at hmem
  cases hmem

/-- **Nothing half-done is ever offered.**  Take any run of a gateway over a registry that does not
refuse to withdraw, and any start or stop after it, whatever else fails.  At every point of the
call:

* while a server of the gateway's runs, the authority runs and is published;
* while the gateway is ready, it is disabled, or it is started and the authority runs, is published,
  and runs behind a server that runs as well, if one is held;
* once the authority has been stopped, no entry of the gateway's is in the registry. -/
theorem safe_at_every_point_of_a_call {t : Site} {done : List Event} {c : Conditions} {o : Outcome}
    (h₀ : s₀.IsNew) (h : Site.Run (·.withdraw = .works) Visit s₀ es s) (hc : c.withdraw = .works)
    (ho : o = s.start c ∨ o = s.stop c) (ht : PointOf o.events done t) :
    (∀ v, s₀.nextServer ≤ v → t.runsServer v = true → t.Backed) ∧
      (t.ready = true → t.gateway.state = .disabled ∨
        (t.gateway.state = .started ∧ t.Backed ∧
          ∀ v, t.gateway.server = some v → t.runsServer v = true)) ∧
      ∀ ev ∈ done, ∀ r, ev.call = .stopAuthority r → liveOf (es ++ done) t = [] := by
  have hrest := h.atRest h₀
  have hpassed : Passed s₀ es o ∧ lostBy o.events = [] := by
    rcases ho with rfl | rfl
    · exact ⟨hrest.start c, hrest.lostBy_start hc⟩
    · exact ⟨hrest.stop c, hrest.lostBy_stop hc⟩
  obtain ⟨hpassed, hlost⟩ := hpassed
  have hguarded := hpassed.guarded done t ht
  refine ⟨hguarded.server, hguarded.ready, fun ev hev r hcall => ?_⟩
  -- what a stop has not lost it has withdrawn by the time it stops the authority
  have hnone : lostBy (es ++ done) = [] := by
    rw [lostBy_append, h.lostBy_eq_nil h₀, ht.lostBy_eq_nil hlost, List.append_nil]
  exact (hpassed.unexposed done t ht).live_eq_nil hnone hev hcall

/-- In a rehearsal of single sign-on, the gateway is ready at the last point of its start, in front
of an authority that runs and is published. -/
theorem backed_at_end_of_start :
    let s₀ := Site.rehearsal (.numbered "session-") (.numbered "entry-") .recording
    let o := s₀.start (.ofRefusals (.ofProperties Deployment.shibboleth.settings) true [])
    ∃ t, PointOf o.events o.events t ∧ t.ready = true ∧ t.runsServer 0 = true ∧ t.Backed := by
  intro s₀ o
  have hlast : (o.events.getLast?).any
      (fun ev => ev.after.ready && ev.after.runsServer 0) = true := by decide +kernel
  obtain ⟨ev, hev, hsite⟩ := (Option.any_eq_true ..).1 hlast
  obtain ⟨hready, hserver⟩ := Bool.and_eq_true_iff.1 hsite
  have hsafe := safe_at_every_point_of_a_call
    (Site.isNew_rehearsal _ (IdSource.distinct_numbered _) _)
    (Site.Run.new : Site.Run _ _ s₀ [] s₀) rfl (Or.inl (rfl : o = s₀.start _)) (PointOf.last hev)
  exact ⟨ev.after, .last hev, hready, hserver, hsafe.1 0 (Nat.zero_le _) hserver⟩

end ConferenceAuth
