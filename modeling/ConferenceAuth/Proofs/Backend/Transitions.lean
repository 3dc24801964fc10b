/-
**Who counts transitions.**

The counters of the transitions of a gateway stand among other metrics, and are exported as soon as
they have been increased.  Keepers write to the metrics when sessions come and go, and requests for a
login are counted there as well; but none of that touches the counters of transitions, so that they
tell of the gateway alone.

Main definitions:

* `Metrics.transitionsShown` — what is exported for a state.

Main results:

* `Metrics.transitionsShown_eq` — **the export shows each counter**, and zero for one that has not
  been touched;
* `Backend.transitions_stepAt`, `Backend.transitions_elapse`, `Chain.transitions_router` — no step
  of a keeper, no passing of time and no request touches them.
-/
import ConferenceAuth.Http.Chain
import ConferenceAuth.Proofs.Backend.Upkeep

set_option autoImplicit false

namespace ConferenceAuth

/-! ### What is exported -/

/-- Leaving out what is zero does not change what is read, when that counts as zero. -/
theorem lookup_filter_ne_zero (l : List (String × Nat)) (h : (l.map (·.1)).Nodup) (name : String) :
    ((l.filter (·.2 ≠ 0)).lookup name).getD 0 = (l.lookup name).getD 0 := by
  induction l with
  | nil => rfl
  | cons entry l ih =>
      obtain ⟨key, n⟩ := entry
      rw [List.map_cons, List.nodup_cons] at h
      have hrest := ih h.2
      by_cases hn : n = 0
      · rw [List.filter_cons_of_neg (by simp [hn]), hrest, List.lookup_cons, hn]
        cases hname : name == key with
        | false => rfl
        | true =>
            -- no other entry has the name
            have hnone : l.lookup name = none := by
              refine List.lookup_eq_none_iff.2 fun entry hentry => bne_iff_ne.2 fun heq => ?_
              exact h.1 (List.mem_map.2 ⟨entry, hentry, heq.symm.trans (beq_iff_eq.1 hname)⟩)
            rw [hnone]
            rfl
      · rw [List.filter_cons_of_pos (by simp [hn]), List.lookup_cons, List.lookup_cons]
        cases name == key with
        | false => exact hrest
        | true => rfl

namespace Metrics

/-- **What is exported for the transitions to a state**, and zero where nothing is. -/
def transitionsShown (m : Metrics) (x : LifecycleState) : Nat :=
  (m.entries.lookup (labelled "gateway_lifecycle_transitions_total" "state" x.name)).getD 0

/-- **The export shows each counter.** -/
theorem transitionsShown_eq (m : Metrics) (x : LifecycleState) :
    m.transitionsShown x = m.transitions x := by
  have hactive : (m.active.map fun n => ("gateway_auth_sessions_active", n)).toList.lookup
      (labelled "gateway_lifecycle_transitions_total" "state" x.name) = none := by
    cases m.active with
    | none => rfl
    | some n => cases x <;> rfl
  unfold transitionsShown entries
  rw [List.lookup_append, hactive, Option.none_or, lookup_filter_ne_zero]
  · cases x <;> rfl
  · -- the names do not depend on what has been counted
    show (["gateway_auth_sessions_expired_total"] ++
      LoginOutcome.all.map (fun o => labelled "gateway_sso_logins_total" "outcome" o.label) ++
      LifecycleState.all.map (fun s =>
        labelled "gateway_lifecycle_transitions_total" "state" s.name)).Nodup
    decide

end Metrics

/-! ### What does not touch the counters -/

theorem Moment.transitions_step (x : Moment) (st : KeeperStep) :
    (x.step st).metrics.transitions = x.metrics.transitions := by
  rcases x.step_cases st with ⟨-, -, hmetrics⟩ | ⟨-, -, hmetrics⟩
  · rw [hmetrics]
  · rw [hmetrics]
    rfl

namespace Backend

theorem transitions_stepAt (b : Backend) (a : AuthorityRef) (st : KeeperStep) :
    (b.stepAt a st).metrics.transitions = b.metrics.transitions := by
  unfold stepAt
  split
  · rfl
  · next x _ => exact (b.moment x).transitions_step st

theorem transitions_authenticate (b : Backend) (a : AuthorityRef)
    (machineUid identity room : String) :
    (b.authenticate a machineUid identity room).2.metrics.transitions = b.metrics.transitions := by
  unfold authenticate
  split
  · exact transitions_stepAt b a (.create b.sessionIds.current machineUid identity room)
  · rfl

theorem transitions_tickAll (now : Int) (as : List Authority) (m : Metrics) :
    (tickAll now as m).2.transitions = m.transitions := by
  have htick : ∀ (k : Keeper) (m : Metrics), (k.tick m now).2.transitions = m.transitions := by
    intro k m
    unfold Keeper.tick
    split
    · rfl
    · split <;> rfl
  induction as generalizing m with
  | nil => rfl
  | cons a as ih => exact (ih _).trans (htick a.keeper m)

theorem transitions_elapse (b : Backend) (ms : Nat) :
    (b.elapse ms).metrics.transitions = b.metrics.transitions :=
  transitions_tickAll (b.now + ms) b.authorities b.metrics

end Backend

/-! ### Requests -/

theorem Login.transitions_respond (a : AuthorityRef) (r : Request) (b : Backend) :
    (Login.respond a r b).2.metrics.transitions = b.metrics.transitions := by
  unfold Login.respond
  split
  · rfl
  · split
    · next room machineUid _ _ =>
        split
        · next identity _ =>
            exact b.transitions_stepAt a (.create b.sessionIds.current machineUid identity room)
        · rfl
    · rfl

theorem Endpoint.transitions_serve (e : Endpoint) (r : Request) (b : Backend) :
    (e.serve r b).2.metrics.transitions = b.metrics.transitions := by
  have hanswer : (e.answer r b).2.metrics.transitions = b.metrics.transitions := by
    cases e with
    | login a =>
        have hlogin : (login a).answer r b = Login.respond a r b := rfl
        rw [hlogin]
        exact Login.transitions_respond a r b
    | _ => rfl
  unfold Endpoint.serve
  split
  · exact hanswer
  · split
    · exact hanswer
    · rfl

/-- **No request touches the counters of transitions.** -/
theorem Chain.transitions_router (c : Chain) (r : Request) (b : Backend) :
    (c.router r b).2.metrics.transitions = b.metrics.transitions := by
  induction c with
  | nil => rfl
  | cons h c ih =>
      rw [Chain.router_cons]
      unfold Handler.router
      split
      · next e _ => exact e.transitions_serve r b
      · exact ih

end ConferenceAuth
