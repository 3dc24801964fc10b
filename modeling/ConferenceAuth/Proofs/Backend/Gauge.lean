/-
**What the gauge of stored sessions shows.**

All authorities of a backend record into the same metrics, and there is one gauge for all of them.
Whoever writes to a store leaves the size of this store in the gauge.  So the gauge shows how many
sessions the authority that wrote last has, whatever is stored elsewhere; it shows how many sessions
there are just when nothing is.

Main definitions:

* `Backend.stored`, `Backend.storedAt` — how many sessions there are, in all and at one authority;
* `BackendStep`, `Backend.step`, `Backend.run` — what happens to the authorities of a backend;
* `Backend.Writes`, `Backend.WritesLast` — who writes to a store in a step;
* `Backend.Quiet`, `Backend.LastWriter` — who has written last in a run.

Main results:

* `storedInAt_eq_storedIn_iff` — one authority has all sessions just when the others have none;
* `Backend.storedAt_step_of_not_writes` — who does not write keeps what is stored;
* `Backend.active_step_cases` — what a step leaves in the gauge;
* `gauge_shows_the_store_written_last` — **the gauge shows the store that was written to last**.
-/
import ConferenceAuth.Proofs.Backend.Upkeep

set_option autoImplicit false

namespace ConferenceAuth

/-! ### How many sessions there are -/

/-- How many sessions there are at some authorities. -/
def storedIn : List Authority → Nat
  | [] => 0
  | x :: as => x.keeper.sessions.size + storedIn as

/-- How many sessions there are at one of some authorities. -/
def storedInAt (as : List Authority) (i : Nat) : Nat :=
  (as[i]?.map (·.keeper.sessions.size)).getD 0

theorem storedIn_eq_zero_iff {as : List Authority} :
    storedIn as = 0 ↔ ∀ i, storedInAt as i = 0 := by
  induction as with
  | nil => exact iff_of_true rfl fun _ => rfl
  | cons x as ih =>
      rw [storedIn, Nat.add_eq_zero_iff, ih]
      constructor
      · rintro ⟨hx, has⟩ (_ | i)
        · exact hx
        · exact has i
      · exact fun h => ⟨h 0, fun i => h (i + 1)⟩

theorem storedInAt_le (as : List Authority) (i : Nat) : storedInAt as i ≤ storedIn as := by
  induction as generalizing i with
  | nil => exact Nat.zero_le _
  | cons x as ih =>
      rw [storedIn]
      cases i with
      | zero => exact Nat.le_add_right x.keeper.sessions.size (storedIn as)
      | succ i => exact Nat.le_trans (ih i) (Nat.le_add_left (storedIn as) x.keeper.sessions.size)

/-- **The sessions of one authority are all just when the others have none.** -/
theorem storedInAt_eq_storedIn_iff {as : List Authority} {i : Nat} :
    storedInAt as i = storedIn as ↔ ∀ j, j ≠ i → storedInAt as j = 0 := by
  induction as generalizing i with
  | nil => exact iff_of_true rfl fun _ _ => rfl
  | cons x as ih =>
      have hhead : storedInAt (x :: as) 0 = x.keeper.sessions.size := rfl
      have htail : ∀ j, storedInAt (x :: as) (j + 1) = storedInAt as j := fun _ => rfl
      rw [storedIn, ← hhead]
      cases i with
      | zero =>
          have hsum : storedInAt (x :: as) 0 = storedInAt (x :: as) 0 + storedIn as ↔
              storedIn as = 0 := by omega
          rw [hsum, storedIn_eq_zero_iff]
          constructor
          · rintro h (_ | j) hj
            · exact absurd rfl hj
            · exact h j
          · exact fun h j => h (j + 1) (Nat.succ_ne_zero j)
      | succ i =>
          have hle := storedInAt_le as i
          have hsum : storedInAt as i = storedInAt (x :: as) 0 + storedIn as ↔
              storedInAt (x :: as) 0 = 0 ∧ storedInAt as i = storedIn as := by omega
          rw [htail, hsum, ih]
          constructor
          · rintro ⟨hx, has⟩ (_ | j) hj
            · exact hx
            · exact has j fun h => hj (congrArg Nat.succ h)
          · exact fun h => ⟨h 0 (Nat.succ_ne_zero i).symm, fun j hj => h (j + 1) (by omega)⟩

namespace Backend

/-- **How many sessions there are.** -/
def stored (b : Backend) : Nat := storedIn b.authorities

/-- How many sessions an authority has. -/
def storedAt (b : Backend) (a : AuthorityRef) : Nat := storedInAt b.authorities a

theorem storedAt_eq (b : Backend) (a : AuthorityRef) :
    b.storedAt a = ((b.authority? a).map (·.keeper.sessions.size)).getD 0 := rfl

theorem storedAt_enroll (b : Backend) (variant : AuthorityVariant) (config : GatewayConfig)
    (a : AuthorityRef) : (b.enroll (.ofVariant variant config)).storedAt a = b.storedAt a := by
  rw [storedAt_eq, storedAt_eq, authority?, authority?, enroll, List.getElem?_append]
  split
  · rfl
  · next h =>
      rw [List.getElem?_eq_none (Nat.le_of_not_lt h)]
      cases a - b.authorities.length <;> rfl

end Backend

/-! ### Runs of a backend -/

/-- What may happen to the authorities of a backend. -/
inductive BackendStep where
  /-- An authority is built, not running and without sessions. -/
  | enroll (variant : AuthorityVariant) (config : GatewayConfig)
  /-- A step of one authority; as time passes, its sweeper may be ahead of the others. -/
  | keeper (a : AuthorityRef) (st : KeeperStep)
  | elapse (ms : Nat)

namespace Backend

def step (b : Backend) : BackendStep → Backend
  | .enroll variant config => b.enroll (.ofVariant variant config)
  | .keeper a st => b.stepAt a st
  | .elapse ms => b.elapse ms

def run (b : Backend) (steps : List BackendStep) : Backend := steps.foldl step b

/-! ### Who writes -/

/-- Whether an authority writes to its store in a step. -/
def Writes (b : Backend) (a : AuthorityRef) : BackendStep → Prop
  | .enroll _ _ => False
  | .keeper a' st => a' = a ∧ ∃ x, b.authority? a = some x ∧ (b.moment x).writes st = true
  | .elapse ms => ∃ x, b.authority? a = some x ∧ (b.moment x).writes (.advance ms) = true

/-- Whether an authority is the last one to write to its store in a step. -/
def WritesLast (b : Backend) (a : AuthorityRef) (st : BackendStep) : Prop :=
  b.Writes a st ∧ ∀ a', a < a' → ¬ b.Writes a' st

/-- **Who does not write keeps what is stored.** -/
theorem storedAt_step_of_not_writes {b : Backend} {a : AuthorityRef} {st : BackendStep}
    (h : ¬ b.Writes a st) : (b.step st).storedAt a = b.storedAt a := by
  cases st with
  | enroll variant config => exact b.storedAt_enroll variant config a
  | keeper a' st =>
      rw [storedAt_eq, storedAt_eq, step, authority?_stepAt]
      cases hx : b.authority? a with
      | none => rfl
      | some x =>
          by_cases ha : a' = a
          · have hkept := (b.moment x).sessions_step_of_not_writes
              fun hw => h ⟨ha, x, hx, hw⟩
            simp only [Option.map_some, Option.getD_some, if_pos ha, hkept]
            rfl
          · simp only [Option.map_some, Option.getD_some, if_neg ha]
  | elapse ms =>
      rw [storedAt_eq, storedAt_eq, step, authority?_elapse]
      cases hx : b.authority? a with
      | none => rfl
      | some x =>
          have hkept := (b.moment x).sessions_step_of_not_writes fun hw => h ⟨x, hx, hw⟩
          simp only [Option.map_some, Option.getD_some, hkept]
          rfl

/-! ### What a step leaves in the gauge -/

/-- Whether the sweeper of an authority is due when time passes. -/
def Due (now : Int) (ms : Nat) (m : Metrics) (as : List Authority) (i : Nat) : Prop :=
  ∃ x, as[i]? = some x ∧ (Moment.mk now x.keeper m).writes (.advance ms) = true

/-- **The last sweep that is due sets the gauge.** -/
theorem active_tickAll (now : Int) (ms : Nat) (as : List Authority) (m m₀ : Metrics) :
    (∃ i, Due now ms m₀ as i ∧ (∀ j, i < j → ¬ Due now ms m₀ as j) ∧
      (tickAll (now + ms) as m).2.active =
        (tickAll (now + ms) as m).1[i]?.map (·.keeper.sessions.size)) ∨
    ((∀ i, ¬ Due now ms m₀ as i) ∧ (tickAll (now + ms) as m).2.active = m.active) := by
  induction as generalizing m with
  | nil => exact Or.inr ⟨(fun i h => by obtain ⟨x, hx, -⟩ := h; cases hx), rfl⟩
  | cons x as ih =>
      rcases ih (x.keeper.tick m (now + ms)).2 with ⟨i, hi, hlast, hactive⟩ | ⟨hnone, hactive⟩
      · refine Or.inl ⟨i + 1, hi, fun j hj => ?_, hactive⟩
        cases j with
        | zero => exact absurd hj (Nat.not_lt_zero (i + 1))
        | succ j => exact hlast j (Nat.lt_of_succ_lt_succ hj)
      · -- nobody behind it sweeps, so it is this sweep that counts
        have hstep := (Moment.mk now x.keeper m).active_step (.advance ms)
        by_cases hdue : (Moment.mk now x.keeper m).writes (.advance ms) = true
        · rw [if_pos hdue] at hstep
          refine Or.inl ⟨0, ⟨x, rfl, hdue⟩, fun j hj => ?_, hactive.trans hstep⟩
          cases j with
          | zero => exact absurd hj (Nat.lt_irrefl 0)
          | succ j => exact hnone j
        · rw [if_neg hdue] at hstep
          refine Or.inr ⟨fun i => ?_, hactive.trans hstep⟩
          cases i with
          | zero =>
              rintro ⟨y, hy, hw⟩
              cases hy
              exact hdue hw
          | succ i => exact hnone i

/-- **Whoever writes last in a step leaves the number of its sessions in the gauge**; if nobody
writes, the gauge does not change. -/
theorem active_step_cases (b : Backend) (st : BackendStep) :
    (∃ a, b.WritesLast a st ∧ (b.step st).metrics.active = some ((b.step st).storedAt a)) ∨
    ((∀ a, ¬ b.Writes a st) ∧ (b.step st).metrics.active = b.metrics.active) := by
  cases st with
  | enroll variant config => exact Or.inr ⟨fun _ h => h, rfl⟩
  | keeper a st =>
      cases hx : b.authority? a with
      | none =>
          refine Or.inr ⟨?_, by simp [step, stepAt, hx]⟩
          rintro a' ⟨rfl, x, hx', -⟩
          rw [hx] at hx'
          cases hx'
      | some x =>
          have hmetrics : (b.stepAt a st).metrics = ((b.moment x).step st).metrics := by
            simp [stepAt, hx, updateKeeper]
          have hstored : (b.stepAt a st).storedAt a =
              ((b.moment x).step st).keeper.sessions.size := by
            rw [storedAt_eq, authority?_stepAt, hx]
            simp
          have hactive := (b.moment x).active_step st
          rw [← hmetrics, ← hstored] at hactive
          by_cases hw : (b.moment x).writes st = true
          · rw [if_pos hw] at hactive
            refine Or.inl ⟨a, ⟨⟨rfl, x, hx, hw⟩, ?_⟩, hactive⟩
            rintro a' hlt ⟨rfl, -⟩
            exact Nat.lt_irrefl a hlt
          · rw [if_neg hw] at hactive
            refine Or.inr ⟨?_, hactive⟩
            rintro a' ⟨rfl, x', hx', hw'⟩
            rw [hx] at hx'
            cases hx'
            exact hw hw'
  | elapse ms =>
      rcases active_tickAll b.now ms b.authorities b.metrics b.metrics with
        ⟨a, hdue, hlast, hactive⟩ | ⟨hnone, hactive⟩
      · refine Or.inl ⟨a, ⟨hdue, hlast⟩, ?_⟩
        obtain ⟨x, hx, -⟩ := hdue
        have hafter : (b.elapse ms).authority? a =
            some { x with keeper := ((b.moment x).step (.advance ms)).keeper } := by
          rw [authority?_elapse, authority?, hx, Option.map_some]
        rw [step, storedAt_eq, hafter]
        exact hactive.trans (congrArg (Option.map fun x => x.keeper.sessions.size) hafter)
      · exact Or.inr ⟨hnone, hactive⟩

/-! ### What a run leaves in the gauge -/

/-- Nobody writes to a store in a run. -/
def Quiet (b : Backend) : List BackendStep → Prop
  | [] => True
  | st :: steps => (∀ a, ¬ b.Writes a st) ∧ (b.step st).Quiet steps

/-- **An authority is the last one to write to its store in a run.** -/
def LastWriter (b : Backend) (a : AuthorityRef) : List BackendStep → Prop
  | [] => False
  | st :: steps =>
      (b.step st).LastWriter a steps ∨ (b.WritesLast a st ∧ (b.step st).Quiet steps)

/-- In a quiet run nothing that is stored changes, nor does the gauge. -/
theorem run_of_quiet {b : Backend} {steps : List BackendStep} (h : b.Quiet steps) :
    (b.run steps).metrics.active = b.metrics.active ∧
      ∀ a, (b.run steps).storedAt a = b.storedAt a := by
  induction steps generalizing b with
  | nil => exact ⟨rfl, fun _ => rfl⟩
  | cons st steps ih =>
      obtain ⟨hst, hsteps⟩ := h
      obtain ⟨hactive, hstored⟩ := ih hsteps
      refine ⟨hactive.trans ?_, fun a => (hstored a).trans (storedAt_step_of_not_writes (hst a))⟩
      rcases b.active_step_cases st with ⟨a, ⟨hw, -⟩, -⟩ | ⟨-, hkept⟩
      · exact absurd hw (hst a)
      · exact hkept

/-- The gauge shows what is stored where a run has written last. -/
theorem active_run_of_lastWriter {b : Backend} {a : AuthorityRef} {steps : List BackendStep}
    (h : b.LastWriter a steps) :
    (b.run steps).metrics.active = some ((b.run steps).storedAt a) := by
  induction steps generalizing b with
  | nil => exact h.elim
  | cons st steps ih =>
      rcases h with h | ⟨⟨hw, hlast⟩, hquiet⟩
      · exact ih h
      · obtain ⟨hactive, hstored⟩ := run_of_quiet hquiet
        rcases b.active_step_cases st with ⟨a', ⟨hw', hlast'⟩, hset⟩ | ⟨hnone, -⟩
        · -- only one authority is the last
          have ha : a' = a := by
            rcases Nat.lt_trichotomy a a' with hlt | heq | hlt
            · exact absurd hw' (hlast a' hlt)
            · exact heq.symm
            · exact absurd hw (hlast' a hlt)
          subst ha
          exact hactive.trans (hset.trans (congrArg some (hstored a').symm))
        · exact absurd hw (hnone a)

/-- Somebody has written last in a run, unless nobody has written. -/
theorem quiet_or_lastWriter (b : Backend) (steps : List BackendStep) :
    b.Quiet steps ∨ ∃ a, b.LastWriter a steps := by
  induction steps generalizing b with
  | nil => exact Or.inl trivial
  | cons st steps ih =>
      rcases ih (b.step st) with hquiet | ⟨a, hlast⟩
      · rcases b.active_step_cases st with ⟨a, hlast, -⟩ | ⟨hnone, -⟩
        · exact Or.inr ⟨a, Or.inr ⟨hlast, hquiet⟩⟩
        · exact Or.inl ⟨hnone, hquiet⟩
      · exact Or.inr ⟨a, Or.inl hlast⟩

/-! ### A conference that ends at an authority without sessions -/

/-- Where a conference ends at an authority without sessions, nothing is dropped; but if the
authority drops the sessions of a conference that ends, the gauge shows that it has none. -/
theorem conferenceEnded_of_empty {b : Backend} {a : AuthorityRef} {x : Authority}
    (hx : b.authority? a = some x) (hempty : x.keeper.sessions = .empty)
    (hdrop : x.keeper.disableAutologin = true) (room : String) :
    (b.conferenceEnded a room).metrics.active = some 0 ∧
      ∀ a', (b.conferenceEnded a room).storedAt a' = b.storedAt a' := by
  have hat : b.storedAt a = 0 := by
    rw [storedAt_eq, hx, Option.map_some, hempty]
    rfl
  have hafter : (b.conferenceEnded a room).storedAt a = 0 := by
    rw [storedAt_eq, conferenceEnded_eq_stepAt, authority?_stepAt, hx]
    simp [moment, Moment.step, Moment.withKeeper, Keeper.conferenceEnded, hdrop,
      Keeper.removeRoom, SessionStore.removeRoom, hempty, Table.size]
  have hwrites : b.WritesLast a (.keeper a (.conferenceEnded room)) := by
    refine ⟨⟨rfl, x, hx, hdrop⟩, ?_⟩
    rintro a' hlt ⟨rfl, -⟩
    exact Nat.lt_irrefl a hlt
  refine ⟨?_, fun a' => ?_⟩
  · have hshown : (b.run [.keeper a (.conferenceEnded room)]).metrics.active =
        some ((b.conferenceEnded a room).storedAt a) :=
      active_run_of_lastWriter (Or.inr ⟨hwrites, trivial⟩)
    rw [hafter] at hshown
    exact hshown
  · by_cases ha : a = a'
    · subst ha
      rw [hafter, hat]
    · have hkept : (b.step (.keeper a (.conferenceEnded room))).storedAt a' = b.storedAt a' :=
        storedAt_step_of_not_writes fun h => ha h.1
      exact hkept

end Backend

/-! ### One gauge for all authorities -/

/-- **The gauge shows the store that was written to last.**  Let any authorities be built behind one
gauge, and let them take any steps: sessions are created, looked up and dropped, conferences end,
authorities are started and stopped, time passes and sweepers run.  Then

* as long as nobody has written to a store, the gauge is untouched and there are no sessions;
* otherwise somebody was the last one to write, and the gauge shows how many sessions this authority
  has.  It shows how many sessions there are just when no other authority has any;
* if then a conference ends at an authority that drops the sessions of such a conference, but has
  none, the gauge shows zero, although everything that is stored elsewhere remains. -/
theorem gauge_shows_the_store_written_last (now : Int) (ids : IdSource)
    (steps : List BackendStep) :
    let start : Backend := { now, sessionIds := ids }
    let b := start.run steps
    ((start.Quiet steps ∧ b.metrics.active = none ∧ b.stored = 0) ∨
      ∃ a, start.LastWriter a steps ∧ b.metrics.active = some (b.storedAt a) ∧
        (b.metrics.active = some b.stored ↔ ∀ a', a' ≠ a → b.storedAt a' = 0)) ∧
    ∀ a x room, b.authority? a = some x → x.keeper.disableAutologin = true →
      x.keeper.sessions = .empty →
        (b.conferenceEnded a room).metrics.active = some 0 ∧
        ∀ a', (b.conferenceEnded a room).storedAt a' = b.storedAt a' := by
  intro start b
  refine ⟨?_, fun a x room hx hdrop hempty => Backend.conferenceEnded_of_empty hx hempty hdrop room⟩
  rcases start.quiet_or_lastWriter steps with hquiet | ⟨a, hlast⟩
  · obtain ⟨hactive, hstored⟩ := Backend.run_of_quiet hquiet
    -- nothing was stored in the beginning
    exact Or.inl ⟨hquiet, hactive, storedIn_eq_zero_iff.2 hstored⟩
  · have hactive := Backend.active_run_of_lastWriter hlast
    refine Or.inr ⟨a, hlast, hactive, ?_⟩
    rw [hactive, Option.some_inj]
    exact storedInAt_eq_storedIn_iff

/-- **A conference that ends at a stopped authority hides the session of another one.**  So it does
not hold of all runs that the gauge, once touched, shows how many sessions there are. -/
theorem ended_conference_hides_a_session_elsewhere :
    ¬ ∀ (now : Int) (ids : IdSource) (steps : List BackendStep) (n : Nat),
      (Backend.run { now, sessionIds := ids } steps).metrics.active = some n →
        n = (Backend.run { now, sessionIds := ids } steps).stored := by
  intro h
  let sso : BackendStep :=
    .enroll (.shibboleth "https://sso.example.com" none) { disableAutologin := true }
  have hzero := h 0 (.numbered "session-")
    [sso, .keeper 0 (.start true), .keeper 0 .stop,
      sso, .keeper 1 (.create "session-0" "m1" "alice@example.com" "room1"),
      .keeper 0 (.conferenceEnded "room2")] 0 (by decide +kernel)
  exact absurd hzero (by decide +kernel)

end ConferenceAuth
