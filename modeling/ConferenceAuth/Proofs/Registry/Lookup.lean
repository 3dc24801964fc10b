/-
**Which publication a look-up finds.**

Several values of one kind may be live under one service, as when two gateways share a registry.  A
look-up gives the first of them in the order in which the registry goes through its publications,
and no rule ties this order to that in which they were made.  So what is promised of a look-up is
that it finds one of the live values; that it finds the earliest is true in the order of publishing,
and in every order only when all of them are equal.

Main definitions:

* `Answers` — a live publication, with the value that a look-up can find in it;
* `FirstAnswer` — the value of the earliest such publication;
* `Enumeration.startingAt` — the order that begins at a given place.

Main results:

* `Registry.Run.published_eq` — a registry keeps what is live in the order of publishing;
* `Registry.Run.lookup_oldestFirst_iff` — in this order a look-up finds the earliest publication;
* `Registry.exists_lookup_of_mem` — every published value is found in some order;
* `lookup_finds_any_live_value` — **the answers to a look-up are the live values**, so it has one
  answer only when they are equal;
* `later_publication_is_found` — in some orders the earliest publication is not found.
-/
import Mathlib.Data.List.Rotate
import ConferenceAuth.Proofs.Registry.History

set_option autoImplicit false

namespace ConferenceAuth

variable {α β : Type}

/-! ### Answers to a look-up -/

section Answers

variable (es : List (RegistryEvent α)) (service : String) (view : α → Option β)

/-- **A publication answers a look-up with a value**: it is live, it was made under the service, and
the view accepts its value. -/
def Answers (p : Publication α) (b : β) : Prop :=
  LiveIn es p ∧ p.entry.service = service ∧ view p.value = some b

/-- **The first answer** is that of a publication before which none was made that answers. -/
def FirstAnswer (b : β) : Prop :=
  ∃ before p after, publicationsIn es = before ++ p :: after ∧ Answers es service view p b ∧
    ∀ q ∈ before, ∀ c, ¬ Answers es service view q c

/-- The answer of a publication, if it has one. -/
def answer? (p : Publication α) : Option β :=
  if p.entry ∉ withdrawnIn es then
    if p.entry.service = service then view p.value else none
  else none

variable {es service view}

theorem answers_iff {p : Publication α} {b : β} :
    Answers es service view p b ↔ p ∈ publicationsIn es ∧ answer? es service view p = some b := by
  simp only [Answers, LiveIn, answer?, Option.ite_none_right_eq_some, and_assoc]

/-- A publication that has been made does not answer when it has no answer. -/
theorem answer?_eq_none_iff {p : Publication α} (hp : p ∈ publicationsIn es) :
    answer? es service view p = none ↔ ∀ b, ¬ Answers es service view p b := by
  simp only [answers_iff, hp, true_and, Option.eq_none_iff_forall_ne_some, ne_eq]

/-- The first answer is found by going through the publications as they were made. -/
theorem firstAnswer_iff {b : β} :
    FirstAnswer es service view b ↔
      (publicationsIn es).findSome? (answer? es service view) = some b := by
  rw [List.findSome?_eq_some_iff]
  refine exists_congr fun before => exists_congr fun p => exists_congr fun after =>
    and_congr_right fun hmade => and_congr ?_ (forall₂_congr fun q hq => ?_)
  · rw [answers_iff, hmade]
    exact and_iff_right (List.mem_append_right before List.mem_cons_self)
  · exact (answer?_eq_none_iff (hmade ▸ List.mem_append_left _ hq)).symm

end Answers

/-! ### The order of publishing -/

theorem publicationsIn_concat (es : List (RegistryEvent α)) (ev : RegistryEvent α) :
    publicationsIn (es ++ [ev]) = publicationsIn es ++ ev.publication?.toList := by
  rw [publicationsIn_append]
  cases h : ev.publication? <;> simp [publicationsIn, h]

theorem withdrawnIn_concat (es : List (RegistryEvent α)) (ev : RegistryEvent α) :
    withdrawnIn (es ++ [ev]) = withdrawnIn es ++ ev.withdrawn?.toList := by
  rw [withdrawnIn_append]
  cases h : ev.withdrawn? <;> simp [withdrawnIn, h]

/-- The first value among the members that pass a test. -/
theorem findSome?_filter (l : List α) (p : α → Bool) (f : α → Option β) :
    (l.filter p).findSome? f = l.findSome? fun x => if p x then f x else none := by
  induction l with
  | nil => rfl
  | cons x l ih =>
      rw [List.filter_cons, List.findSome?_cons]
      cases p x with
      | false => simp [ih]
      | true => simp [List.findSome?_cons, ih]

/-! ### Other orders -/

/-- The order that begins at a given place and goes round. -/
def Enumeration.startingAt (i : Nat) : Enumeration := ⟨(·.rotate i), (·.rotate_perm i)⟩

namespace Registry

/-- **Every published value is found in some order**, under its service and by a view that accepts
it. -/
theorem exists_lookup_of_mem {r : Registry α} {service : String} {view : α → Option β}
    {p : Publication α} {b : β} (hp : p ∈ r.published.toList) (hs : p.entry.service = service)
    (hb : view p.value = some b) : ∃ en, r.lookup en service view = some b := by
  obtain ⟨before, after, hrows⟩ := List.append_of_mem hp
  refine ⟨.startingAt before.length, ?_⟩
  have horder : (Enumeration.startingAt before.length).order r.published.toList =
      p :: (after ++ before) := by
    rw [hrows]
    exact List.rotate_append_length_eq before (p :: after)
  rw [lookup, horder, List.findSome?_cons, if_pos hs, hb]

namespace Run

variable {ids₀ ids : IdSource} {es : List (RegistryEvent α)} {r : Registry α}

/-- **A registry keeps what is live in the order of publishing.** -/
theorem published_eq (hids : ids₀.Distinct) (h : Registry.Run ids₀ es ids r) :
    r.published.toList = (publicationsIn es).filter (·.entry ∉ withdrawnIn es) := by
  induction h with
  | new => rfl
  | make _ service ih =>
      rw [publicationsIn_concat, withdrawnIn_concat, ih]
      simp [RegistryEvent.publication?, RegistryEvent.withdrawn?]
  | @publish es ids r h service value ih =>
      have hr := h.recorded hids
      have hfresh : ∀ p ∈ r.published.toList, p.entry.id ≠ ids.current :=
        fun p hp => hr.id_ne_current (hr.mem_entries hp)
      have hnew : ⟨ids.current, service⟩ ∉ withdrawnIn es :=
        fun hmem => hr.id_ne_current (hr.given _ hmem) rfl
      rw [Registry.publish, Table.toList_insert_of_fresh hfresh, publicationsIn_concat,
        withdrawnIn_concat, ih]
      simp [RegistryEvent.publication?, RegistryEvent.withdrawn?, hnew]
  | @withdraw es ids r h e given ih =>
      have hr := h.recorded hids
      rw [publicationsIn_concat, withdrawnIn_concat]
      cases hholds : r.holds e with
      | false =>
          rw [attempt_of_not_holds hholds, ih]
          simp [RegistryEvent.publication?, RegistryEvent.withdrawn?]
      | true =>
          rw [attempt_of_holds hholds, Table.toList_erase, ih, List.filter_filter]
          simp only [RegistryEvent.publication?, RegistryEvent.withdrawn?, Option.toList_none,
            Option.toList_some, List.append_nil]
          refine List.filter_congr fun p hp => ?_
          -- of the entries given out, only the withdrawn one has its identifier
          have hid : p.entry.id = e.id ↔ p.entry = e :=
            ⟨hr.eq_of_id_eq (mem_entriesIn_of_publication hp) given, congrArg _⟩
          rw [Bool.eq_iff_iff]
          simp [hid, and_comm]

variable {service : String} {view : α → Option β}

/-- **In the order of publishing a look-up finds the earliest publication** that answers. -/
theorem lookup_oldestFirst_iff (hids : ids₀.Distinct) (h : Registry.Run ids₀ es ids r) {b : β} :
    r.lookup .oldestFirst service view = some b ↔ FirstAnswer es service view b := by
  have hlookup : r.lookup .oldestFirst service view =
      (publicationsIn es).findSome? (answer? es service view) := by
    rw [lookup, h.published_eq hids]
    refine (findSome?_filter ..).trans ?_
    simp only [decide_eq_true_eq]
    rfl
  rw [hlookup, firstAnswer_iff]

/-- What a look-up finds is the value of a publication that answers. -/
theorem answers_of_lookup (hids : ids₀.Distinct) (h : Registry.Run ids₀ es ids r)
    {en : Enumeration} {b : β} (hb : r.lookup en service view = some b) :
    ∃ p, Answers es service view p b := by
  obtain ⟨p, hp, hfits⟩ := exists_of_lookup_eq_some hb
  exact ⟨p, ((h.recorded hids).mem_iff p).1 hp, hfits⟩

/-- In every order, a look-up fails only when nothing answers. -/
theorem lookup_eq_none_iff_answers (hids : ids₀.Distinct) (h : Registry.Run ids₀ es ids r)
    {en : Enumeration} :
    r.lookup en service view = none ↔ ∀ p b, ¬ Answers es service view p b := by
  rw [lookup_eq_none_iff]
  refine forall_congr' fun p => ?_
  rw [(h.recorded hids).mem_iff]
  simp only [Answers, Option.eq_none_iff_forall_ne_some, not_and, ne_eq]
  exact ⟨fun hnone b hlive hs => hnone hlive hs b, fun hnone hlive hs b => hnone b hlive hs⟩

/-- Where all that answers has one value, all orders give it. -/
theorem lookup_eq_of_answers_eq (hids : ids₀.Distinct) (h : Registry.Run ids₀ es ids r)
    (heq : ∀ p q b c, Answers es service view p b → Answers es service view q c → b = c)
    (en en' : Enumeration) : r.lookup en service view = r.lookup en' service view := by
  cases hb : r.lookup en service view with
  | none =>
      rw [h.lookup_eq_none_iff_answers hids] at hb
      exact ((h.lookup_eq_none_iff_answers hids).2 hb).symm
  | some b =>
      obtain ⟨p, hp⟩ := h.answers_of_lookup hids hb
      cases hc : r.lookup en' service view with
      | none => exact absurd hp ((h.lookup_eq_none_iff_answers hids).1 hc p b)
      | some c =>
          obtain ⟨q, hq⟩ := h.answers_of_lookup hids hc
          rw [heq p q b c hp hq]

end Run

end Registry

/-! ### What a look-up finds -/

/-- **A look-up finds any of the live values.**  Let a registry have come about from an empty one in
any way, by a source that gives out no identifier twice.  Then, of a service and a kind of values,

* what a look-up finds in one order or another are the values of the live publications;
* it fails, in whatever order, exactly if there is no such publication;
* in the order of publishing it finds the value of the earliest one;
* it finds this value in every order exactly if all the live values are equal, and only then do two
  look-ups agree that go through the publications in orders of their own. -/
theorem lookup_finds_any_live_value {ids₀ : IdSource} (hids : ids₀.Distinct)
    {es : List (RegistryEvent α)} {ids : IdSource} {r : Registry α}
    (h : Registry.Run ids₀ es ids r) (service : String) (view : α → Option β) :
    (∀ b, (∃ en, r.lookup en service view = some b) ↔ ∃ p, Answers es service view p b) ∧
    (∀ en, r.lookup en service view = none ↔ ∀ p b, ¬ Answers es service view p b) ∧
    (∀ b, r.lookup .oldestFirst service view = some b ↔ FirstAnswer es service view b) ∧
    ((∀ en b, r.lookup en service view = some b → FirstAnswer es service view b) ↔
      ∀ p q b c, Answers es service view p b → Answers es service view q c → b = c) ∧
    ((∀ en en', r.lookup en service view = r.lookup en' service view) ↔
      ∀ p q b c, Answers es service view p b → Answers es service view q c → b = c) := by
  have hfound : ∀ p b, Answers es service view p b →
      ∃ en, r.lookup en service view = some b := by
    rintro p b ⟨hlive, hs, hb⟩
    exact Registry.exists_lookup_of_mem (((h.recorded hids).mem_iff p).2 hlive) hs hb
  refine ⟨fun b => ⟨fun ⟨en, hb⟩ => h.answers_of_lookup hids hb, fun ⟨p, hp⟩ => hfound p b hp⟩,
    fun en => h.lookup_eq_none_iff_answers hids, fun b => h.lookup_oldestFirst_iff hids,
    ⟨?_, ?_⟩, ?_, h.lookup_eq_of_answers_eq hids⟩
  · intro hfirst p q b c hp hq
    obtain ⟨en, hb⟩ := hfound p b hp
    obtain ⟨en', hc⟩ := hfound q c hq
    -- both are what is found in the order of publishing
    have hb' := (h.lookup_oldestFirst_iff hids).2 (hfirst en b hb)
    have hc' := (h.lookup_oldestFirst_iff hids).2 (hfirst en' c hc)
    exact Option.some.inj (hb'.symm.trans hc')
  · intro heq en b hb
    rw [h.lookup_eq_of_answers_eq hids heq en .oldestFirst] at hb
    exact (h.lookup_oldestFirst_iff hids).1 hb
  · intro hagree p q b c hp hq
    obtain ⟨en, hb⟩ := hfound p b hp
    obtain ⟨en', hc⟩ := hfound q c hq
    rw [hagree en en'] at hb
    exact Option.some.inj (hb.symm.trans hc)

/-- Two gateways share a registry of texts and numbers; a third one has withdrawn its text.  A
look-up of the texts finds that of the one gateway or of the other, depending on the order, and a
number is found in none. -/
theorem lookup_finds_either_of_two_texts :
    let ids := IdSource.numbered "e"
    let entry (n : Nat) : RegistryEntry := ⟨ids.nth n, "svc"⟩
    let text (s : String) : String ⊕ Nat := .inl s
    let all := ((({} : Registry (String ⊕ Nat)).publish (entry 0) (text "gone")).publish (entry 1)
      (text "x")).publish (entry 2) (text "y")
    let r := (all.attempt (entry 0)).2
    ids.Distinct ∧
      (∀ s, (∃ en, r.lookup en "svc" Sum.getLeft? = some s) ↔ s = "x" ∨ s = "y") ∧
      r.lookup .oldestFirst "svc" Sum.getLeft? = some "x" ∧
      ∀ en, r.lookup en "svc" Sum.getRight? = none := by
  intro ids entry text all r
  have hids : ids.Distinct := IdSource.distinct_numbered "e"
  have hrun : Registry.Run ids [.publish (entry 0) (text "gone"), .publish (entry 1) (text "x"),
      .publish (entry 2) (text "y"), .withdraw (entry 0) (all.attempt (entry 0)).1]
      ids.advance.advance.advance r :=
    .withdraw (.publish (.publish (.publish .new "svc" (text "gone")) "svc" (text "x")) "svc"
      (text "y")) List.mem_cons_self
  have hok : (all.attempt (entry 0)).1 = .ok () :=
    congrArg Prod.fst (Registry.attempt_of_holds (by decide +kernel))
  rw [hok] at hrun
  obtain ⟨htexts, -, hfirst, -⟩ := lookup_finds_any_live_value hids hrun "svc" Sum.getLeft?
  obtain ⟨-, hnumbers, -⟩ := lookup_finds_any_live_value hids hrun "svc" Sum.getRight?
  -- the two texts that are left
  have hlive : ∀ p, LiveIn [.publish (entry 0) (text "gone"), .publish (entry 1) (text "x"),
      .publish (entry 2) (text "y"), .withdraw (entry 0) (.ok ())] p ↔
      p = ⟨entry 1, text "x"⟩ ∨ p = ⟨entry 2, text "y"⟩ := by
    intro p
    show p ∈ [⟨entry 0, text "gone"⟩, ⟨entry 1, text "x"⟩, ⟨entry 2, text "y"⟩] ∧
      p.entry ∉ [entry 0] ↔ _
    have hne : entry 1 ≠ entry 0 ∧ entry 2 ≠ entry 0 := by decide
    simp only [List.mem_cons, List.not_mem_nil, or_false]
    constructor
    · rintro ⟨rfl | hp, hnew⟩
      · exact absurd rfl hnew
      · exact hp
    · rintro (rfl | rfl)
      · exact ⟨Or.inr (Or.inl rfl), hne.1⟩
      · exact ⟨Or.inr (Or.inr rfl), hne.2⟩
  refine ⟨hids, fun s => (htexts s).trans ?_, (hfirst "x").2 ?_, fun en => (hnumbers en).2 ?_⟩
  · simp only [Answers, hlive, or_and_right, exists_or, exists_eq_left]
    simp [entry, text, eq_comm]
  · refine ⟨[⟨entry 0, text "gone"⟩], ⟨entry 1, text "x"⟩, [⟨entry 2, text "y"⟩], rfl,
      ⟨(hlive _).2 (Or.inl rfl), rfl, rfl⟩, fun q hq c hc => ?_⟩
    -- what was published before them has been withdrawn
    rw [List.mem_singleton.1 hq] at hc
    exact hc.1.2 List.mem_cons_self
  · rintro p b ⟨hp, -, hb⟩
    rcases (hlive p).1 hp with rfl | rfl <;> cases hb

/-- **A later publication is found in place of the first.**  So it does not hold of all registries
and all orders that a look-up gives the value of the earliest publication that answers. -/
theorem later_publication_is_found :
    ¬ ∀ {α β : Type} (ids₀ : IdSource), ids₀.Distinct →
      ∀ (es : List (RegistryEvent α)) (ids : IdSource) (r : Registry α),
        Registry.Run ids₀ es ids r → ∀ (en : Enumeration) (service : String)
          (view : α → Option β) (b : β), r.lookup en service view = some b →
            FirstAnswer es service view b := by
  intro h
  let ids := IdSource.numbered "e"
  have hids : ids.Distinct := IdSource.distinct_numbered "e"
  have hrun := ((@Registry.Run.new String ids).publish "svc" "first").publish "svc" "later"
  have hlater := h ids hids _ _ _ hrun .newestFirst "svc" some "later" (by decide +kernel)
  have hfirst := (hrun.lookup_oldestFirst_iff hids).2 hlater
  exact absurd hfirst (by decide +kernel)

end ConferenceAuth
