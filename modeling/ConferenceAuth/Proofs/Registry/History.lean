/-
**The history of a service registry.**

A registry begins empty.  Values are published in it, entries are made that nothing is published
under, and entries that have been given out are withdrawn, in any order and as often as one likes; a
withdrawal that fails leaves the registry as it was.  No two entries are given the same identifier,
so what the registry holds can be read off this history: a publication is live from the moment at
which it is made until its entry is withdrawn, however many others are equal to it in service and
value, and an entry that has only been made ends none of them.

Main definitions:

* `Registry.attempt` — a withdrawal with the registry that it leaves;
* `RegistryEvent`, `publicationsIn`, `entriesIn`, `withdrawnIn` — a history, and what it tells;
* `LiveIn` — the publications that have been made and not been withdrawn;
* `Registry.Run` — the runs of a registry.

Main results:

* `Recorded.publish`, `Recorded.make`, `Recorded.withdraw` — one more event;
* `Registry.Run.recorded` — **a registry holds exactly what is live in its history**;
* `registry_holds_what_is_live` — so the history decides each withdrawal and each look-up.
-/
import ConferenceAuth.Proofs.Issued
import ConferenceAuth.Registry

set_option autoImplicit false

namespace ConferenceAuth

variable {α : Type}

/-! ### Withdrawals -/

namespace Registry

/-- **A withdrawal with the registry that it leaves**, which is the same one if it fails. -/
def attempt (r : Registry α) (entry : RegistryEntry) : Except HostError Unit × Registry α :=
  match r.withdraw entry with
  | .ok r' => (.ok (), r')
  | .error e => (.error e, r)

theorem attempt_of_holds {r : Registry α} {entry : RegistryEntry} (h : r.holds entry = true) :
    r.attempt entry = (.ok (), ⟨r.published.erase entry.id⟩) := by
  rw [attempt, withdraw_of_holds h]

theorem attempt_of_not_holds {r : Registry α} {entry : RegistryEntry}
    (h : r.holds entry = false) :
    r.attempt entry = (.error (.entryNotFound entry.display), r) := by
  rw [attempt, withdraw_of_not_holds h]

end Registry

/-! ### Histories -/

/-- An event in the history of a registry. -/
inductive RegistryEvent (α : Type) where
  /-- A value is published, under an entry that is given back. -/
  | publish (entry : RegistryEntry) (value : α)
  /-- An entry is made that nothing is published under. -/
  | make (entry : RegistryEntry)
  | withdraw (entry : RegistryEntry) (result : Except HostError Unit)

namespace RegistryEvent

def publication? : RegistryEvent α → Option (Publication α)
  | publish entry value => some ⟨entry, value⟩
  | _ => none

/-- The entry that is given out. -/
def entry? : RegistryEvent α → Option RegistryEntry
  | publish entry _ | make entry => some entry
  | withdraw _ _ => none

/-- The entry that is withdrawn with success. -/
def withdrawn? : RegistryEvent α → Option RegistryEntry
  | withdraw entry (.ok ()) => some entry
  | _ => none

end RegistryEvent

/-- The publications of a history, in the order in which they were made. -/
def publicationsIn (es : List (RegistryEvent α)) : List (Publication α) :=
  es.filterMap RegistryEvent.publication?

/-- The entries that have been given out, with a publication or without one. -/
def entriesIn (es : List (RegistryEvent α)) : List RegistryEntry :=
  es.filterMap RegistryEvent.entry?

/-- The entries whose withdrawal has succeeded. -/
def withdrawnIn (es : List (RegistryEvent α)) : List RegistryEntry :=
  es.filterMap RegistryEvent.withdrawn?

/-- **A publication is live**: it has been made, and its entry has not been withdrawn. -/
def LiveIn (es : List (RegistryEvent α)) (p : Publication α) : Prop :=
  p ∈ publicationsIn es ∧ p.entry ∉ withdrawnIn es

@[simp] theorem publicationsIn_append (es es' : List (RegistryEvent α)) :
    publicationsIn (es ++ es') = publicationsIn es ++ publicationsIn es' := List.filterMap_append

@[simp] theorem entriesIn_append (es es' : List (RegistryEvent α)) :
    entriesIn (es ++ es') = entriesIn es ++ entriesIn es' := List.filterMap_append

@[simp] theorem withdrawnIn_append (es es' : List (RegistryEvent α)) :
    withdrawnIn (es ++ es') = withdrawnIn es ++ withdrawnIn es' := List.filterMap_append

theorem mem_entriesIn_of_publication {es : List (RegistryEvent α)} {p : Publication α}
    (h : p ∈ publicationsIn es) : p.entry ∈ entriesIn es := by
  obtain ⟨ev, hev, hp⟩ := List.mem_filterMap.1 h
  cases ev with
  | publish entry value =>
      cases hp
      exact List.mem_filterMap.2 ⟨_, hev, rfl⟩
  | make entry => cases hp
  | withdraw entry result => cases hp

/-! ### What the history says of the registry -/

/-- **A history and a registry agree**: the registry holds what is live, and of what has been
published it lacks as many as have been withdrawn. -/
structure Recorded (es : List (RegistryEvent α)) (ids : IdSource) (r : Registry α) : Prop
    extends ids.GivenOut ((entriesIn es).map (·.id)) where
  mem_iff : ∀ p, p ∈ r.published.toList ↔ LiveIn es p
  /-- Only what has been given out can have been withdrawn. -/
  given : ∀ e ∈ withdrawnIn es, e ∈ entriesIn es
  size_eq : r.size + (withdrawnIn es).length = (publicationsIn es).length

namespace Recorded

variable {es : List (RegistryEvent α)} {ids : IdSource} {r : Registry α}

theorem nil (h : ids.Distinct) : Recorded ([] : List (RegistryEvent α)) ids {} where
  toGivenOut := .nil h
  mem_iff := by intro p; simp [LiveIn, publicationsIn]
  given := by intro e he; cases he
  size_eq := rfl

theorem mem_entries (h : Recorded es ids r) {p : Publication α} (hp : p ∈ r.published.toList) :
    p.entry ∈ entriesIn es := mem_entriesIn_of_publication ((h.mem_iff p).1 hp).1

theorem id_ne_current (h : Recorded es ids r) {e : RegistryEntry} (he : e ∈ entriesIn es) :
    e.id ≠ ids.current := h.ne_current (List.mem_map_of_mem he)

/-- Entries with the same identifier are the same. -/
theorem eq_of_id_eq (h : Recorded es ids r) {e e' : RegistryEntry} (he : e ∈ entriesIn es)
    (he' : e' ∈ entriesIn es) (hid : e.id = e'.id) : e = e' :=
  Table.eq_of_key_eq (t := ⟨entriesIn es, h.nodup⟩) he he' hid

/-- One more entry is given out. -/
theorem givenOut_concat (h : Recorded es ids r) {es' : List (RegistryEvent α)} {service : String}
    (hentries : entriesIn es' = entriesIn es ++ [⟨ids.current, service⟩]) :
    ids.advance.GivenOut ((entriesIn es').map (·.id)) := by
  rw [hentries, List.map_append]
  exact h.toGivenOut.concat

/-- The registry holds an entry that has been given out exactly when its publication is live. -/
theorem holds_iff (h : Recorded es ids r) {e : RegistryEntry} (he : e ∈ entriesIn es) :
    r.holds e = true ↔ ∃ value, LiveIn es ⟨e, value⟩ := by
  rw [Registry.holds_iff]
  constructor
  · rintro ⟨⟨entry, value⟩, hp, hid⟩
    obtain rfl : entry = e := h.eq_of_id_eq (h.mem_entries hp) he hid
    exact ⟨value, (h.mem_iff _).1 hp⟩
  · rintro ⟨value, hlive⟩
    exact ⟨_, (h.mem_iff _).2 hlive, rfl⟩

/-- **One more value is published.** -/
theorem publish (h : Recorded es ids r) (service : String) (value : α) :
    Recorded (es ++ [.publish ⟨ids.current, service⟩ value]) ids.advance
      (r.publish ⟨ids.current, service⟩ value) := by
  have hfresh : ∀ p ∈ r.published.toList, p.entry.id ≠ ids.current :=
    fun p hp => h.id_ne_current (h.mem_entries hp)
  -- the new entry has not been withdrawn yet, as it is none of those given out so far
  have hnew : ⟨ids.current, service⟩ ∉ withdrawnIn es :=
    fun hmem => h.id_ne_current (h.given _ hmem) rfl
  have hpublications : publicationsIn (es ++ [.publish ⟨ids.current, service⟩ value]) =
      publicationsIn es ++ [⟨⟨ids.current, service⟩, value⟩] := publicationsIn_append ..
  have hentries : entriesIn (es ++ [.publish ⟨ids.current, service⟩ value]) =
      entriesIn es ++ [⟨ids.current, service⟩] := entriesIn_append ..
  have hwithdrawn : withdrawnIn (es ++ [.publish ⟨ids.current, service⟩ value]) =
      withdrawnIn es := (withdrawnIn_append ..).trans (List.append_nil _)
  refine ⟨h.givenOut_concat hentries, fun p => ?_, fun e he => ?_, ?_⟩
  · rw [Registry.publish, Table.toList_insert_of_fresh hfresh, List.mem_append, h.mem_iff, LiveIn,
      LiveIn, hpublications, hwithdrawn, List.mem_append, List.mem_singleton, or_and_right]
    refine or_congr_right ⟨fun hp => ⟨hp, ?_⟩, And.left⟩
    rw [hp]
    exact hnew
  · rw [hentries]
    exact List.mem_append_left _ (h.given e (hwithdrawn ▸ he))
  · have hsize : (r.publish ⟨ids.current, service⟩ value).size = r.size + 1 :=
      Table.size_insert hfresh
    rw [hpublications, hwithdrawn, List.length_append, hsize, ← h.size_eq, List.length_singleton]
    omega

/-- **One more entry is made**, and nothing is published under it. -/
theorem make (h : Recorded es ids r) (service : String) :
    Recorded (es ++ [.make ⟨ids.current, service⟩]) ids.advance r := by
  have hpublications : publicationsIn (es ++ [.make ⟨ids.current, service⟩]) =
      publicationsIn es := (publicationsIn_append ..).trans (List.append_nil _)
  have hentries : entriesIn (es ++ [.make ⟨ids.current, service⟩]) =
      entriesIn es ++ [⟨ids.current, service⟩] := entriesIn_append ..
  have hwithdrawn : withdrawnIn (es ++ [.make ⟨ids.current, service⟩]) = withdrawnIn es :=
    (withdrawnIn_append ..).trans (List.append_nil _)
  refine ⟨h.givenOut_concat hentries, fun p => ?_, fun e he => ?_, ?_⟩
  · rw [h.mem_iff, LiveIn, LiveIn, hpublications, hwithdrawn]
  · rw [hentries]
    exact List.mem_append_left _ (h.given e (hwithdrawn ▸ he))
  · rw [hpublications, hwithdrawn, h.size_eq]

/-- **An entry that has been given out is withdrawn**, or fails to be. -/
theorem withdraw (h : Recorded es ids r) {e : RegistryEntry} (he : e ∈ entriesIn es) :
    Recorded (es ++ [.withdraw e (r.attempt e).1]) ids (r.attempt e).2 := by
  have hentries : ∀ result, entriesIn (es ++ [.withdraw e result]) = entriesIn es :=
    fun _ => (entriesIn_append ..).trans (List.append_nil _)
  have hpublications : ∀ result, publicationsIn (es ++ [.withdraw e result]) =
      publicationsIn es := fun _ => (publicationsIn_append ..).trans (List.append_nil _)
  cases hholds : r.holds e with
  | false =>
      have hwithdrawn : ∀ err, withdrawnIn (es ++ [.withdraw e (.error err)]) = withdrawnIn es :=
        fun _ => (withdrawnIn_append ..).trans (List.append_nil _)
      rw [Registry.attempt_of_not_holds hholds]
      refine ⟨(hentries _).symm ▸ h.toGivenOut, fun p => ?_, ?_, ?_⟩
      · rw [h.mem_iff, LiveIn, LiveIn, hpublications, hwithdrawn]
      · rw [hentries, hwithdrawn]
        exact h.given
      · rw [hpublications, hwithdrawn, h.size_eq]
  | true =>
      have hwithdrawn : withdrawnIn (es ++ [.withdraw e (.ok ())]) = withdrawnIn es ++ [e] :=
        withdrawnIn_append ..
      rw [Registry.attempt_of_holds hholds]
      refine ⟨(hentries _).symm ▸ h.toGivenOut, fun p => ?_, fun e' he' => ?_, ?_⟩
      · rw [Table.toList_erase, List.mem_filter, bne_iff_ne, LiveIn, hpublications, hwithdrawn,
          h.mem_iff, LiveIn, List.mem_append, List.mem_singleton, not_or, and_assoc]
        refine and_congr_right fun hp => and_congr_right fun _ => not_congr ?_
        exact ⟨h.eq_of_id_eq (mem_entriesIn_of_publication hp) he, congrArg _⟩
      · rw [hentries]
        rcases List.mem_append.1 (hwithdrawn ▸ he') with he' | he'
        · exact h.given e' he'
        · rw [List.mem_singleton.1 he']
          exact he
      · obtain ⟨value, hlive⟩ := (h.holds_iff he).1 hholds
        obtain ⟨before, after, hrows, herased⟩ :=
          Table.toList_erase_of_mem ((h.mem_iff _).2 hlive)
        have hsize := h.size_eq
        rw [Registry.size, Table.size, hrows] at hsize
        rw [hpublications, hwithdrawn, Registry.size, Table.size, herased, ← hsize]
        simp only [List.length_append, List.length_cons, List.length_nil]
        omega

end Recorded

/-! ### Runs -/

/-- **A run of a registry**: its history, the identifiers that are left to give out, and the
registry.  An entry of another registry is to this one as an entry that has only been made. -/
inductive Registry.Run (ids₀ : IdSource) : List (RegistryEvent α) → IdSource → Registry α → Prop
  | new : Registry.Run ids₀ [] ids₀ {}
  | publish {es : List (RegistryEvent α)} {ids : IdSource} {r : Registry α}
      (h : Registry.Run ids₀ es ids r) (service : String) (value : α) :
      Registry.Run ids₀ (es ++ [.publish ⟨ids.current, service⟩ value]) ids.advance
        (r.publish ⟨ids.current, service⟩ value)
  | make {es : List (RegistryEvent α)} {ids : IdSource} {r : Registry α}
      (h : Registry.Run ids₀ es ids r) (service : String) :
      Registry.Run ids₀ (es ++ [.make ⟨ids.current, service⟩]) ids.advance r
  | withdraw {es : List (RegistryEvent α)} {ids : IdSource} {r : Registry α}
      (h : Registry.Run ids₀ es ids r) {entry : RegistryEntry} (given : entry ∈ entriesIn es) :
      Registry.Run ids₀ (es ++ [.withdraw entry (r.attempt entry).1]) ids (r.attempt entry).2

/-- A registry holds exactly what is live in its history. -/
theorem Registry.Run.recorded {ids₀ : IdSource} (hids : ids₀.Distinct)
    {es : List (RegistryEvent α)} {ids : IdSource} {r : Registry α}
    (h : Registry.Run ids₀ es ids r) : Recorded es ids r := by
  induction h with
  | new => exact .nil hids
  | publish _ service value ih => exact ih.publish service value
  | make _ service ih => exact ih.make service
  | withdraw _ given ih => exact ih.withdraw given

/-- **The history of a registry decides every withdrawal and every look-up.**  Let a registry have
come about from an empty one in any way, by a source that gives out no identifier twice.  Then

* an entry that has been given out can be withdrawn exactly if it was given out with a publication
  and has not been withdrawn before;
* its withdrawal removes one publication, which is that of the entry, and leaves the others in their
  order, whatever their services and values are;
* a withdrawal that fails says that the entry is not there, by its display text, and changes
  nothing;
* there are as many publications as have been made and not been withdrawn;
* a look-up, in whatever order the publications are gone through, fails exactly if no live
  publication has the service and a value of the kind, and gives the value of one that has otherwise.
-/
theorem registry_holds_what_is_live {ids₀ : IdSource} (hids : ids₀.Distinct)
    {es : List (RegistryEvent α)} {ids : IdSource} {r : Registry α}
    (h : Registry.Run ids₀ es ids r) :
    (∀ e ∈ entriesIn es,
      ((r.attempt e).1 = .ok () ↔ ∃ value, LiveIn es ⟨e, value⟩) ∧
      ((r.attempt e).1 = .ok () → ∃ before value after,
        r.published.toList = before ++ ⟨e, value⟩ :: after ∧
          (r.attempt e).2.published.toList = before ++ after) ∧
      ((r.attempt e).1 ≠ .ok () →
        r.attempt e = (.error (.entryNotFound e.display), r))) ∧
    r.size + (withdrawnIn es).length = (publicationsIn es).length ∧
    ∀ {β : Type} (en : Enumeration) (service : String) (view : α → Option β),
      (r.lookup en service view = none ↔
        ∀ p, LiveIn es p → p.entry.service = service → view p.value = none) ∧
      ∀ b, r.lookup en service view = some b →
        ∃ p, LiveIn es p ∧ p.entry.service = service ∧ view p.value = some b := by
  have hr := h.recorded hids
  refine ⟨fun e he => ?_, hr.size_eq, fun en service view => ⟨?_, fun b hb => ?_⟩⟩
  · rw [← hr.holds_iff he]
    cases hholds : r.holds e with
    | false =>
        rw [Registry.attempt_of_not_holds hholds]
        exact ⟨by simp, nofun, fun _ => rfl⟩
    | true =>
        rw [Registry.attempt_of_holds hholds]
        refine ⟨by simp, fun _ => ?_, fun hne => absurd rfl hne⟩
        obtain ⟨value, hlive⟩ := (hr.holds_iff he).1 hholds
        obtain ⟨before, after, hrows, herased⟩ :=
          Table.toList_erase_of_mem ((hr.mem_iff _).2 hlive)
        exact ⟨before, value, after, hrows, herased⟩
  · simp only [Registry.lookup_eq_none_iff, hr.mem_iff]
  · obtain ⟨p, hp, hfits⟩ := Registry.exists_of_lookup_eq_some hb
    exact ⟨p, (hr.mem_iff p).1 hp, hfits⟩

/-- In a rehearsal the same text is published twice under one service, in a registry of texts and
numbers, and an entry of that service is made without a publication.  The first publication is
withdrawn.  The second one, which differs from it in nothing but the entry, is still there and is
still found, and neither the first entry nor the stray one can be withdrawn any more. -/
theorem holds_what_is_live_of_equal_values :
    let ids := IdSource.numbered "e"
    let first : RegistryEntry := ⟨ids.current, "svc"⟩
    let second : RegistryEntry := ⟨ids.advance.current, "svc"⟩
    let stray : RegistryEntry := ⟨ids.advance.advance.current, "svc"⟩
    let text : String ⊕ Nat := .inl "x"
    let both := (({} : Registry (String ⊕ Nat)).publish first text).publish second text
    let r := (both.attempt first).2
    ids.Distinct ∧
      (r.attempt first).1 = .error (.entryNotFound first.display) ∧
      (r.attempt stray).1 = .error (.entryNotFound stray.display) ∧
      (r.attempt second).1 = .ok () ∧ r.size = 1 ∧
      ∀ en : Enumeration, r.lookup en "svc" Sum.getLeft? = some "x" ∧
        r.lookup en "svc" Sum.getRight? = none := by
  intro ids first second stray text both r
  have hids : ids.Distinct := IdSource.distinct_numbered "e"
  have hrun : Registry.Run ids [.publish first text, .publish second text, .make stray,
      .withdraw first (both.attempt first).1] ids.advance.advance.advance r :=
    .withdraw (.make (.publish (.publish .new "svc" text) "svc" text) "svc") List.mem_cons_self
  have hok : (both.attempt first).1 = .ok () :=
    congrArg Prod.fst (Registry.attempt_of_holds (by decide +kernel))
  rw [hok] at hrun
  obtain ⟨hentries, hsize, hlookup⟩ := registry_holds_what_is_live hids hrun
  -- only the second publication is live
  have hlive : ∀ p, LiveIn [.publish first text, .publish second text, .make stray,
      .withdraw first (.ok ())] p ↔ p = ⟨second, text⟩ := by
    intro p
    show p ∈ [⟨first, text⟩, ⟨second, text⟩] ∧ p.entry ∉ [first] ↔ _
    have hne : second ≠ first := by decide
    simp only [List.mem_cons, List.not_mem_nil, or_false]
    constructor
    · rintro ⟨rfl | rfl, hp⟩
      · exact absurd rfl hp
      · rfl
    · rintro rfl
      exact ⟨Or.inr rfl, hne⟩
  simp only [hlive, Publication.mk.injEq, exists_and_left] at hentries hlookup
  obtain ⟨hfirst, -, hfirstMissed⟩ := hentries first (by decide)
  obtain ⟨hstray, -, hstrayMissed⟩ := hentries stray (by decide)
  refine ⟨hids, ?_, ?_, (hentries second (by decide)).1.2 ⟨rfl, text, rfl⟩, ?_,
    fun en => ⟨?_, ?_⟩⟩
  · rw [hfirstMissed (mt hfirst.1 fun h => absurd h.1 (by decide))]
  · rw [hstrayMissed (mt hstray.1 fun h => absurd h.1 (by decide))]
  · have hsize' : r.size + 1 = 2 := hsize
    omega
  · obtain ⟨hnone, hsome⟩ := hlookup en "svc" Sum.getLeft?
    cases h : r.lookup en "svc" Sum.getLeft? with
    | none => exact absurd (hnone.1 h _ rfl rfl) (by decide)
    | some b =>
        obtain ⟨_, rfl, -, hb⟩ := hsome b h
        exact hb.symm
  · exact (hlookup en "svc" Sum.getRight?).1.2 fun p hp _ => hp ▸ rfl

end ConferenceAuth
