/-
**Which identifiers have been given out.**

An identifier has been issued once its source has given it out.  A distinct source never gives out
an identifier that it has issued already, and that is what keeps new sessions and new registry
entries apart from the old ones.

Main definitions:

* `IdSource.HasIssued`;
* `IdSource.GivenOut` — a row of identifiers that have been given out.

Main results:

* `IdSource.Distinct.not_hasIssued_current` — the next identifier is a new one;
* `IdSource.hasIssued_advance_current` — and once it has been given out it is issued;
* `IdSource.GivenOut.concat` — the row grows by the next one.
-/
import ConferenceAuth.Identifier

set_option autoImplicit false

namespace ConferenceAuth

namespace IdSource

/-- Whether a source has given out an identifier. -/
def HasIssued (s : IdSource) (id : String) : Prop := ∃ n, n < s.issued ∧ s.nth n = id

theorem HasIssued.advance {s : IdSource} {id : String} (h : s.HasIssued id) :
    s.advance.HasIssued id := by
  obtain ⟨n, hn, hid⟩ := h
  exact ⟨n, Nat.lt_succ_of_lt hn, hid⟩

/-- The identifier that is given out next is then issued. -/
theorem hasIssued_advance_current (s : IdSource) : s.advance.HasIssued s.current :=
  ⟨s.issued, Nat.lt_succ_self s.issued, rfl⟩

/-- **A distinct source gives out a new identifier each time.** -/
theorem Distinct.not_hasIssued_current {s : IdSource} (h : s.Distinct) :
    ¬ s.HasIssued s.current := by
  rintro ⟨n, hn, hid⟩
  have hsame : n = s.issued := h n s.issued hid
  omega

theorem Distinct.ne_current {s : IdSource} (h : s.Distinct) {id : String} (hid : s.HasIssued id) :
    id ≠ s.current := by
  rintro rfl
  exact h.not_hasIssued_current hid

/-- **Identifiers that a distinct source has given out**, each for itself. -/
structure GivenOut (s : IdSource) (names : List String) : Prop where
  /-- No identifier is given out twice. -/
  distinct : s.Distinct
  issued : ∀ id ∈ names, s.HasIssued id
  nodup : names.Nodup

theorem GivenOut.nil {s : IdSource} (h : s.Distinct) : s.GivenOut [] := ⟨h, by simp, List.nodup_nil⟩

theorem GivenOut.ne_current {s : IdSource} {names : List String} (h : s.GivenOut names)
    {id : String} (hid : id ∈ names) : id ≠ s.current := h.distinct.ne_current (h.issued id hid)

/-- **One more is given out**, and it is none of those before. -/
theorem GivenOut.concat {s : IdSource} {names : List String} (h : s.GivenOut names) :
    s.advance.GivenOut (names ++ [s.current]) := by
  refine ⟨h.distinct, fun id hid => ?_, List.nodup_append.2 ⟨h.nodup, by simp, ?_⟩⟩
  · rcases List.mem_append.1 hid with hid | hid
    · exact (h.issued id hid).advance
    · rw [List.mem_singleton.1 hid]
      exact s.hasIssued_advance_current
  · intro id hid id' hid'
    exact List.mem_singleton.1 hid' ▸ h.ne_current hid

end IdSource

end ConferenceAuth
