/-
**Letter case, for the ASCII letters only.**

Scheme names, truth values, domains and variable names are compared or written without regard to
the case of the letters `A` to `Z`.  All other characters stand for themselves, also those that have
a case in other scripts.

Main definitions:

* `Text.sameLetters` — equality up to the case of ASCII letters.

Main results:

* `Text.sameLetters_iff` — it holds when the texts agree once both are in lower case.
-/
set_option autoImplicit false

namespace ConferenceAuth

namespace Text

/-- Equality of two texts up to the case of the ASCII letters. -/
def sameLetters (a b : List Char) : Bool := a.map Char.toLower == b.map Char.toLower

theorem sameLetters_iff {a b : List Char} :
    sameLetters a b = true ↔ a.map Char.toLower = b.map Char.toLower := by
  simp [sameLetters]

/-- Texts that agree up to letter case are equally long. -/
theorem length_eq_of_sameLetters {a b : List Char} (h : sameLetters a b = true) :
    a.length = b.length := by
  simpa using congrArg List.length (sameLetters_iff.1 h)

end Text

end ConferenceAuth
