/-
**How the text of a property reads.**

A property is read as an integer or as a truth value only after the blanks around its text have been
removed, and what cannot be read counts as absent.  Here it is said of the text itself what it reads
as, without a reader: a signed numeral of a number, however long it is, or the word `true`.

Main definitions:

* `ConfigSource.Says` — what the text of a property says between blanks;
* `ConfigSource.ReadsAs`, `ConfigSource.SaysTrue` — an integer without bounds, and the word `true`.

Main results:

* `ConfigSource.ReadsAs.unique` — a property reads as one integer only;
* `ConfigSource.int?_eq_some_iff` — it is an integer exactly if it reads as one of sixty-four bits;
* `ConfigSource.isTrue_iff` — it is true exactly if it says so.
-/
import Mathlib.Algebra.Group.Int.Defs
import Mathlib.Algebra.Group.Nat.Defs
import ConferenceAuth.Config.Source
import ConferenceAuth.Proofs.Text.LetterCase
import ConferenceAuth.Proofs.Text.Numeral

set_option autoImplicit false

namespace ConferenceAuth

namespace ConfigSource

/-- **What a property says** between blanks. -/
def Says (source : ConfigSource) (name : String) (cs : List Char) : Prop :=
  ∃ text, source.text? name = some text ∧ Text.TrimsTo text.toList cs

/-- **A property reads as an integer**: between blanks there stands a signed numeral of it. -/
def ReadsAs (source : ConfigSource) (name : String) (n : Int) : Prop :=
  ∃ cs, source.Says name cs ∧ Text.Numeral cs n

/-- **A property says `true`**, in any letter case, between blanks. -/
def SaysTrue (source : ConfigSource) (name : String) : Prop :=
  ∃ cs, source.Says name cs ∧ List.Forall₂ Text.SameLetter cs "true".toList

variable {source : ConfigSource} {name : String}

/-- What is told of a text without blanks is told of what the property says, unless that is
nothing. -/
theorem exists_says_iff {p : List Char → Prop} (hp : ¬ p []) :
    (∃ cs, source.Says name cs ∧ p cs) ↔
      ∃ text, source.text? name = some text ∧ p (Text.trim text.toList) := by
  constructor
  · rintro ⟨cs, ⟨text, htext, hcs⟩, hp⟩
    obtain ⟨rfl, -⟩ := Text.trimsTo_iff.1 hcs
    exact ⟨text, htext, hp⟩
  · rintro ⟨text, htext, hcs⟩
    exact ⟨_, ⟨text, htext, Text.trimsTo_iff.2 ⟨rfl, fun hnil => hp (hnil ▸ hcs)⟩⟩, hcs⟩

/-- The integer that a property reads as can be computed. -/
theorem readsAs_iff {n : Int} :
    source.ReadsAs name n ↔
      ((source.text? name).bind fun text => Text.signed? (Text.trim text.toList)) = some n := by
  have hnil : ¬ Text.Numeral [] n := by
    rw [← Text.signed?_eq_some_iff]
    rintro ⟨⟩
  rw [ReadsAs, exists_says_iff hnil, Option.bind_eq_some_iff]
  simp only [Text.signed?_eq_some_iff]

/-- A property reads as one integer only. -/
theorem ReadsAs.unique {m n : Int} (hm : source.ReadsAs name m) (hn : source.ReadsAs name n) :
    m = n :=
  Option.some.inj ((readsAs_iff.1 hm).symm.trans (readsAs_iff.1 hn))

/-- **A property is an integer exactly if it reads as one of sixty-four bits.** -/
theorem int?_eq_some_iff {n : Int} :
    source.int? name = some n ↔ source.ReadsAs name n ∧ -2 ^ 63 ≤ n ∧ n < 2 ^ 63 := by
  rw [readsAs_iff, int?, Option.bind_eq_some_iff, Option.bind_eq_some_iff]
  simp only [readInt, Text.int64?_eq_some_iff]
  constructor
  · rintro ⟨text, htext, hn, hlow, hhigh⟩
    exact ⟨⟨text, htext, hn⟩, hlow, by omega⟩
  · rintro ⟨⟨text, htext, hn⟩, hlow, hhigh⟩
    exact ⟨text, htext, hn, hlow, by omega⟩

/-- **A property is true exactly if it says so.** -/
theorem isTrue_iff : source.isTrue name = true ↔ source.SaysTrue name := by
  have hread : ∀ s : String, readBool s = some true ↔
      Text.sameLetters (Text.trim s.toList) "true".toList = true := by
    intro s
    have htrue : "true".toList = ['t', 'r', 'u', 'e'] := rfl
    rw [htrue, readBool]
    grind
  have hnil : ¬ List.Forall₂ Text.SameLetter [] "true".toList := by rintro ⟨⟩
  rw [SaysTrue, exists_says_iff hnil, isTrue, Option.getD_eq_iff, bool?]
  simp only [Option.bind_eq_some_iff, hread, Text.sameLetters_iff_forall₂]
  grind

end ConfigSource

end ConferenceAuth
