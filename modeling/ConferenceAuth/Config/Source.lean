/-
**Where settings come from.**

A configuration source gives a property name a text, or nothing.  Two kinds of source exist: a
table of properties under their own dotted names, and the variables of an environment, where a
property is found under the name that `variableName` makes of it.  A value is then read as a text,
a truth value or an integer; a value that cannot be read counts as absent, so that no setting is
ever an error.

Main definitions:

* `Settings` — a table of names and texts, written by `Settings.set` and `Settings.unset`;
* `variableName` — the environment variable of a property;
* `ConfigSource`, `ConfigSource.ofProperties`, `ConfigSource.ofEnvironment`;
* `ConfigSource.text?`, `ConfigSource.bool?`, `ConfigSource.int?` — the three readings.

Main results:

* `Settings.get?_set`, `Settings.get?_unset` — a write is seen under its own name only;
* `ConfigSource.text?_ofEnvironment` — an environment is read under the mapped name.
-/
import ConferenceAuth.Text.Blank
import ConferenceAuth.Text.LetterCase
import ConferenceAuth.Text.Decimal

set_option autoImplicit false

namespace ConferenceAuth

/-! ### Tables of texts -/

/-- A table of names and texts.  The first row of a name counts. -/
abbrev Settings := List (String × String)

namespace Settings

def get? (s : Settings) (name : String) : Option String := s.lookup name

def unset (s : Settings) (name : String) : Settings := s.filter (·.1 != name)

/-- The table with a new text for a name. -/
def set (s : Settings) (name value : String) : Settings := (name, value) :: s.unset name

@[simp] theorem get?_nil (name : String) : get? [] name = none := rfl

theorem get?_cons (row : String × String) (s : Settings) (name : String) :
    get? (row :: s) name = if name = row.1 then some row.2 else s.get? name := by
  rw [get?, List.lookup_cons]
  by_cases h : name = row.1
  · simp [h]
  · simp [h, get?, beq_eq_false_iff_ne.2 h]

/-- A removed name is absent, and the others keep their texts. -/
theorem get?_unset (s : Settings) (a b : String) :
    (s.unset a).get? b = if b = a then none else s.get? b := by
  induction s with
  | nil => simp [unset]
  | cons row s ih =>
      simp only [unset, List.filter_cons] at ih ⊢
      by_cases hr : row.1 = a
      · simp only [hr, bne_self_eq_false, Bool.false_eq_true, if_false, ih, get?_cons]
        by_cases hb : b = a <;> simp [hb]
      · simp only [bne_iff_ne, ne_eq, hr, not_false_eq_true, if_true, get?_cons, ih]
        by_cases hb : b = row.1
        · simp [hb, hr]
        · simp [hb]

/-- A written name has its new text, and the others keep theirs. -/
theorem get?_set (s : Settings) (a b value : String) :
    (s.set a value).get? b = if b = a then some value else s.get? b := by
  rw [set, get?_cons, get?_unset]
  by_cases h : b = a <;> simp [h]

end Settings

/-! ### Names of environment variables -/

/-- An ASCII letter or digit in upper case; an underscore for any other character. -/
def variableChar (c : Char) : Char := if c.isAlphanum then c.toUpper else '_'

/-- **The environment variable of a property**: character by character, letters and digits in
upper case and an underscore for everything else. -/
def variableName (name : String) : String := String.ofList (name.toList.map variableChar)

@[simp] theorem toList_variableName (name : String) :
    (variableName name).toList = name.toList.map variableChar := String.toList_ofList

/-! ### Sources -/

/-- A configuration source: the text of each property that is set. -/
structure ConfigSource where
  /-- The text of a property, verbatim. -/
  text? : String → Option String

namespace ConfigSource

/-- The source that holds properties under their own names. -/
def ofProperties (s : Settings) : ConfigSource := ⟨s.get?⟩

/-- The source that holds properties under the names of their environment variables. -/
def ofEnvironment (vars : Settings) : ConfigSource := ⟨fun name => vars.get? (variableName name)⟩

@[simp] theorem text?_ofProperties (s : Settings) (name : String) :
    (ofProperties s).text? name = s.get? name := rfl

@[simp] theorem text?_ofEnvironment (vars : Settings) (name : String) :
    (ofEnvironment vars).text? name = vars.get? (variableName name) := rfl

/-- The truth value of a text: `true` or `false` in any letter case, between blanks. -/
def readBool (s : String) : Option Bool :=
  let cs := Text.trim s.toList
  if Text.sameLetters cs ['t', 'r', 'u', 'e'] then some true
  else if Text.sameLetters cs ['f', 'a', 'l', 's', 'e'] then some false
  else none

/-- The integer of a text: a signed numeral of sixty-four bits, between blanks. -/
def readInt (s : String) : Option Int := Text.int64? (Text.trim s.toList)

/-- A property as a truth value; absent when it cannot be read as one. -/
def bool? (source : ConfigSource) (name : String) : Option Bool :=
  (source.text? name).bind readBool

/-- A property as an integer; absent when it cannot be read as one. -/
def int? (source : ConfigSource) (name : String) : Option Int :=
  (source.text? name).bind readInt

/-- Whether a property is set to the truth value `true`. -/
def isTrue (source : ConfigSource) (name : String) : Bool := (source.bool? name).getD false

/-- A property as a text, where the empty text counts as absent. -/
def nonEmpty? (source : ConfigSource) (name : String) : Option String :=
  (source.text? name).filter (· ≠ "")

theorem nonEmpty?_eq_some_iff {source : ConfigSource} {name s : String} :
    source.nonEmpty? name = some s ↔ source.text? name = some s ∧ s ≠ "" := by
  simp [nonEmpty?, Option.filter_eq_some_iff]

end ConfigSource

end ConferenceAuth
