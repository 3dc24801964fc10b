/-
**Which properties share an environment variable.**

The name of a variable has one character for each character of the name of its property: letters and
digits of ASCII in upper case, and an underscore for anything else, be it a dot, a letter of another
script or a character of many bytes.  So the name of a variable stays what it is when it is mapped
again, and which properties share one can be told from their names place by place: at each place
both have a letter or a digit, equal up to letter case, or neither has.

Main definitions:

* `Text.Alphanumeric` — the letters and digits of ASCII;
* `InVariable` — the characters that names of variables are made of;
* `AlikeInNames`, `ShareVariable` — characters that are mapped to the same, and names.

Main results:

* `Text.toUpper_eq_iff` — two characters have the same capital exactly if they count as the same;
* `variableChar_eq_iff` — which characters are mapped to the same;
* `variableName_eq_self_iff` — the names that are left alone are those of variables;
* `variableName_eq_iff` — **which names share a variable**;
* `properties_share_variables_place_by_place` — and what an environment makes of it.
-/
import ConferenceAuth.Config.Source
import ConferenceAuth.Proofs.Text.LetterCase

set_option autoImplicit false

namespace ConferenceAuth

namespace Text

/-! ### Letters, digits and capitals -/

/-- A letter or a digit of ASCII. -/
def Alphanumeric (c : Char) : Prop := Letter c ∨ ('0' ≤ c ∧ c ≤ '9')

/-- They are told from the others by their code points. -/
theorem alphanumeric_iff {c : Char} :
    Alphanumeric c ↔ (65 ≤ c.toNat ∧ c.toNat ≤ 90 ∨ 97 ≤ c.toNat ∧ c.toNat ≤ 122) ∨
      (48 ≤ c.toNat ∧ c.toNat ≤ 57) := Iff.rfl

theorem isAlphanum_iff {c : Char} : c.isAlphanum = true ↔ Alphanumeric c := by
  have hupper : c.isUpper = true ↔ 'A' ≤ c ∧ c ≤ 'Z' := decide_eq_true_iff
  have hlower : c.isLower = true ↔ 'a' ≤ c ∧ c ≤ 'z' :=
    Bool.and_eq_true_iff.trans (and_congr decide_eq_true_iff decide_eq_true_iff)
  have hdigit : c.isDigit = true ↔ '0' ≤ c ∧ c ≤ '9' := Char.isDigit_iff_toNat
  calc c.isAlphanum = true
      ↔ (c.isUpper = true ∨ c.isLower = true) ∨ c.isDigit = true :=
        Bool.or_eq_true_iff.trans (or_congr_left Bool.or_eq_true_iff)
    _ ↔ Alphanumeric c := or_congr (or_congr hupper hlower) hdigit

/-- The small letters are the code points from 97 to 122. -/
theorem small_iff {c : Char} : 'a' ≤ c ∧ c ≤ 'z' ↔ 97 ≤ c.toNat ∧ c.toNat ≤ 122 := Iff.rfl

/-- The capital of a small letter is thirty-two before it. -/
theorem toNat_toUpper (c : Char) :
    c.toUpper.toNat = if 'a' ≤ c ∧ c ≤ 'z' then c.toNat - 32 else c.toNat := by
  have hsmall : c.val ≥ 'a'.val ∧ c.val ≤ 'z'.val ↔ 'a' ≤ c ∧ c ≤ 'z' := Iff.rfl
  unfold Char.toUpper
  split
  · next h =>
    rw [if_pos (hsmall.1 h)]
    have hle : 97 ≤ c.val.toNat ∧ c.val.toNat ≤ 122 := small_iff.1 (hsmall.1 h)
    -- the distance is negative, and wraps around
    have hshift : ('A'.val - 'a'.val).toNat = 2 ^ 32 - 32 := by decide
    change (c.val + ('A'.val - 'a'.val)).toNat = c.val.toNat - 32
    rw [UInt32.toNat_add, hshift]
    omega
  · next h => rw [if_neg (mt hsmall.2 h)]

/-- Two characters have the same capital exactly if they count as the same. -/
theorem toUpper_eq_iff {a b : Char} : a.toUpper = b.toUpper ↔ SameLetter a b := by
  have hcodes : a.toUpper = b.toUpper ↔ _ := Char.toNat_inj.symm
  rw [hcodes, toNat_toUpper, toNat_toUpper]
  simp only [small_iff]
  constructor
  · intro h
    split at h <;> split at h
    · have hab : a.toNat = b.toNat := by omega
      exact Char.toNat_inj.1 hab ▸ .same a
    · exact .small (capital_iff.2 (by omega)) (by omega)
    · exact .capital (capital_iff.2 (by omega)) (by omega)
    · exact Char.toNat_inj.1 h ▸ .same a
  · intro h
    cases h with
    | same => rfl
    | capital ha hb =>
        rw [capital_iff] at ha
        rw [if_neg (by omega), if_pos (by omega), hb, Nat.add_sub_cancel]
    | small hb ha =>
        rw [capital_iff] at hb
        rw [if_pos (by omega), if_neg (by omega), ha, Nat.add_sub_cancel]

end Text

/-! ### The characters of names -/

/-- **What names of variables are made of**: capitals, digits and underscores. -/
def InVariable (c : Char) : Prop := ('A' ≤ c ∧ c ≤ 'Z') ∨ ('0' ≤ c ∧ c ≤ '9') ∨ c = '_'

/-- **Two characters are alike in the names of properties**: both are letters or digits, equal up
to letter case, or neither is. -/
inductive AlikeInNames : Char → Char → Prop
  | alphanumeric {a b : Char} (ha : Text.Alphanumeric a) (hb : Text.Alphanumeric b)
      (hab : Text.SameLetter a b) : AlikeInNames a b
  | other {a b : Char} (ha : ¬ Text.Alphanumeric a) (hb : ¬ Text.Alphanumeric b) :
      AlikeInNames a b

variable {a b c : Char}

theorem variableChar_of_alphanumeric (h : Text.Alphanumeric c) : variableChar c = c.toUpper :=
  if_pos (Text.isAlphanum_iff.2 h)

theorem variableChar_of_not_alphanumeric (h : ¬ Text.Alphanumeric c) : variableChar c = '_' :=
  if_neg (mt Text.isAlphanum_iff.1 h)

/-- A letter or a digit is mapped to one. -/
theorem alphanumeric_variableChar (h : Text.Alphanumeric c) :
    ('A' ≤ variableChar c ∧ variableChar c ≤ 'Z') ∨
      ('0' ≤ variableChar c ∧ variableChar c ≤ '9') := by
  have hcode := Text.toNat_toUpper c
  rw [← variableChar_of_alphanumeric h] at hcode
  simp only [Text.small_iff] at hcode
  rw [Text.alphanumeric_iff] at h
  change (65 ≤ (variableChar c).toNat ∧ (variableChar c).toNat ≤ 90) ∨
    (48 ≤ (variableChar c).toNat ∧ (variableChar c).toNat ≤ 57)
  split at hcode <;> omega

theorem inVariable_variableChar (c : Char) : InVariable (variableChar c) := by
  by_cases h : Text.Alphanumeric c
  · rcases alphanumeric_variableChar h with hcapital | hdigit
    · exact .inl hcapital
    · exact .inr (.inl hdigit)
  · exact .inr (.inr (variableChar_of_not_alphanumeric h))

/-- An underscore is no letter and no digit. -/
theorem not_alphanumeric_underscore : ¬ Text.Alphanumeric '_' := by
  rw [Text.alphanumeric_iff]
  decide

/-- What names of variables are made of is left alone. -/
theorem variableChar_eq_self (h : InVariable c) : variableChar c = c := by
  have halone : ∀ hc : Text.Alphanumeric c, ¬ ('a' ≤ c ∧ c ≤ 'z') → variableChar c = c := by
    intro hc hsmall
    have hcode := Text.toNat_toUpper c
    rw [if_neg hsmall] at hcode
    rw [variableChar_of_alphanumeric hc, Char.toNat_inj.1 hcode]
  rcases h with hcapital | hdigit | rfl
  · refine halone (.inl (.inl hcapital)) ?_
    rw [Text.capital_iff] at hcapital
    rw [Text.small_iff]
    omega
  · refine halone (.inr hdigit) ?_
    have hcodes : 48 ≤ c.toNat ∧ c.toNat ≤ 57 := hdigit
    rw [Text.small_iff]
    omega
  · exact variableChar_of_not_alphanumeric not_alphanumeric_underscore

/-- A letter or a digit is never mapped to the underscore that stands for the others. -/
theorem variableChar_ne_underscore (h : Text.Alphanumeric c) : variableChar c ≠ '_' := by
  intro hc
  have hone := alphanumeric_variableChar h
  rw [hc] at hone
  exact absurd hone (by decide)

/-- **Characters are mapped to the same exactly if they are alike.** -/
theorem variableChar_eq_iff : variableChar a = variableChar b ↔ AlikeInNames a b := by
  constructor
  · intro h
    by_cases ha : Text.Alphanumeric a <;> by_cases hb : Text.Alphanumeric b
    · rw [variableChar_of_alphanumeric ha, variableChar_of_alphanumeric hb] at h
      exact .alphanumeric ha hb (Text.toUpper_eq_iff.1 h)
    · exact absurd (h.trans (variableChar_of_not_alphanumeric hb)) (variableChar_ne_underscore ha)
    · exact absurd (h.symm.trans (variableChar_of_not_alphanumeric ha))
        (variableChar_ne_underscore hb)
    · exact .other ha hb
  · rintro (⟨ha, hb, hab⟩ | ⟨ha, hb⟩)
    · rw [variableChar_of_alphanumeric ha, variableChar_of_alphanumeric hb]
      exact Text.toUpper_eq_iff.2 hab
    · rw [variableChar_of_not_alphanumeric ha, variableChar_of_not_alphanumeric hb]

/-! ### Names -/

/-- **Two properties share a variable**: their names are equally long, and alike at every place. -/
def ShareVariable (a b : String) : Prop := List.Forall₂ AlikeInNames a.toList b.toList

/-- A name of a property and that of its variable are equally long. -/
@[simp] theorem length_variableName (name : String) : (variableName name).length = name.length := by
  rw [← String.length_toList, toList_variableName, List.length_map, String.length_toList]

/-- The name of a variable is made of capitals, digits and underscores. -/
theorem inVariable_of_mem_variableName {name : String} {c : Char}
    (h : c ∈ (variableName name).toList) : InVariable c := by
  rw [toList_variableName] at h
  obtain ⟨d, -, rfl⟩ := List.mem_map.1 h
  exact inVariable_variableChar d

/-- **The names that are left alone are those made of what variables are made of.** -/
theorem variableName_eq_self_iff {name : String} :
    variableName name = name ↔ ∀ c ∈ name.toList, InVariable c := by
  constructor
  · intro h c hc
    rw [← h] at hc
    exact inVariable_of_mem_variableName hc
  · intro h
    rw [← String.toList_inj, toList_variableName]
    exact (List.map_congr_left fun c hc => variableChar_eq_self (h c hc)).trans (List.map_id _)

/-- Mapping the name of a variable again changes nothing. -/
theorem variableName_variableName (name : String) :
    variableName (variableName name) = variableName name :=
  variableName_eq_self_iff.2 fun _ hc => inVariable_of_mem_variableName hc

/-- **Names are mapped to the same variable exactly if they are alike place by place.** -/
theorem variableName_eq_iff {a b : String} :
    variableName a = variableName b ↔ ShareVariable a b := by
  rw [← String.toList_inj, toList_variableName, toList_variableName, ← List.forall₂_eq_eq_eq,
    List.forall₂_map_left_iff, List.forall₂_map_right_iff]
  simp only [variableChar_eq_iff]
  rfl

/-! ### What an environment makes of it -/

namespace ConfigSource

/-- **Writing the variable of one property** is seen by those that share it, and by no other. -/
theorem text?_ofEnvironment_set (vars : Settings) (a b text : String) :
    (ShareVariable a b →
        (ofEnvironment (vars.set (variableName a) text)).text? b = some text) ∧
      (¬ ShareVariable a b →
        (ofEnvironment (vars.set (variableName a) text)).text? b =
          (ofEnvironment vars).text? b) := by
  simp only [text?_ofEnvironment, Settings.get?_set, ← variableName_eq_iff]
  exact ⟨fun h => if_pos h.symm, fun h => if_neg (Ne.symm h)⟩

/-- **Two properties have the same text in every environment** exactly if they share a variable. -/
theorem text?_ofEnvironment_eq_iff {a b : String} :
    (∀ vars, (ofEnvironment vars).text? a = (ofEnvironment vars).text? b) ↔ ShareVariable a b := by
  constructor
  · intro h
    -- an environment with nothing but the variable of one of them
    by_contra hab
    have hempty := (text?_ofEnvironment_set [] a b "").2 hab
    rw [← h, (text?_ofEnvironment_set [] a a "").1 (variableName_eq_iff.1 rfl)] at hempty
    exact absurd hempty (Option.some_ne_none "")
  · intro h vars
    rw [text?_ofEnvironment, text?_ofEnvironment, variableName_eq_iff.2 h]

end ConfigSource

/-- **Properties share variables place by place.**

The name of the variable of a property is as long as its own, is made of capitals, digits and
underscores, and is its own when mapped again.  Two properties have the same one exactly if their
names are equally long and at each place hold the same letter or digit up to letter case, or neither
holds any.  In every environment those read the same variable: a text written for the one is the
text of the other, and no other property notices.  So no environment tells two properties apart
exactly if they share a variable. -/
theorem properties_share_variables_place_by_place (a b : String) :
    ((variableName a).length = a.length ∧
        (∀ c ∈ (variableName a).toList, InVariable c) ∧
        variableName (variableName a) = variableName a) ∧
      (variableName a = variableName b ↔ ShareVariable a b) ∧
      (∀ (vars : Settings) (text : String),
        (ShareVariable a b →
            (ConfigSource.ofEnvironment (vars.set (variableName a) text)).text? b = some text) ∧
          (¬ ShareVariable a b →
            (ConfigSource.ofEnvironment (vars.set (variableName a) text)).text? b =
              (ConfigSource.ofEnvironment vars).text? b)) ∧
      ((∀ vars, (ConfigSource.ofEnvironment vars).text? a =
          (ConfigSource.ofEnvironment vars).text? b) ↔ ShareVariable a b) :=
  ⟨⟨length_variableName a, fun _ => inVariable_of_mem_variableName, variableName_variableName a⟩,
    variableName_eq_iff, fun vars text => ConfigSource.text?_ofEnvironment_set vars a b text,
    ConfigSource.text?_ofEnvironment_eq_iff⟩

/-- A long s has the capital S, but not in ASCII: its property shares a variable with one that has a
euro sign before a sharp s there, and not with the one that has an s. -/
theorem long_s_shares_no_variable_with_s :
    let source := ConfigSource.ofEnvironment
      (Settings.set [("AUTH_S", "round")] (variableName "auth.\u017F") "long")
    source.text? "Auth\u20AC\u00DF" = some "long" ∧ source.text? "auth.s" = some "round" := by
  intro source
  obtain ⟨-, hshared, hwrite, -⟩ :=
    properties_share_variables_place_by_place "auth.\u017F" "Auth\u20AC\u00DF"
  obtain ⟨-, hother, hkept, -⟩ := properties_share_variables_place_by_place "auth.\u017F" "auth.s"
  refine ⟨(hwrite _ _).1 (hshared.1 (by decide +kernel)), ((hkept _ _).2 fun h => ?_).trans ?_⟩
  · exact absurd (hother.2 h) (by decide +kernel)
  · decide +kernel

end ConferenceAuth
