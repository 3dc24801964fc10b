/-
**Which texts are equal up to letter case.**

The comparison without regard to letter case puts both texts into small letters.  What it accepts
can be said without that: the texts are equally long, and at every place they have the same
character, or the capital and the small letter of one pair of the twenty-six.

Main definitions:

* `Text.SameLetter` — two characters that count as the same;
* `Text.Letter` — a character that has two cases.

Main results:

* `Text.toLower_eq_iff` — two characters have the same small letter exactly if they count as the
  same;
* `Text.SameLetter.eq_of_not_letter` — what is no letter counts as itself only;
* `Text.sameLetters_iff_forall₂` — **texts are equal up to letter case place by place**.
-/
import Mathlib.Data.List.Forall2
import ConferenceAuth.Text.LetterCase

set_option autoImplicit false

namespace ConferenceAuth

namespace Text

/-- **Two characters count as the same**: they are, or one is the capital of the other. -/
inductive SameLetter : Char → Char → Prop
  | same (c : Char) : SameLetter c c
  | capital {a b : Char} (ha : 'A' ≤ a ∧ a ≤ 'Z') (hb : b.toNat = a.toNat + 32) : SameLetter a b
  | small {a b : Char} (hb : 'A' ≤ b ∧ b ≤ 'Z') (ha : a.toNat = b.toNat + 32) : SameLetter a b

/-- The capitals are the code points from 65 to 90. -/
theorem capital_iff {c : Char} : 'A' ≤ c ∧ c ≤ 'Z' ↔ 65 ≤ c.toNat ∧ c.toNat ≤ 90 := Iff.rfl

/-- The small letter of a capital is thirty-two further on. -/
theorem toNat_toLower (c : Char) :
    c.toLower.toNat = if 'A' ≤ c ∧ c ≤ 'Z' then c.toNat + 32 else c.toNat := by
  have hcapital : c.val ≥ 'A'.val ∧ c.val ≤ 'Z'.val ↔ 'A' ≤ c ∧ c ≤ 'Z' := Iff.rfl
  unfold Char.toLower
  split
  · next h =>
    rw [if_pos (hcapital.1 h)]
    have hle : c.val.toNat ≤ 90 := (capital_iff.1 (hcapital.1 h)).2
    have hshift : ('a'.val - 'A'.val).toNat = 32 := by decide
    change (c.val + ('a'.val - 'A'.val)).toNat = c.val.toNat + 32
    rw [UInt32.toNat_add, hshift]
    omega
  · next h => rw [if_neg (mt hcapital.2 h)]

/-- Two characters have the same small letter exactly if they count as the same. -/
theorem toLower_eq_iff {a b : Char} : a.toLower = b.toLower ↔ SameLetter a b := by
  have hcodes : a.toLower = b.toLower ↔ _ := Char.toNat_inj.symm
  rw [hcodes, toNat_toLower, toNat_toLower]
  constructor
  · intro h
    split at h <;> split at h
    · exact Char.toNat_inj.1 (Nat.add_right_cancel h) ▸ .same a
    · next ha _ => exact .capital ha h.symm
    · next hb => exact .small hb h
    · exact Char.toNat_inj.1 h ▸ .same a
  · intro h
    cases h with
    | same => rfl
    | capital ha hb =>
        have hsmall : ¬ ('A' ≤ b ∧ b ≤ 'Z') := by
          rw [capital_iff] at ha ⊢
          omega
        rw [if_pos ha, if_neg hsmall, hb]
    | small hb ha =>
        have hsmall : ¬ ('A' ≤ a ∧ a ≤ 'Z') := by
          rw [capital_iff] at hb ⊢
          omega
        rw [if_pos hb, if_neg hsmall, ha]

/-- Which of two characters stands first does not matter. -/
theorem SameLetter.symm {a b : Char} (h : SameLetter a b) : SameLetter b a := by
  cases h with
  | same => exact .same a
  | capital ha hb => exact .small ha hb
  | small hb ha => exact .capital hb ha

/-- A letter that has two cases: one of the fifty-two of ASCII. -/
def Letter (c : Char) : Prop := 'A' ≤ c ∧ c ≤ 'Z' ∨ 'a' ≤ c ∧ c ≤ 'z'

/-- A character beyond ASCII has no two cases here. -/
theorem not_letter_of_ascii_lt {c : Char} (hc : 0x80 ≤ c.toNat) : ¬ Letter c := by
  rintro (⟨-, h⟩ | ⟨-, h⟩)
  · exact absurd (Nat.le_trans hc h) (show ¬ 0x80 ≤ 'Z'.toNat by decide)
  · exact absurd (Nat.le_trans hc h) (show ¬ 0x80 ≤ 'z'.toNat by decide)

/-- **What is no letter counts as itself only.** -/
theorem SameLetter.eq_of_not_letter {a b : Char} (h : SameLetter a b) (hb : ¬ Letter b) :
    a = b := by
  cases h with
  | same => rfl
  | small hcapital _ => exact absurd (.inl hcapital) hb
  | capital ha hab =>
      rw [capital_iff] at ha
      have hsmall : 97 ≤ b.toNat ∧ b.toNat ≤ 122 := by omega
      exact absurd (.inr hsmall) hb

/-- What is no letter stands at the same places of two texts that are equal up to letter case. -/
theorem getElem?_eq_some_iff_of_not_letter {a b : List Char} (h : List.Forall₂ SameLetter a b)
    {c : Char} (hc : ¬ Letter c) (i : Nat) : a[i]? = some c ↔ b[i]? = some c := by
  induction h generalizing i with
  | nil => rfl
  | @cons x y _ _ hxy _ ih =>
      cases i with
      | succ i => exact ih i
      | zero =>
          simp only [List.getElem?_cons_zero, Option.some_inj]
          constructor
          · rintro rfl
            exact hxy.symm.eq_of_not_letter hc
          · rintro rfl
            exact hxy.eq_of_not_letter hc

/-- **Texts are equal up to letter case place by place.** -/
theorem sameLetters_iff_forall₂ {a b : List Char} :
    sameLetters a b = true ↔ List.Forall₂ SameLetter a b := by
  rw [sameLetters_iff, ← List.forall₂_eq_eq_eq, List.forall₂_map_left_iff,
    List.forall₂_map_right_iff]
  simp only [toLower_eq_iff]

end Text

end ConferenceAuth
