/-
**Which texts are numerals, and of which numbers.**

A reader of numerals goes through the digits and computes.  Here the same is said without a
computation: a row of digits is one digit, or a row with one more digit behind it, and the number of
the longer row is that of the shorter one times the base plus the value of the last digit.  A signed
numeral is such a row in the base ten, with at most one sign in front.

Main definitions:

* `Text.IsDigit` — a character as a digit of a base;
* `Text.Digits` — a row of digits with its number;
* `Text.Numeral` — a signed numeral with its number.

Main results:

* `Text.digits_iff` — what any reader of digits computes that knows their values;
* `Text.digits_toDigits` — the digits of a number are a row with this number;
* `Text.signed?_eq_some_iff` — **exactly the signed numerals are read, each as its number**.
-/
import Mathlib.Data.List.Induction
import ConferenceAuth.Text.Decimal

set_option autoImplicit false

namespace ConferenceAuth

namespace Text

/-! ### Rows of digits -/

/-- **A character is a digit of a base**, in either letter case, and this is its value. -/
structure IsDigit (base : Nat) (c : Char) (v : Nat) : Prop where
  lt_base : v < base
  written : c = Nat.digitChar v ∨ c = (Nat.digitChar v).toUpper

/-- **A row of one or more digits** with its number. -/
inductive Digits (base : Nat) : List Char → Nat → Prop
  | one {c : Char} {v : Nat} (hc : IsDigit base c v) : Digits base [c] v
  | snoc {cs : List Char} {c : Char} {n v : Nat} (hcs : Digits base cs n)
      (hc : IsDigit base c v) : Digits base (cs ++ [c]) (n * base + v)

theorem Digits.ne_nil {base n : Nat} {cs : List Char} (h : Digits base cs n) : cs ≠ [] := by
  cases h with
  | one => exact List.cons_ne_nil _ _
  | snoc => exact List.append_ne_nil_of_right_ne_nil _ (List.cons_ne_nil _ _)

/-- **What a reader of digits computes.**  It knows which characters are digits and their values,
and it takes them one by one. -/
theorem digits_iff {base : Nat} {digit : Char → Bool} {value : Char → Nat}
    (hdigit : ∀ c v, IsDigit base c v ↔ digit c = true ∧ value c = v) {cs : List Char} {n : Nat} :
    Digits base cs n ↔ (cs ≠ [] ∧ ∀ c ∈ cs, digit c = true) ∧
      cs.foldl (fun m c => m * base + value c) 0 = n := by
  constructor
  · intro h
    induction h with
    | one hc =>
        obtain ⟨hdigit, rfl⟩ := (hdigit _ _).1 hc
        simpa using hdigit
    | snoc _ hc ih =>
        obtain ⟨hdigit, rfl⟩ := (hdigit _ _).1 hc
        obtain ⟨⟨-, hcs⟩, rfl⟩ := ih
        refine ⟨⟨by simp, ?_⟩, by rw [List.foldl_append]; rfl⟩
        rw [List.forall_mem_append, List.forall_mem_singleton]
        exact ⟨hcs, hdigit⟩
  · rintro ⟨⟨hne, hcs⟩, rfl⟩
    -- the last digit is taken last
    induction cs using List.reverseRecOn with
    | nil => exact absurd rfl hne
    | append_singleton cs c ih =>
        rw [List.forall_mem_append, List.forall_mem_singleton] at hcs
        have hc : IsDigit base c (value c) := (hdigit _ _).2 ⟨hcs.2, rfl⟩
        rw [List.foldl_append, List.foldl_cons, List.foldl_nil]
        by_cases hnil : cs = []
        · subst hnil
          simpa using Digits.one hc
        · exact .snoc (ih hnil hcs.1) hc

/-! ### The base ten -/

/-- The digits of the base ten are those of ASCII, and their values are their distances from
zero. -/
theorem isDigit_ten_iff (c : Char) (v : Nat) :
    IsDigit 10 c v ↔ c.isDigit = true ∧ c.toNat - '0'.toNat = v := by
  constructor
  · rintro ⟨hv, hc⟩
    have hall : ∀ v : Fin 10, (Nat.digitChar v).toUpper = Nat.digitChar v ∧
        (Nat.digitChar v).isDigit = true ∧ (Nat.digitChar v).toNat - '0'.toNat = v := by decide
    obtain ⟨hupper, hdigit⟩ := hall ⟨v, hv⟩
    rw [hupper, or_self] at hc
    exact hc ▸ hdigit
  · rintro ⟨hc, rfl⟩
    rw [Char.isDigit_iff_toNat] at hc
    obtain ⟨hlow, hhigh⟩ := hc
    have hzero : '0'.toNat = 48 := rfl
    have hnine : '9'.toNat = 57 := rfl
    have hlt : c.toNat - '0'.toNat < 10 := by omega
    refine ⟨hlt, .inl (Char.toNat_inj.1 ?_)⟩
    rw [Nat.toNat_digitChar_of_lt_ten hlt]
    omega

/-- Exactly the rows of digits are natural numbers. -/
theorem natural?_eq_some_iff {cs : List Char} {n : Nat} :
    natural? cs = some n ↔ Digits 10 cs n := by
  have hvalue : Nat.ofDigitChars 10 cs 0 =
      cs.foldl (fun m c => m * 10 + (c.toNat - '0'.toNat)) 0 := by
    simp only [Nat.ofDigitChars, Nat.mul_comm]
  rw [digits_iff isDigit_ten_iff, ← hvalue, natural?]
  simp only [List.all_eq_true, Option.ite_none_right_eq_some, Option.some.injEq]

/-- **The digits of a number are a row with this number.** -/
theorem digits_toDigits (n : Nat) : Digits 10 (Nat.toDigits 10 n) n :=
  natural?_eq_some_iff.1 (natural?_toDigits n)

/-! ### Signed numerals -/

/-- **A signed numeral** with its number: digits with at most one sign in front. -/
inductive Numeral : List Char → Int → Prop
  | plain {ds : List Char} {n : Nat} (hds : Digits 10 ds n) : Numeral ds n
  | plus {ds : List Char} {n : Nat} (hds : Digits 10 ds n) : Numeral ('+' :: ds) n
  | minus {ds : List Char} {n : Nat} (hds : Digits 10 ds n) : Numeral ('-' :: ds) (-n)

/-- A sign is no digit. -/
theorem not_digits_sign {c : Char} (hc : c.isDigit = false) (ds : List Char) (n : Nat) :
    ¬ Digits 10 (c :: ds) n := by
  intro h
  have hdigit := (digits_iff isDigit_ten_iff).1 h |>.1.2 c List.mem_cons_self
  exact Bool.false_ne_true (hc.symm.trans hdigit)

/-- **Exactly the signed numerals are read, each as its number.** -/
theorem signed?_eq_some_iff {cs : List Char} {n : Int} : signed? cs = some n ↔ Numeral cs n := by
  constructor
  · intro h
    unfold signed? at h
    split at h
    · next ds =>
      obtain ⟨m, hm, rfl⟩ := Option.map_eq_some_iff.1 h
      exact .plus (natural?_eq_some_iff.1 hm)
    · next ds =>
      cases hds : natural? ds with
      | none => simp [hds] at h
      | some m =>
          rw [hds] at h
          cases h
          exact .minus (natural?_eq_some_iff.1 hds)
    · obtain ⟨m, hm, rfl⟩ := Option.map_eq_some_iff.1 h
      exact .plain (natural?_eq_some_iff.1 hm)
  · intro h
    cases h with
    | plus hds => rw [signed?, natural?_eq_some_iff.2 hds]; rfl
    | minus hds => rw [signed?, natural?_eq_some_iff.2 hds]; rfl
    | plain hds =>
        unfold signed?
        split
        · exact absurd hds (not_digits_sign (by decide) _ _)
        · exact absurd hds (not_digits_sign (by decide) _ _)
        · rw [natural?_eq_some_iff.2 hds]
          rfl

end Text

end ConferenceAuth
