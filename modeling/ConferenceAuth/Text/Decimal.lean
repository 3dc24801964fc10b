/-
**Signed decimal numerals of sixty-four bits.**

A numeral is an optional single sign followed by one or more ASCII digits; leading zeros are
allowed.  The value is computed without bound and only then compared with the range of a signed
sixty-four bit integer, so that no numeral, however long, wraps around.

Main definitions:

* `Text.natural?` — the value of one or more digits;
* `Text.signed?` — the same with an optional sign;
* `Text.int64?` — the same within `[-2^63, 2^63 - 1]`.

Main results:

* `Text.natural?_toDigits` — the digits of a number read back as that number;
* `Text.int64?_eq_some_iff` — a numeral is accepted with its own value and within the range only.
-/
set_option autoImplicit false

namespace ConferenceAuth

namespace Text

/-! ### Digits -/

/-- The value of one or more ASCII digits; nothing else is a natural number. -/
def natural? (ds : List Char) : Option Nat :=
  if ds ≠ [] ∧ ds.all Char.isDigit = true then some (Nat.ofDigitChars 10 ds 0) else none

@[simp] theorem natural?_nil : natural? [] = none := rfl

/-- The digits of a number read back as that number. -/
theorem natural?_toDigits (n : Nat) : natural? (Nat.toDigits 10 n) = some n := by
  have hd : (Nat.toDigits 10 n).all Char.isDigit = true :=
    List.all_eq_true.2 fun c hc => Nat.isDigit_of_mem_toDigits (by decide) (by decide) hc
  rw [natural?, if_pos ⟨Nat.toDigits_ne_nil, hd⟩, Nat.ofDigitChars_ten_toDigits]

/-! ### Signs and the range -/

/-- The value of digits after an optional single sign. -/
def signed? : List Char → Option Int
  | '+' :: ds => (natural? ds).map Int.ofNat
  | '-' :: ds => (natural? ds).map fun n => -(n : Int)
  | ds => (natural? ds).map Int.ofNat

/-- The range of a signed integer of sixty-four bits. -/
def isInt64 (n : Int) : Bool := -9223372036854775808 ≤ n && n ≤ 9223372036854775807

/-- The value of a signed numeral that fits sixty-four bits. -/
def int64? (cs : List Char) : Option Int := (signed? cs).filter isInt64

theorem int64?_eq_some_iff {cs : List Char} {n : Int} :
    int64? cs = some n ↔
      signed? cs = some n ∧ -9223372036854775808 ≤ n ∧ n ≤ 9223372036854775807 := by
  simp [int64?, isInt64, Option.filter_eq_some_iff]

end Text

end ConferenceAuth
