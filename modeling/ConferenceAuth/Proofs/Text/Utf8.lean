/-
**What is encoded is read back.**

The reader of UTF-8 accepts arbitrary bytes, and puts replacement characters where it cannot read
them.  Where the bytes are those of a text it never does so: it takes in the bytes of one character,
of which there are one to four, and gives back just this character at the last of them.

Main results:

* `Text.utf8Feed_more`, `Text.utf8Feed_last` — a byte that fits, inside a character;
* `Text.utf8Run_one`, `Text.utf8Run_two`, `Text.utf8Run_three`, `Text.utf8Run_four` — the bytes of a
  code point are read as this code point;
* `Text.utf8Run_encodeChar` — the bytes of one character are read as this character;
* `Text.utf8Decode_encode` — **the bytes of a text are read as this text**;
* `Text.utf8Encode_of_ascii` — in an ASCII text every character is one byte.
-/
import ConferenceAuth.Text.Utf8

set_option autoImplicit false

namespace ConferenceAuth

namespace Text

/-! ### The machine, byte by byte -/

/-- A byte takes the machine to its next state. -/
theorem utf8Run_cons (state : Utf8State) (b : UInt8) (bs : List UInt8) :
    utf8Run state (b :: bs) =
      (utf8Feed state b.toNat).1 ++ utf8Run (utf8Feed state b.toNat).2 bs := rfl

/-- A byte below `0x80` is a character. -/
theorem utf8Start_one {b : Nat} (h : b < 0x80) : utf8Start b = ([Char.ofNat b], .between) :=
  if_pos h

/-- The first of two bytes. -/
theorem utf8Start_two {b : Nat} (hlow : 0xC2 ≤ b) (hhigh : b < 0xE0) :
    utf8Start b = ([], .inside 1 0x80 0xBF (b - 0xC0)) := by
  rw [utf8Start, if_neg (by omega), if_neg (by omega), if_pos hhigh]

/-- The first of three bytes. -/
theorem utf8Start_three {b : Nat} (hlow : 0xE0 ≤ b) (hhigh : b < 0xF0) :
    utf8Start b = ([], .inside 2 (if b = 0xE0 then 0xA0 else 0x80)
      (if b = 0xED then 0x9F else 0xBF) (b - 0xE0)) := by
  rw [utf8Start, if_neg (by omega), if_neg (by omega), if_neg (by omega), if_pos hhigh]

/-- The first of four bytes. -/
theorem utf8Start_four {b : Nat} (hlow : 0xF0 ≤ b) (hhigh : b < 0xF5) :
    utf8Start b = ([], .inside 3 (if b = 0xF0 then 0x90 else 0x80)
      (if b = 0xF4 then 0x8F else 0xBF) (b - 0xF0)) := by
  rw [utf8Start, if_neg (by omega), if_neg (by omega), if_neg (by omega), if_neg (by omega),
    if_pos hhigh]

/-- A byte that fits, but is not the last of its character. -/
theorem utf8Feed_more {left low high bits b : Nat} (hlow : low ≤ b) (hhigh : b ≤ high)
    (hleft : 1 < left) : utf8Feed (.inside left low high bits) b =
      ([], .inside (left - 1) 0x80 0xBF (bits * 64 + (b - 0x80))) := by
  rw [utf8Feed, if_pos ⟨hlow, hhigh⟩]
  exact if_neg (by omega)

/-- A byte that fits and is the last of its character. -/
theorem utf8Feed_last {low high bits b : Nat} (hlow : low ≤ b) (hhigh : b ≤ high) :
    utf8Feed (.inside 1 low high bits) b = ([Char.ofNat (bits * 64 + (b - 0x80))], .between) := by
  rw [utf8Feed, if_pos ⟨hlow, hhigh⟩]
  rfl

/-! ### Characters -/

section

variable {n : Nat} (bs : List UInt8)

/-- A number below `0x100` is a byte. -/
theorem toNat_byte (h : n < 0x100) : (UInt8.ofNat n).toNat = n := UInt8.toNat_ofNat_of_lt' h

theorem utf8Run_one (h : n ≤ 0x7F) :
    utf8Run .between (UInt8.ofNat n :: bs) = Char.ofNat n :: utf8Run .between bs := by
  rw [utf8Run_cons, toNat_byte (by omega), utf8Feed, utf8Start_one (by omega)]
  rfl

theorem utf8Run_two (hlow : 0x7F < n) (hhigh : n ≤ 0x7FF) :
    utf8Run .between (UInt8.ofNat (n / 64 % 32 + 192) :: UInt8.ofNat (n % 64 + 128) :: bs) =
      Char.ofNat n :: utf8Run .between bs := by
  have hbits : (n / 64 % 32 + 192 - 0xC0) * 64 + (n % 64 + 128 - 0x80) = n := by omega
  rw [utf8Run_cons, utf8Run_cons, toNat_byte (by omega), toNat_byte (by omega), utf8Feed,
    utf8Start_two (by omega) (by omega), utf8Feed_last (by omega) (by omega), hbits]
  rfl

/-- Overlong forms and surrogates start with the same bytes, but go on with others. -/
theorem utf8Run_three (hlow : 0x7FF < n) (hhigh : n ≤ 0xFFFF)
    (hsurrogate : n < 0xD800 ∨ 0xDFFF < n) :
    utf8Run .between (UInt8.ofNat (n / 4096 % 16 + 224) :: UInt8.ofNat (n / 64 % 64 + 128) ::
      UInt8.ofNat (n % 64 + 128) :: bs) = Char.ofNat n :: utf8Run .between bs := by
  have hfirst : (if n / 4096 % 16 + 224 = 0xE0 then 0xA0 else 0x80) ≤ n / 64 % 64 + 128 := by
    split <;> omega
  have hlast : n / 64 % 64 + 128 ≤ (if n / 4096 % 16 + 224 = 0xED then 0x9F else 0xBF) := by
    split <;> omega
  have hbits : ((n / 4096 % 16 + 224 - 0xE0) * 64 + (n / 64 % 64 + 128 - 0x80)) * 64 +
      (n % 64 + 128 - 0x80) = n := by omega
  rw [utf8Run_cons, utf8Run_cons, utf8Run_cons, toNat_byte (by omega), toNat_byte (by omega),
    toNat_byte (by omega), utf8Feed, utf8Start_three (by omega) (by omega),
    utf8Feed_more hfirst hlast (by decide), utf8Feed_last (by omega) (by omega), hbits]
  rfl

/-- What lies beyond the last code point starts with the same bytes, but goes on with others. -/
theorem utf8Run_four (hlow : 0xFFFF < n) (hhigh : n < 0x110000) :
    utf8Run .between (UInt8.ofNat (n / 262144 % 8 + 240) :: UInt8.ofNat (n / 4096 % 64 + 128) ::
      UInt8.ofNat (n / 64 % 64 + 128) :: UInt8.ofNat (n % 64 + 128) :: bs) =
      Char.ofNat n :: utf8Run .between bs := by
  have hfirst : (if n / 262144 % 8 + 240 = 0xF0 then 0x90 else 0x80) ≤ n / 4096 % 64 + 128 := by
    split <;> omega
  have hlast : n / 4096 % 64 + 128 ≤ (if n / 262144 % 8 + 240 = 0xF4 then 0x8F else 0xBF) := by
    split <;> omega
  have hbits : (((n / 262144 % 8 + 240 - 0xF0) * 64 + (n / 4096 % 64 + 128 - 0x80)) * 64 +
      (n / 64 % 64 + 128 - 0x80)) * 64 + (n % 64 + 128 - 0x80) = n := by omega
  rw [utf8Run_cons, utf8Run_cons, utf8Run_cons, utf8Run_cons, toNat_byte (by omega),
    toNat_byte (by omega), toNat_byte (by omega), toNat_byte (by omega), utf8Feed,
    utf8Start_four (by omega) (by omega), utf8Feed_more hfirst hlast (by decide),
    utf8Feed_more (by omega) (by omega) (by decide), utf8Feed_last (by omega) (by omega), hbits]
  rfl

/-- **The bytes of a character are read as this character.** -/
theorem utf8Run_encodeChar (c : Char) :
    utf8Run .between (String.utf8EncodeChar c ++ bs) = c :: utf8Run .between bs := by
  have hvalid : c.toNat < 0xD800 ∨ 0xDFFF < c.toNat ∧ c.toNat < 0x110000 := c.valid
  have hc : Char.ofNat c.toNat = c := Char.ofNat_toNat c
  unfold String.utf8EncodeChar
  dsimp only
  rw [Char.toNat_val]
  generalize c.toNat = n at hvalid hc
  subst hc
  split
  · next h => exact utf8Run_one bs h
  · split
    · next hlow h => exact utf8Run_two bs (Nat.lt_of_not_le hlow) h
    · split
      · next hlow h => exact utf8Run_three bs (Nat.lt_of_not_le hlow) h (by omega)
      · next hlow => exact utf8Run_four bs (Nat.lt_of_not_le hlow) (by omega)

end

/-! ### Texts -/

/-- **The bytes of a text are read as this text.** -/
theorem utf8Decode_encode (cs : List Char) : utf8Decode (utf8Encode cs) = cs := by
  induction cs with
  | nil => rfl
  | cons c cs ih =>
      rw [utf8Decode, utf8Encode, List.flatMap_cons, utf8Run_encodeChar]
      exact congrArg (c :: ·) ih

/-- In an ASCII text every character is one byte. -/
theorem utf8Encode_of_ascii {cs : List Char} (h : ∀ c ∈ cs, c.toNat < 0x80) :
    utf8Encode cs = cs.map fun c => UInt8.ofNat c.toNat := by
  induction cs with
  | nil => rfl
  | cons c cs ih =>
      have hc : c.val.toNat ≤ 127 := Nat.le_of_lt_succ (h c List.mem_cons_self)
      rw [utf8Encode, List.flatMap_cons, String.utf8EncodeChar, if_pos hc]
      exact congrArg (_ :: ·) (ih fun d hd => h d (List.mem_cons_of_mem c hd))

end Text

end ConferenceAuth
