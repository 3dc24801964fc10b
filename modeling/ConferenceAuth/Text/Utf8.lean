/-
**UTF-8, and what becomes of bytes that are none.**

Text arrives as bytes.  Bytes that are no UTF-8 do not stop the reader: every longest sequence that
could have been the start of a character, and every byte that could not, becomes one replacement
character, and reading goes on behind it.  The reader is a machine that takes one byte at a time;
its state says which bytes may come next, so that overlong forms, surrogates and code points beyond
the last are refused at their second byte already.

Main definitions:

* `Text.utf8Encode` — the bytes of a text;
* `Text.Utf8State`, `Text.utf8Feed` — the machine;
* `Text.utf8Decode` — the text of arbitrary bytes.
-/
set_option autoImplicit false

namespace ConferenceAuth

namespace Text

def utf8Encode (cs : List Char) : List UInt8 := cs.flatMap String.utf8EncodeChar

/-- The character that stands for bytes that cannot be read. -/
def replacement : Char := '\uFFFD'

/-! ### The machine -/

/-- Where the reader stands: between characters, or inside one, of which `left` bytes are still to
come, the next one between `low` and `high`, and whose bits so far are `bits`. -/
inductive Utf8State where
  /-- Between characters. -/
  | between
  /-- Inside a character. -/
  | inside (left low high bits : Nat)
  deriving DecidableEq, Repr

/-- What a byte between characters gives: a character, or the state inside one, or a byte that
cannot be read. -/
def utf8Start (b : Nat) : List Char × Utf8State :=
  if b < 0x80 then ([Char.ofNat b], .between)
  else if b < 0xC2 then ([replacement], .between)
  else if b < 0xE0 then ([], .inside 1 0x80 0xBF (b - 0xC0))
  else if b < 0xF0 then
    ([], .inside 2 (if b = 0xE0 then 0xA0 else 0x80) (if b = 0xED then 0x9F else 0xBF) (b - 0xE0))
  else if b < 0xF5 then
    ([], .inside 3 (if b = 0xF0 then 0x90 else 0x80) (if b = 0xF4 then 0x8F else 0xBF) (b - 0xF0))
  else ([replacement], .between)

/-- What a byte gives in a state: the characters that are complete with it, and the next state.  A
byte that does not fit ends the character under way and is then looked at again. -/
def utf8Feed : Utf8State → Nat → List Char × Utf8State
  | .between, b => utf8Start b
  | .inside left low high bits, b =>
      if low ≤ b ∧ b ≤ high then
        let bits := bits * 64 + (b - 0x80)
        if left ≤ 1 then ([Char.ofNat bits], .between)
        else ([], .inside (left - 1) 0x80 0xBF bits)
      else
        let (cs, state) := utf8Start b
        (replacement :: cs, state)

/-- What the end of the bytes gives in a state. -/
def utf8Finish : Utf8State → List Char
  | .between => []
  | .inside .. => [replacement]

/-- The text of bytes that are read from a state on. -/
def utf8Run : Utf8State → List UInt8 → List Char
  | state, [] => utf8Finish state
  | state, b :: bs =>
      let (cs, next) := utf8Feed state b.toNat
      cs ++ utf8Run next bs

/-- **The text of arbitrary bytes.** -/
def utf8Decode (bs : List UInt8) : List Char := utf8Run .between bs

end Text

end ConferenceAuth
