/-
**Texts in the JSON format.**

A text is written between quotation marks.  Quotation marks, backslashes and control characters are
escaped, the customary ones by a letter and the others by their code point; all other characters
stand for themselves.

Main definitions:

* `Text.jsonString` — a text between quotation marks.
-/
set_option autoImplicit false

namespace ConferenceAuth

namespace Text

/-- A code point below `256` in four hexadecimal digits. -/
def hex4 (n : Nat) : List Char := ['0', '0', Nat.digitChar (n / 16), Nat.digitChar (n % 16)]

/-- A character as it is written in a JSON text. -/
def jsonChar (c : Char) : List Char :=
  match c with
  | '"' => ['\\', '"']
  | '\\' => ['\\', '\\']
  | '\n' => ['\\', 'n']
  | '\r' => ['\\', 'r']
  | '\t' => ['\\', 't']
  | '\x08' => ['\\', 'b']
  | '\x0c' => ['\\', 'f']
  | c => if c.toNat < 32 then '\\' :: 'u' :: hex4 c.toNat else [c]

/-- A text between quotation marks. -/
def jsonString (s : String) : String :=
  String.ofList ('"' :: s.toList.flatMap jsonChar ++ ['"'])

end Text

end ConferenceAuth
