/-
**Quoted texts in descriptions.**

A description shows a text between quotation marks.  Quotation marks and backslashes in it are
escaped, the line breaks, the tab and the null character are written by a letter or digit, and what
could not be seen is written by its code point.

Main definitions:

* `Text.quotedChar`, `Text.quoted` — a text as a description shows it;
* `Text.optional` — a value that may be absent, as a description shows it.
-/
import ConferenceAuth.Text.Unprintable

set_option autoImplicit false

namespace ConferenceAuth

namespace Text

/-- A character as a description shows it. -/
def quotedChar (c : Char) : List Char :=
  match c with
  | '"' => ['\\', '"']
  | '\\' => ['\\', '\\']
  | '\n' => ['\\', 'n']
  | '\r' => ['\\', 'r']
  | '\t' => ['\\', 't']
  | '\x00' => ['\\', '0']
  | c =>
      if isUnprintable c then
        '\\' :: 'u' :: '\x7b' :: (Nat.toDigits 16 c.toNat ++ ['\x7d'])
      else [c]

/-- **A text as a description shows it.** -/
def quoted (s : String) : String :=
  String.ofList ('"' :: s.toList.flatMap quotedChar ++ ['"'])

/-- A value that may be absent, as a description shows it. -/
def optional (v : Option String) : String :=
  match v with
  | some v => "Some(" ++ v ++ ")"
  | none => "None"

end Text

end ConferenceAuth
