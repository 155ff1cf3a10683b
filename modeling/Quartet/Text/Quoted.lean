import Quartet.Text.Unprintable

namespace Quartet.Text

/-!
# Quoted and escaped text

* `quoted` — a text between double quotes, on one line and readable.
* `harmless` — a text without the characters that drive a terminal.
-/

/-- A character written by its code point in hexadecimal digits. -/
def byCodePoint (c : Char) : List Char :=
  "\\u\x7b".toList ++ Nat.toDigits 16 c.toNat ++ ['\x7d']

/-- A character as it is written between double quotes. -/
def quotedChar (c : Char) : List Char :=
  match c with
  | '\x00' => "\\0".toList
  | '\t' => "\\t".toList
  | '\r' => "\\r".toList
  | '\n' => "\\n".toList
  | '\\' => "\\\\".toList
  | '"' => "\\\"".toList
  | c => if isUnprintable c then byCodePoint c else [c]

/-- A text between double quotes. -/
def quoted (text : String) : String :=
  String.ofList ('"' :: (text.toList.flatMap quotedChar ++ ['"']))

/-- A character as it may be sent to a terminal: escape, bell, backspace, form feed, delete
    and the second set of control characters are written by their codes. -/
def harmlessChar (c : Char) : List Char :=
  match c with
  | '\x1b' => "\\x1b".toList
  | '\x07' => "\\x07".toList
  | '\x08' => "\\x08".toList
  | '\x0c' => "\\x0c".toList
  | '\x7f' => "\\x7f".toList
  | c => if 0x80 ≤ c.toNat && c.toNat ≤ 0x9f then byCodePoint c else [c]

/-- A text without the characters that drive a terminal. -/
def harmless (text : String) : String := String.ofList (text.toList.flatMap harmlessChar)

end Quartet.Text
