import LinkedSelect.Text.Extender
import LinkedSelect.Text.Unprintable

/-!
# Quoted text

A text between double quotes in which the quote, the backslash, line breaks, tabs and the null character are escaped
by a backslash, and characters that are unprintable or extend the one before them by their number in braces.
-/

namespace LinkedSelect.Quoted

/-- A character given by its number. -/
def byNumber (c : Char) : List Char :=
  ['\\', 'u', '\x7b'] ++ Nat.toDigits 16 c.toNat ++ ['\x7d']

/-- One character of a quoted text. -/
def encodeChar (c : Char) : List Char :=
  match c with
  | '\x00' => ['\\', '0']
  | '\t' => ['\\', 't']
  | '\r' => ['\\', 'r']
  | '\n' => ['\\', 'n']
  | '"' => ['\\', '"']
  | '\\' => ['\\', '\\']
  | c => if Extender.holds c || Unprintable.holds c then byNumber c else [c]

/-- The text in quotes. -/
def encode (s : String) : String :=
  String.ofList ('"' :: s.toList.flatMap encodeChar ++ ['"'])

end LinkedSelect.Quoted
