import StackMachine.Text.GraphemeExtend
import StackMachine.Text.Unprintable

/-!
# Quoted text

A complaint shows the text it is about between double quotes, so that every character of it can be
seen: what would not print, or would join its neighbour, appears as an escape.
-/

namespace StackMachine.Text

/-- Whether a character would join its neighbour.  The halfwidth sound marks U+FF9E and U+FF9F extend
the character before them too, but in a place of their own. -/
def joins (c : Char) : Bool :=
  isExtender c && !(CharRange.contains ⟨0xFF9E, 0xFF9F⟩ c)

/-- How a character appears between quotes. -/
def escape (c : Char) : List Char :=
  match c with
  | '\x00' => ['\\', '0']
  | '\t' => ['\\', 't']
  | '\n' => ['\\', 'n']
  | '\r' => ['\\', 'r']
  | '"' => ['\\', '"']
  | '\\' => ['\\', '\\']
  | c =>
    if joins c || isUnprintable c then
      ['\\', 'u', '\x7b'] ++ Nat.toDigits 16 c.toNat ++ ['\x7d']
    else
      [c]

/-- A text between double quotes, with escapes. -/
def quote (s : String) : String :=
  String.ofList ('"' :: s.toList.flatMap escape ++ ['"'])

end StackMachine.Text
