/-
A text shown between double quotes, on one line and without invisible
characters.
-/
import WorkedEquations.Text.HiddenTable

namespace WorkedEquations
namespace Text

/-- A character as it stands in a quoted text. Quotes and backslashes follow a backslash, line
ends and the like have letters, and what cannot be seen is written as its code point. -/
def quotedChar (c : Char) : List Char :=
  match c with
  | '"' => ['\\', '"']
  | '\\' => ['\\', '\\']
  | '\n' => ['\\', 'n']
  | '\r' => ['\\', 'r']
  | '\t' => ['\\', 't']
  | '\x00' => ['\\', '0']
  | c =>
    if c.toNat < 0x20 || inRanges hiddenRanges c then
      ['\\', 'u', '\x7b'] ++ Nat.toDigits 16 c.toNat ++ ['\x7d']
    else [c]

/-- The text in quotes. -/
def quoted (s : String) : String :=
  String.ofList ('"' :: s.toList.flatMap quotedChar ++ ['"'])

end Text
end WorkedEquations
