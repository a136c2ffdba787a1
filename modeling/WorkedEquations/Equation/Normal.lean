/-
The canonical form of an equation text: ASCII digits and signs, no white
space, lower-case letters. Nothing is refused here.
-/
import WorkedEquations.Text.Blank
import WorkedEquations.Text.LowerCase

namespace WorkedEquations

/-- The zeros of the localized digits: Arabic-Indic, Extended Arabic-Indic, Devanagari and
full-width. Nine more digits follow each. -/
def localZeros : List Nat := [0x660, 0x6F0, 0x966, 0xFF10]

/-- The ASCII digit for a localized one. -/
def asciiDigit? (c : Char) : Option Char :=
  (localZeros.find? fun first => decide (first ≤ c.toNat) && decide (c.toNat ≤ first + 9)).map
    fun first => Char.ofNat (c.toNat - first + 0x30)

/-- The ASCII spelling of a localized decimal point, minus, times or square sign. -/
def asciiSymbol? : Char → Option (List Char)
  | '٫' => some ['.']
  | '−' | '–' => some ['-']
  | '×' | '·' => some ['*']
  | '²' => some ['^', '2']
  | _ => none

/-- What a character contributes to the canonical form. Every character that has a lower case is
a letter, so other characters stay as they are. -/
def normalChar (c : Char) : List Char :=
  if Text.isBlank c then []
  else
    match asciiDigit? c with
    | some digit => [digit]
    | none =>
      match asciiSymbol? c with
      | some symbol => symbol
      | none => Text.lowerChar c

/-- The canonical form of a text. -/
def normalize (raw : String) : String := String.ofList (raw.toList.flatMap normalChar)

end WorkedEquations
