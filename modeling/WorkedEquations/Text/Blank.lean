/-
White space: the characters that separate and never carry meaning, and
cutting them off the ends of a text.
-/
import WorkedEquations.Text.CodeRange

namespace WorkedEquations
namespace Text

/-- The code points with the White_Space property: 25 in 10 runs. -/
def blankRanges : List CodeRange :=
  [(0x9, 0xD), (0x20, 0x20), (0x85, 0x85), (0xA0, 0xA0), (0x1680, 0x1680), (0x2000, 0x200A),
    (0x2028, 0x2029), (0x202F, 0x202F), (0x205F, 0x205F), (0x3000, 0x3000)]

/-- White space in any script: blanks, tabs, line ends, no-break and ideographic spaces. -/
def isBlank (c : Char) : Bool := inRanges blankRanges c

/-- The text without the white space at its start. -/
def trimStart (cs : List Char) : List Char := cs.dropWhile isBlank

/-- The text without the white space at its end. -/
def trimEnd (cs : List Char) : List Char := (cs.reverse.dropWhile isBlank).reverse

/-- The text without the white space at either end. -/
def trim (cs : List Char) : List Char := trimEnd (trimStart cs)

end Text
end WorkedEquations
