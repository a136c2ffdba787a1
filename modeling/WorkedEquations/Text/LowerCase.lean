/-
Lower case. A character alone has a fixed lower case; in a text the Greek
capital sigma that ends a word becomes the final form.
-/
import WorkedEquations.Text.CaseTable

namespace WorkedEquations
namespace Text

/-- The lower case of one character: almost always one character, itself if it has no case.
The capital I with a dot becomes an `i` and a combining dot. -/
def lowerChar (c : Char) : List Char :=
  if c = 'İ' then ['i', '\u0307']
  else match caseRuns.find? (·.contains c.toNat) with
    | some r => [Char.ofNat ((c.toNat : Int) + r.shift).toNat]
    | none => [c]

/-- The nearest character that is not passed over has a case. -/
def facesCased (cs : List Char) : Bool :=
  match cs.dropWhile (inRanges caseIgnorableRanges) with
  | [] => false
  | c :: _ => inRanges casedRanges c

/-- Lower case of the rest of a text, given what stands before it, nearest character first. A
capital sigma becomes final where a letter stands before it and none after it. -/
def lowerAfter : (before rest : List Char) → List Char
  | _, [] => []
  | before, 'Σ' :: rest =>
    (if facesCased before && !facesCased rest then 'ς' else 'σ') :: lowerAfter ('Σ' :: before) rest
  | before, c :: rest => lowerChar c ++ lowerAfter (c :: before) rest

/-- The text in lower case. -/
def lower (s : String) : String := String.ofList (lowerAfter [] s.toList)

end Text
end WorkedEquations
