/-
From a canonical text to an equation: find the form of the family, check its
letters and stars, then read the coefficients in order. The first check or
reading that fails decides the refusal.
-/
import WorkedEquations.Equation.Basic
import WorkedEquations.Equation.Form
import WorkedEquations.Equation.Refusal

namespace WorkedEquations

/-- The refusal of a text of a family whose coefficient could not be read. -/
def Unreadable.toRefusal (family : Family) (text : String) : Unreadable → Refusal
  | foreignDigit => ⟨family, .mismatch text⟩
  | tooLarge token => ⟨family, .tooLarge text (String.ofList token)⟩

/-- The equation a linear form writes. -/
def LinearForm.read (f : LinearForm) : Except Unreadable Equation := do
  let a ← f.lead.multiplier.read
  let b ← Constant.readOptional f.constant
  let c ← f.right.read
  return ⟨.linear a b c, f.lead.letter⟩

/-- The equation a quadratic form writes. -/
def QuadraticForm.read (f : QuadraticForm) : Except Unreadable Equation := do
  let a ← f.lead.multiplier.read
  let b ← Term.readOptional f.middle
  let c ← Constant.readOptional f.constant
  return ⟨.quadratic a b c, f.lead.letter⟩

/-- The row a row form writes. -/
def RowForm.read (f : RowForm) : Except Unreadable Row := do
  let a ← f.x.multiplier.read
  let b ← f.y.multiplier.read
  let c ← f.right.read
  return ⟨a, b, c⟩

/-- The unknown of the linear term, if there is one, is that of the square. -/
def QuadraticForm.lettersAgree (f : QuadraticForm) : Bool :=
  f.middle.all fun term => term.letter == f.lead.letter

def QuadraticForm.starsAllowed (f : QuadraticForm) : Bool :=
  f.lead.starAllowed && f.middle.all Term.starAllowed

def RowForm.starsAllowed (f : RowForm) : Bool := f.x.starAllowed && f.y.starAllowed

/-- A text taken as a form of a family: the form is found, its letters and stars are checked, and
its numbers are read. -/
def classifyForm (family : Family) (find : List Char → Option φ) (allowed : φ → Bool)
    (read : φ → Except Unreadable α) (text : String) : Except Refusal α :=
  if text.isEmpty then .error ⟨family, .empty⟩
  else
    match find text.toList with
    | none => .error ⟨family, .mismatch text⟩
    | some f =>
      if allowed f then (read f).mapError (Unreadable.toRefusal family text)
      else .error ⟨family, .mismatch text⟩

def classifyLinear : String → Except Refusal Equation :=
  classifyForm .linear LinearForm.ofText? (·.lead.starAllowed) LinearForm.read

def classifyQuadratic : String → Except Refusal Equation :=
  classifyForm .quadratic QuadraticForm.ofText? (fun f => f.lettersAgree && f.starsAllowed)
    QuadraticForm.read

/-- One row of a system. -/
def classifyRow : String → Except Refusal Row :=
  classifyForm .system RowForm.ofText? RowForm.starsAllowed RowForm.read

/-- A system from its two texts, the first row before the second. -/
def classifySystem (first second : String) : Except Refusal Equation :=
  if first.isEmpty && second.isEmpty then .error ⟨.system, .empty⟩
  else if second.isEmpty then .error ⟨.system, .missingSecond⟩
  else do
    let first ← classifyRow first
    let second ← classifyRow second
    return ⟨.system first second, 'x'⟩

/-- An equation of a family from one text; the texts of a system are parted by the first
semicolon. -/
def classify (text : String) : Family → Except Refusal Equation
  | .linear => classifyLinear text
  | .quadratic => classifyQuadratic text
  | .system =>
    match text.toList.dropWhile (· != ';') with
    | _ :: second =>
      classifySystem (String.ofList (text.toList.takeWhile (· != ';'))) (String.ofList second)
    | [] => .error ⟨.system, if text.isEmpty then .empty else .missingSecond⟩

end WorkedEquations
