/-
What holds of every equation that is taken: it is of the family that was asked
for, its coefficients are finite numbers, and its unknown is a letter from a
to z. A worked equation is made from such an equation.
-/
import WorkedEquations.Proofs.Equation.Systems
import WorkedEquations.Solution.Worked

namespace WorkedEquations

def Row.Finite (r : Row) : Prop :=
  r.a.isFinite = true ∧ r.b.isFinite = true ∧ r.c.isFinite = true

/-- An equation of a family as it may be taken from a text. -/
inductive Equation.Taken : Family → Equation → Prop where
  | linear {a b c : Binary64} {v : Char} : a.isFinite = true → b.isFinite = true →
      c.isFinite = true → 'a' ≤ v ∧ v ≤ 'z' → Taken .linear ⟨.linear a b c, v⟩
  | quadratic {a b c : Binary64} {v : Char} : a.isFinite = true → b.isFinite = true →
      c.isFinite = true → 'a' ≤ v ∧ v ≤ 'z' → Taken .quadratic ⟨.quadratic a b c, v⟩
  | system {r s : Row} : r.Finite → s.Finite → Taken .system ⟨.system r s, 'x'⟩

theorem Equation.Taken.family_eq {family : Family} {e : Equation} (h : e.Taken family) :
    e.family = family := by
  cases h <;> rfl

/-! ## What is written is finite -/

theorem Constant.DenotesOptional.isFinite {o : Option Constant} {x : Binary64}
    (h : DenotesOptional o x) : x.isFinite = true := by
  cases o with
  | none => exact h.1
  | some c => exact h.1

theorem Term.DenotesOptional.isFinite {o : Option Term} {x : Binary64} (h : DenotesOptional o x) :
    x.isFinite = true := by
  cases o with
  | none => exact h.1
  | some t => exact h.1

theorem WritesLinear.taken {text : String} {e : Equation} (h : WritesLinear text e) :
    e.Taken .linear := by
  obtain ⟨f, a, b, c, -, hvalid, -, ha, hb, hc, rfl⟩ := h
  exact .linear ha.1 hb.isFinite hc.1 hvalid.lead.letter

theorem WritesQuadratic.taken {text : String} {e : Equation} (h : WritesQuadratic text e) :
    e.Taken .quadratic := by
  obtain ⟨f, a, b, c, -, hvalid, -, -, -, ha, hb, hc, rfl⟩ := h
  exact .quadratic ha.1 hb.isFinite hc.isFinite hvalid.lead.letter

theorem WritesRow.finite {text : String} {r : Row} (h : WritesRow text r) : r.Finite := by
  obtain ⟨f, -, -, -, -, ha, hb, hc⟩ := h
  exact ⟨ha.1, hb.1, hc.1⟩

/-! ## The ways in -/

theorem taken_of_classifySystem {first second : String} {e : Equation}
    (h : classifySystem first second = .ok e) : e.Taken .system := by
  obtain ⟨r, s, hr, hs, rfl⟩ := classifySystem_eq_ok_iff.mp h
  exact .system hr.finite hs.finite

theorem taken_of_classify {text : String} {family : Family} {e : Equation}
    (h : classify text family = .ok e) : e.Taken family := by
  cases family with
  | linear => exact (classifyLinear_eq_ok_iff.mp h).taken
  | quadratic => exact (classifyQuadratic_eq_ok_iff.mp h).taken
  | system =>
    obtain ⟨first, second, -, -, hok⟩ := classify_system_eq_ok h
    exact taken_of_classifySystem hok

namespace Worked

theorem exists_of_isOk {texts : String × Option String} {family : Family}
    (h : (classified texts family).isOk = true) : ∃ e, classified texts family = .ok e := by
  cases he : classified texts family with
  | error r =>
    rw [he] at h
    cases h
  | ok e => exact ⟨e, rfl⟩

theorem taken_of_classified {texts : String × Option String} {family : Family} {e : Equation}
    (h : classified texts family = .ok e) : e.Taken e.family := by
  obtain ⟨first, _ | second⟩ := texts
  · have htaken : e.Taken family := taken_of_classify h
    rwa [htaken.family_eq]
  · have htaken : e.Taken .system := taken_of_classifySystem h
    rwa [htaken.family_eq]

/-- The canonical texts of a family are taken as an equation of that family. -/
theorem taken_of_canonical {raw : String} {second : Option String} {family : Family} {e : Equation}
    (h : classified (canonical raw second family) family = .ok e) : e.Taken family := by
  cases family with
  | linear => exact taken_of_classify h
  | quadratic => exact taken_of_classify h
  | system => exact taken_of_classifySystem h

end Worked

/-! ## Worked equations -/

theorem solveWith_eq_ok_iff {settings : Settings} {raw : String} {second : Option String}
    {family : Family} {w : Worked} : solveWith settings raw second family = .ok w ↔
      ∃ e, Worked.classified (Worked.canonical raw second family) family = .ok e ∧
        w = Worked.ofEquation settings family (Worked.textOf (Worked.canonical raw second family)) e := by
  simp only [solveWith]
  cases Worked.classified (Worked.canonical raw second family) family with
  | error r => simp [Except.map]
  | ok e => simp [Except.map, eq_comm]

theorem solveWith_family {settings : Settings} {raw : String} {second : Option String}
    {family : Family} {w : Worked} (h : solveWith settings raw second family = .ok w) :
    w.family = family := by
  obtain ⟨e, -, rfl⟩ := solveWith_eq_ok_iff.mp h
  rfl

end WorkedEquations
