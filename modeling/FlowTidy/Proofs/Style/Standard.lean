import FlowTidy.Style.Reader
import FlowTidy.Proofs.Text.Basic

/-!
Standard styles: those that pass validation, write no init block of their own, and have the default
properties. Indentation, class names and enforcement are free.
-/

namespace FlowTidy

open Text

/-- A style that passes validation, writes no init block, and has the default properties. -/
structure Style.Standard (style : Style) : Prop where
  valid : style.validate = .ok style
  initBlock : style.initBlock = none
  contentProperties : style.contentProperties = Style.default.contentProperties
  workflowProperties : style.workflowProperties = Style.default.workflowProperties
  mainLink : style.mainLink = Style.default.mainLink
  workflowLink : style.workflowLink = Style.default.workflowLink
  crossReferenceLink : style.crossReferenceLink = Style.default.crossReferenceLink

namespace Style

theorem standard_default : default.Standard := ⟨rfl, rfl, rfl, rfl, rfl, rfl, rfl⟩

theorem standard_passthrough : passthrough.Standard := ⟨rfl, rfl, rfl, rfl, rfl, rfl, rfl⟩

/-- An indentation that leaves lines as they are, blanks aside. -/
def IndentsBlank (style : Style) : Prop := ∀ c ∈ style.indentUnit, c = ' ' ∨ c = '\t'

theorem isIdent_of_isIdentifier {t : Text} (h : isIdentifier t = true) : t.IsIdent := by
  rw [isIdentifier, Bool.and_eq_true, List.all_eq_true] at h
  exact ⟨by simpa using h.1, h.2⟩

/-- A style is valid just if it indents by blanks and its classes are identifiers. -/
theorem valid_iff {style : Style} :
    style.validate = .ok style ↔ style.IndentsBlank ∧ isIdentifier style.contentClass = true ∧
      isIdentifier style.workflowClass = true := by
  have hindent : style.IndentsBlank ↔
      (style.indentUnit.all fun c => c == ' ' || c == '\t') = true := by
    simp [IndentsBlank]
  rw [hindent, validate]
  cases style.indentUnit.all fun c => c == ' ' || c == '\t' <;>
    cases isIdentifier style.contentClass <;> cases isIdentifier style.workflowClass <;> simp

namespace Standard

variable {style : Style} (h : style.Standard)
include h

theorem indentsBlank : style.IndentsBlank := (valid_iff.mp h.valid).1

theorem contentClass : style.contentClass.IsIdent :=
  isIdent_of_isIdentifier (valid_iff.mp h.valid).2.1

theorem workflowClass : style.workflowClass.IsIdent :=
  isIdent_of_isIdentifier (valid_iff.mp h.valid).2.2

end Standard

end Style

end FlowTidy
