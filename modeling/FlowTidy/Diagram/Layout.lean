import FlowTidy.Line.Render
import FlowTidy.Style.Basic

/-!
The canonical text of a diagram: the declaration, then the lines of each statement, indented by how
deep it is nested. Where styling is enforced, the first class definition, the first class use and
the first link style are each replaced by the canonical lines and the later ones by nothing; link
styles are put at the end of a diagram that has connections and no link style.
-/

namespace FlowTidy

/-! ## Nesting -/

/-- The depth of an element's own line when `depth` subgraphs are open before it. -/
def Element.ownDepth (depth : Nat) : Element → Nat
  | .subgraphEnd => depth - 1
  | _ => depth

/-- The number of subgraphs that are open after an element. An `end` without a subgraph to close
changes nothing. -/
def Element.depthAfter (depth : Nat) : Element → Nat
  | .subgraphStart _ _ => depth + 1
  | .subgraphEnd => depth - 1
  | _ => depth

/-- The depth of each element of a body. -/
def nesting : (depth : Nat) → List Element → List Nat
  | _, [] => []
  | depth, e :: es => e.ownDepth depth :: nesting (e.depthAfter depth) es

/-- The number of subgraphs that are open at the end of a body. -/
def finalDepth (depth : Nat) (elements : List Element) : Nat :=
  elements.foldl (fun depth e => e.depthAfter depth) depth

/-! ## Canonical styling -/

/-- The kinds of elements that enforced styling replaces. -/
inductive StyleKind where
  | classDef
  | classUse
  | linkStyle
  deriving DecidableEq, Repr

def Element.styleKind? : Element → Option StyleKind
  | .classDef _ _ => some .classDef
  | .classUse _ _ => some .classUse
  | .linkStyle _ _ => some .linkStyle
  | _ => none

/-- The canonical lines of each kind for a body with the given elements. -/
def Style.canonical (style : Style) (elements : List Element) : StyleKind → List Text
  | .classDef =>
    [renderClassDef style.contentClass style.contentProperties,
      renderClassDef style.workflowClass style.workflowProperties]
  | .classUse =>
    let classes := NodeClasses.of elements
    [(classes.content, style.contentClass), (classes.workflow, style.workflowClass)].filterMap
      fun (ids, className) => if ids = [] then none else some (renderClassUse ids className)
  | .linkStyle =>
    let connections := elements.filterMap Element.connection?
    [(LinkCategory.main, style.mainLink), (.workflow, style.workflowLink),
        (.crossReference, style.crossReferenceLink)].filterMap fun (category, properties) =>
      let positions := linkPositions category connections
      if positions = [] then none else some (renderLinkStyle positions (properties ++ [';']))

/-- The lines of each element when the canonical ones are enforced. `seen` holds the kinds that were
replaced before. -/
def enforcedLines (canonical : StyleKind → List Text) :
    (seen : List StyleKind) → List Element → List (List Text)
  | _, [] => []
  | seen, e :: es =>
    match e.styleKind? with
    | none => [e.render] :: enforcedLines canonical seen es
    | some kind =>
      (if kind ∈ seen then [] else canonical kind) :: enforcedLines canonical (kind :: seen) es

/-- The lines of each element of a body. -/
def Style.linesOf (style : Style) (elements : List Element) : List (List Text) :=
  if style.enforce then enforcedLines (style.canonical elements) [] elements
  else elements.map fun e => [e.render]

/-- The lines after the last element: link styles, if they are enforced and the body has none. -/
def Style.closingLines (style : Style) (elements : List Element) : List Text :=
  if style.enforce ∧ ∀ e ∈ elements, e.styleKind? ≠ some .linkStyle then
    style.canonical elements .linkStyle
  else []

/-! ## Whole diagrams -/

/-- A line at a depth of nesting. The body of a diagram is itself one level deep. -/
def Style.indented (style : Style) (depth : Nat) (line : Text) : Text :=
  Text.copies (depth + 1) style.indentUnit ++ line

/-- The lines of a body: those of each element at its depth, and then those at the end. -/
def Style.bodyLines (style : Style) (elements : List Element) : List Text :=
  let own := (nesting 0 elements).zip (style.linesOf elements)
  own.flatMap (fun (depth, lines) => lines.map (style.indented depth))
    ++ (style.closingLines elements).map (style.indented (finalDepth 0 elements))

/-- The canonical text of a diagram. -/
def Diagram.format (style : Style) (d : Diagram) : Text :=
  Text.joined ['\n']
    (style.initBlock.toList ++ (d.declaration.getD {}).render :: style.bodyLines d.elements)

end FlowTidy
