import FlowTidy.Diagram.Basic
import FlowTidy.Order

/-!
Style settings, and what they style. The settings say how diagrams are indented, and which classes
and link styles are canonical. Nodes have one of two classes: a node belongs to the workflow if its
identifier says so, or if it stands in a subgraph that is marked as a workflow; all other nodes are
content. Connections have one of three categories.
-/

namespace FlowTidy

/-! ## Settings -/

/-- The settings by which diagrams are written. -/
structure Style where
  /-- Whether class definitions, class uses and link styles are replaced by the canonical ones. -/
  enforce : Bool := true
  /-- What is written once per level at the start of a line. -/
  indentUnit : Text := [' ', ' ']
  contentClass : Text := "chapter".toList
  workflowClass : Text := "workflowNode".toList
  contentProperties : Text :=
    "fill:#fff,stroke:#F1D302,stroke-width:2px,color:#235789,font-size:16px,font-weight:bold".toList
  workflowProperties : Text :=
    "fill:#fff,stroke:#C1292E,stroke-width:2px,color:#235789,font-size:16px,font-weight:bold".toList
  mainLink : Text := "stroke:#235789,stroke-width:3px".toList
  workflowLink : Text := "stroke:#F1D302,stroke-width:2.5px,stroke-dasharray:6,5".toList
  crossReferenceLink : Text := "stroke:#C1292E,stroke-width:2.5px,stroke-dasharray:2,5".toList
  /-- Written before the declaration as it is. -/
  initBlock : Option Text := none
  deriving DecidableEq, Repr

/-- The default settings. -/
def Style.default : Style := {}

/-- The default settings without canonical styling. -/
def Style.passthrough : Style := { enforce := false }

/-! ## Classes of nodes -/

/-- The identifiers of the nodes of a diagram by class, each list sorted and without duplicates. -/
structure NodeClasses where
  content : List Text
  workflow : List Text
  deriving DecidableEq, Repr

/-- What marks a subgraph as a workflow when its identifier or label holds it. -/
def workflowMark : Text := "Workflow".toList

/-- Whether an identifier is `W` followed by ASCII digits. -/
def isWorkflowId : Text → Bool
  | 'W' :: digits => !digits.isEmpty && digits.all Char.isDigit
  | _ => false

/-- Whether a subgraph is marked as a workflow. -/
def isWorkflowSubgraph (id : Text) (label : Option Text) : Bool :=
  Text.holds id workflowMark || label.any fun l => Text.holds l workflowMark

/-- The identifiers of nodes that an element mentions. -/
def Element.nodeIds : Element → List Text
  | .node n => [n.id]
  | .connection c => [c.source, c.target]
  | _ => []

def Element.subgraphId? : Element → Option Text
  | .subgraphStart id _ => some id
  | _ => none

/-- The nodes that stand in a marked subgraph. The mark holds until the next `end`, whichever
subgraph it closes. -/
def markedNodes : (inside : Bool) → List Element → List Text
  | _, [] => []
  | inside, .node n :: es => (if inside then [n.id] else []) ++ markedNodes inside es
  | inside, .subgraphStart id label :: es => markedNodes (inside || isWorkflowSubgraph id label) es
  | _, .subgraphEnd :: es => markedNodes false es
  | inside, _ :: es => markedNodes inside es

/-- The classes of the nodes that some elements mention. Subgraphs are in neither class. -/
def NodeClasses.of (elements : List Element) : NodeClasses :=
  let known := elements.flatMap Element.nodeIds
  let subgraphs := elements.filterMap Element.subgraphId?
  let marked := markedNodes false elements
  let inWorkflow (id : Text) : Bool := marked.contains id || isWorkflowId id
  let styled := known.filter fun id => !subgraphs.contains id
  { content := Text.sorted (styled.filter fun id => !inWorkflow id)
    workflow := Text.sorted (styled.filter inWorkflow) }

/-! ## Categories of connections -/

inductive LinkCategory where
  | main
  | workflow
  | crossReference
  deriving DecidableEq, Repr

def LinkCategory.name : LinkCategory → String
  | .main => "main"
  | .workflow => "workflow"
  | .crossReference => "cross-reference"

/-- A dotted connection with a label is a cross-reference, any other dotted arrow a workflow link,
and all else a main link. -/
def Connection.category (c : Connection) : LinkCategory :=
  if c.label.isSome && c.arrow.isDotted then .crossReference
  else if c.arrow.isDottedArrow then .workflow
  else .main

/-- The positions, from 0, of the connections of a category. -/
def linkPositions (category : LinkCategory) (connections : List Connection) : List Nat :=
  (connections.zipIdx.filter fun c => c.1.category = category).map Prod.snd

end FlowTidy
