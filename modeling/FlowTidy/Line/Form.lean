import FlowTidy.Scanner
import FlowTidy.Diagram.Element

/-!
The forms that a line of a flowchart can have. Each form is a scanner for one kind of line, and a
line has a form when that scanner accounts for all of it. Some lines have two forms; the one that
comes first in `LineForm.priority` is theirs. A line without any form is kept as it is.
-/

namespace FlowTidy

/-- The forms of a line. -/
inductive LineForm where
  | declaration
  | comment
  | subgraphStart
  | subgraphEnd
  | classDef
  | classUse
  | linkStyle
  | labeledPipe
  | dottedInline
  | unlabeled
  | stadium
  | forwardTrapezoid
  | reverseTrapezoid
  | quotedRectangle
  | unquotedRectangle
  | bareNode
  deriving DecidableEq, Repr

namespace LineForm

open Scanner

/-! ## Parts of lines -/

/-- The label that a piece of a line stands for: its text without surrounding blanks, or no label
when nothing but quotes and blanks is there. -/
def label? (piece : Text) : Option Text :=
  if Text.trim (Text.unquote (Text.trim piece)) = [] then none else some (Text.trim piece)

/-- A layout direction. -/
def direction : Scanner Direction :=
  firstOf (Direction.all.map fun d => do keyword d.keyword; return d)

/-- An arrow between two identifiers. -/
def arrow : Scanner Arrow :=
  firstOf (Arrow.glyphOrder.map fun a => do mark a.glyph; return a)

/-- The position of a connection: a number below 2 ^ 64. -/
def index : Scanner Nat := do
  let digits ← run1 Char.isDigit
  let n := Nat.ofDigitChars 10 digits 0
  if n < Nat.pow 2 64 then return n else failure

/-- The positions that a link style names. -/
def indices : Scanner (List Nat) :=
  (do keyword ['d', 'e', 'f', 'a', 'u', 'l', 't']; return []) <|> commaList index

/-- The second half of a dotted line that carries its label. -/
def inlineClosing : Scanner Unit := mark ['.', '-'] <|> mark ['-', '.', '-', '>']

/-- What ends a dotted line that carries its label: its second half and the target. -/
def inlineTail : Scanner Text := do
  blanks
  inlineClosing
  blanks
  ident

/-- The label of a subgraph, in brackets. -/
def subgraphLabel : Scanner Text :=
  (do
    mark ['[', '"']
    let text ← run1 (· != '"')
    mark ['"', ']']
    return text) <|>
  (do
    mark ['[']
    let text ← run1 (· != ']')
    mark [']']
    return text)

/-! ## Forms -/

/-- `flowchart LR`, with or without a direction. -/
def declarationLine : Scanner Element := do
  let kind ← firstOf (Kind.all.map fun k => do keyword k.keyword; return k)
  blanks
  let direction ← optional direction
  blanks
  return .declaration { kind, direction := direction.getD .topBottom }

/-- `%% text` -/
def commentLine : Scanner Element := do
  mark ['%', '%']
  blanks
  return .comment (← rest)

/-- `subgraph id["Label"]`, with or without a label and its quotes. -/
def subgraphStartLine : Scanner Element := do
  keyword ['s', 'u', 'b', 'g', 'r', 'a', 'p', 'h']
  blanks1
  let id ← ident
  let text ← optional (do blanks; subgraphLabel)
  blanks
  return .subgraphStart id (text.bind label?)

/-- `end` -/
def subgraphEndLine : Scanner Element := do
  keyword ['e', 'n', 'd']
  return .subgraphEnd

/-- The properties of a class: the rest of its line without the semicolons and blanks at the end. -/
def classProperties (text : Text) : Text :=
  Text.trimEnd (Text.dropEnd (· == ';') (Text.trimEnd text))

/-- `classDef name fill:#fff;` -/
def classDefLine : Scanner Element := do
  keyword ['c', 'l', 'a', 's', 's', 'D', 'e', 'f']
  blanks1
  let name ← ident
  blanks1
  let properties := classProperties (← rest)
  if properties = [] then failure else return .classDef name properties

/-- `class A,B name;` -/
def classUseLine : Scanner Element := do
  keyword ['c', 'l', 'a', 's', 's']
  blanks1
  let ids ← commaList ident
  blanks1
  let className ← ident
  let _ ← optional (mark [';'])
  blanks
  return .classUse ids className

/-- `linkStyle 0,2 stroke:#f00`, or `linkStyle default stroke:#f00` for every connection. -/
def linkStyleLine : Scanner Element := do
  keyword ['l', 'i', 'n', 'k', 'S', 't', 'y', 'l', 'e']
  blanks1
  let indices ← indices
  blanks1
  let properties := Text.trim (← rest)
  if properties = [] then failure else return .linkStyle indices properties

/-- `A -->|"label"| B` -/
def labeledPipeLine : Scanner Element := do
  let source ← ident
  blanks
  let arrow ← arrow
  blanks
  mark ['|']
  quote?
  let text ← run1 fun c => c != '"' && c != '|'
  quote?
  mark ['|']
  blanks
  let target ← ident
  return .connection { source, target, arrow, label := label? text }

/-- `A -. "label" .- B`; the second half of the line may also be `-.->`. The label is whatever
stands before the first place from which the rest of the line is a tail, and there must be one. -/
def dottedInlineLine : Scanner Element := do
  let source ← ident
  blanks
  mark ['-', '.']
  blanks
  quote?
  let text ← upTo (· != '"') fun t => (inlineTail.whole? t).isSome
  quote?
  let target ← inlineTail
  match label? text with
  | some label => return .connection { source, target, arrow := .dottedInline, label := some label }
  | none => failure

/-- `A --> B` -/
def unlabeledLine : Scanner Element := do
  let source ← ident
  blanks
  let arrow ← arrow
  blanks
  let target ← ident
  return .connection { source, target, arrow, label := none }

/-- `A(["label"])`, with or without the quotes. -/
def stadiumLine : Scanner Element := do
  let id ← ident
  blanks
  mark Shape.stadium.opening
  blanks
  quote?
  let text ← run fun c => c != '"' && c != ']'
  quote?
  blanks
  mark Shape.stadium.closing
  return .node { id, label := label? text, shape := .stadium }

/-- `A[/"label"/]` and the like: a label without double quotes between the brackets of a shape. The
closing bracket may occur in the label, but not at the end of the line. -/
def bracketedLine (shape : Shape) : Scanner Element := do
  let id ← ident
  blanks
  mark shape.opening
  blanks
  quote?
  let text ← upTo (· != '"') (· == shape.closing)
  quote?
  blanks
  mark shape.closing
  return .node { id, label := label? text, shape }

/-- `A["label"]`; the label is kept just as it stands between the quotes. -/
def quotedRectangleLine : Scanner Element := do
  let id ← ident
  blanks
  mark Shape.rectangle.opening
  blanks
  mark ['"']
  let text ← run (· != '"')
  mark ['"']
  blanks
  mark Shape.rectangle.closing
  return .node { id, label := if text = [] then none else some text, shape := .rectangle }

/-- `A[label]` -/
def unquotedRectangleLine : Scanner Element := do
  let id ← ident
  blanks
  mark Shape.rectangle.opening
  let text ← run1 (· != ']')
  mark Shape.rectangle.closing
  return .node { id, label := label? text, shape := .rectangle }

/-- `A` -/
def bareNodeLine : Scanner Element := do
  return .node { id := ← ident, label := none, shape := .rectangle }

/-- The scanner of a form. -/
def scanner : LineForm → Scanner Element
  | declaration => declarationLine
  | comment => commentLine
  | subgraphStart => subgraphStartLine
  | subgraphEnd => subgraphEndLine
  | classDef => classDefLine
  | classUse => classUseLine
  | linkStyle => linkStyleLine
  | labeledPipe => labeledPipeLine
  | dottedInline => dottedInlineLine
  | unlabeled => unlabeledLine
  | stadium => stadiumLine
  | forwardTrapezoid => bracketedLine .forwardTrapezoid
  | reverseTrapezoid => bracketedLine .reverseTrapezoid
  | quotedRectangle => quotedRectangleLine
  | unquotedRectangle => unquotedRectangleLine
  | bareNode => bareNodeLine

/-- The element that a line is when it has the form. -/
def recognize (form : LineForm) (line : Text) : Option Element := form.scanner.whole? line

/-! ## Choice of a form -/

/-- All forms, those that win over others first. -/
def priority : List LineForm :=
  [declaration, comment, subgraphStart, subgraphEnd, classDef, classUse, linkStyle, labeledPipe,
    dottedInline, unlabeled, stadium, forwardTrapezoid, reverseTrapezoid, quotedRectangle,
    unquotedRectangle, bareNode]

/-- The first form in a list that a line has, with the element it then is. -/
def firstMatch? (forms : List LineForm) (line : Text) : Option (LineForm × Element) :=
  forms.findSome? fun form => (form.recognize line).map (form, ·)

/-- The form of a line and the element that it is. -/
def classify? (line : Text) : Option (LineForm × Element) := firstMatch? priority line

def name : LineForm → String
  | declaration => "declaration"
  | comment => "comment"
  | subgraphStart => "subgraph-start"
  | subgraphEnd => "subgraph-end"
  | classDef => "class-definition"
  | classUse => "class-application"
  | linkStyle => "link-style"
  | labeledPipe => "labeled-pipe-connection"
  | dottedInline => "dotted-inline-connection"
  | unlabeled => "unlabeled-connection"
  | stadium => "stadium-node"
  | forwardTrapezoid => "forward-trapezoid-node"
  | reverseTrapezoid => "reverse-trapezoid-node"
  | quotedRectangle => "quoted-rectangle-node"
  | unquotedRectangle => "unquoted-rectangle-node"
  | bareNode => "bare-node"

end LineForm

/-- The element that a line is. -/
def Element.ofLine (line : Text) : Element :=
  match LineForm.classify? line with
  | some (_, element) => element
  | none => .unrecognized line

end FlowTidy
