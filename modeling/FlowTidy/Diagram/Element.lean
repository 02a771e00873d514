import FlowTidy.Text.Basic

/-!
The elements of a flowchart, of which each line of a diagram is one, and the fixed vocabulary that
they use: kinds of diagram, layout directions, node shapes and arrows, with the marks that stand for
them.
-/

namespace FlowTidy

/-! ## Vocabulary -/

/-- The kind of diagram that a declaration names. -/
inductive Kind where
  | flowchart
  | graph
  deriving DecidableEq, Repr

/-- The word for a kind. -/
def Kind.keyword : Kind → Text
  | .flowchart => ['f', 'l', 'o', 'w', 'c', 'h', 'a', 'r', 't']
  | .graph => ['g', 'r', 'a', 'p', 'h']

/-- Both kinds, in the order in which they are tried. -/
def Kind.all : List Kind := [.flowchart, .graph]

/-- A layout direction. Top to bottom has two spellings, and a diagram keeps its own. -/
inductive Direction where
  | topBottom
  | topDown
  | bottomTop
  | leftRight
  | rightLeft
  deriving DecidableEq, Repr

/-- The two letters for a direction. -/
def Direction.keyword : Direction → Text
  | .topBottom => ['T', 'B']
  | .topDown => ['T', 'D']
  | .bottomTop => ['B', 'T']
  | .leftRight => ['L', 'R']
  | .rightLeft => ['R', 'L']

/-- All directions, in the order in which they are tried. -/
def Direction.all : List Direction := [.topBottom, .topDown, .bottomTop, .leftRight, .rightLeft]

/-- The outline of a node, written by the brackets around its label. -/
inductive Shape where
  | rectangle
  | stadium
  | forwardTrapezoid
  | reverseTrapezoid
  deriving DecidableEq, Repr

/-- The opening bracket of a shape. -/
def Shape.opening : Shape → Text
  | .rectangle => ['[']
  | .stadium => ['(', '[']
  | .forwardTrapezoid => ['[', '/']
  | .reverseTrapezoid => ['[', '\\']

/-- The closing bracket of a shape. -/
def Shape.closing : Shape → Text
  | .rectangle => [']']
  | .stadium => [']', ')']
  | .forwardTrapezoid => ['/', ']']
  | .reverseTrapezoid => ['\\', ']']

def Shape.name : Shape → String
  | .rectangle => "rectangle"
  | .stadium => "stadium"
  | .forwardTrapezoid => "forward-trapezoid"
  | .reverseTrapezoid => "reverse-trapezoid"

def Shape.all : List Shape := [.rectangle, .stadium, .forwardTrapezoid, .reverseTrapezoid]

/-- The arrow of a connection. -/
inductive Arrow where
  | solid
  | bidirectional
  | dottedArrow
  | line
  | dottedBidirectional
  /-- A dotted line that carries its label between its two halves. -/
  | dottedInline
  deriving DecidableEq, Repr

/-- The mark of an arrow. -/
def Arrow.glyph : Arrow → Text
  | .solid => ['-', '-', '>']
  | .bidirectional => ['<', '-', '-', '>']
  | .dottedArrow => ['-', '.', '-', '>']
  | .line => ['-', '-', '-']
  | .dottedBidirectional => ['<', '-', '.', '-', '>']
  | .dottedInline => ['-', '.', '.', '-']

def Arrow.name : Arrow → String
  | .solid => "solid"
  | .bidirectional => "bidirectional"
  | .dottedArrow => "dotted-arrow"
  | .line => "line"
  | .dottedBidirectional => "dotted-bidirectional"
  | .dottedInline => "dotted-inline"

def Arrow.all : List Arrow :=
  [.solid, .bidirectional, .dottedArrow, .line, .dottedBidirectional, .dottedInline]

/-- The arrows that are written between two identifiers, in the order in which they are tried. -/
def Arrow.glyphOrder : List Arrow :=
  [.dottedBidirectional, .bidirectional, .dottedArrow, .solid, .line]

/-- Whether an arrow is drawn dotted. -/
def Arrow.isDotted : Arrow → Bool
  | .dottedArrow | .dottedBidirectional | .dottedInline => true
  | .solid | .bidirectional | .line => false

/-- Whether an arrow is drawn dotted and has a head. -/
def Arrow.isDottedArrow : Arrow → Bool
  | .dottedArrow | .dottedBidirectional => true
  | .solid | .bidirectional | .line | .dottedInline => false

/-! ## Elements -/

/-- The line that opens a diagram. -/
structure Declaration where
  kind : Kind := .flowchart
  direction : Direction := .topBottom
  deriving DecidableEq, Repr

/-- A node on a line of its own. -/
structure Node where
  id : Text
  label : Option Text
  shape : Shape
  deriving DecidableEq, Repr

/-- An edge between two nodes. -/
structure Connection where
  source : Text
  target : Text
  arrow : Arrow
  label : Option Text
  deriving DecidableEq, Repr

/-- What a line of a diagram says. -/
inductive Element where
  | declaration (declaration : Declaration)
  | comment (text : Text)
  | node (node : Node)
  | connection (connection : Connection)
  | subgraphStart (id : Text) (label : Option Text)
  | subgraphEnd
  | classDef (name properties : Text)
  | classUse (ids : List Text) (className : Text)
  /-- Style of the connections at some positions. No position at all means every connection. -/
  | linkStyle (indices : List Nat) (properties : Text)
  /-- A line of no known form, kept as it is. -/
  | unrecognized (text : Text)
  deriving DecidableEq, Repr

end FlowTidy
