import FlowTidy.Diagram.Layout
import FlowTidy.Text.Quoted

/-!
Tidying a diagram: it is read, written in canonical form, and read again to see that it still has
the same signature, which is its nodes and connections.
-/

namespace FlowTidy

/-! ## Signatures -/

/-- The nodes of a diagram, each with its label without quotes around it, and its connections. -/
structure Signature where
  nodes : List (Text × Option Text)
  connections : List Connection
  deriving DecidableEq, Repr

def Diagram.signature (d : Diagram) : Signature where
  nodes := d.nodes.map fun n => (n.id, n.label.map Text.unquote)
  connections := d.connections

/-- How a signature differs from another. -/
inductive Difference where
  | nodeCount (before after : Nat)
  | connectionCount (before after : Nat)
  | node (before after : Text × Option Text)
  | connection (index : Nat) (before after : Connection)
  deriving DecidableEq, Repr

/-- The first pair of different members at the same position of two lists, with the position. -/
def firstChange? {α : Type} [DecidableEq α] (before after : List α) : Option (Nat × α × α) :=
  ((before.zip after).zipIdx.find? fun p => p.1.1 ≠ p.1.2).map fun p => (p.2, p.1.1, p.1.2)

/-- The first difference of two signatures, if they are not the same. Counts are compared before
members, and nodes before connections. -/
def Signature.difference? (s s' : Signature) : Option Difference :=
  if s.nodes.length ≠ s'.nodes.length then
    some (.nodeCount s.nodes.length s'.nodes.length)
  else if s.connections.length ≠ s'.connections.length then
    some (.connectionCount s.connections.length s'.connections.length)
  else
    match firstChange? s.nodes s'.nodes with
    | some (_, before, after) => some (.node before after)
    | none =>
      (firstChange? s.connections s'.connections).map fun (index, before, after) =>
        .connection index before after

/-! ## Messages -/

/-- A node of a signature as a message shows it. -/
def shownNode (n : Text × Option Text) : Text :=
  let label := match n.2 with
    | some label => "Some(".toList ++ Text.shown label ++ [')']
    | none => "None".toList
  '(' :: Text.shown n.1 ++ [',', ' '] ++ label ++ [')']

/-- A connection as a message shows it, without its label. -/
def shownConnection (c : Connection) : Text := c.source ++ ' ' :: c.arrow.glyph ++ ' ' :: c.target

def Difference.message : Difference → Text
  | .nodeCount before after =>
    "node count changed from ".toList ++ Text.ofNat before ++ " to ".toList ++ Text.ofNat after
  | .connectionCount before after =>
    "connection count changed from ".toList ++ Text.ofNat before ++ " to ".toList
      ++ Text.ofNat after
  | .node before after =>
    "node ".toList ++ shownNode before ++ " became ".toList ++ shownNode after
  | .connection index before after =>
    "connection ".toList ++ Text.ofNat index ++ " changed from ".toList ++ shownConnection before
      ++ " to ".toList ++ shownConnection after

/-! ## Tidying -/

/-- A diagram in canonical form. -/
structure Tidied where
  formatted : Text
  /-- Whether the canonical form differs from the input, blanks around both left aside. -/
  changed : Bool
  deriving DecidableEq, Repr

/-- The first difference between a diagram and the one that a text reads as. -/
def Diagram.roundTrip? (d : Diagram) (formatted : Text) : Option Difference :=
  d.signature.difference? (Diagram.parse formatted).signature

/-- The canonical form of a diagram, unless it would change a node or a connection. -/
def tidy (style : Style) (t : Text) : Except Difference Tidied :=
  let diagram := Diagram.parse t
  let formatted := diagram.format style
  match diagram.roundTrip? formatted with
  | some difference => .error difference
  | none => .ok { formatted, changed := Text.trim formatted ≠ Text.trim t }

end FlowTidy
