import FlowTidy.Line.Form
import FlowTidy.Init.Settings

/-!
Diagrams: an init block, a declaration, and the statements of the body in the order of their lines.
Reading a diagram never fails.
-/

namespace FlowTidy

/-- An element together with the line that it was read from. -/
structure Statement where
  element : Element
  /-- The whole line, with the blanks around it. -/
  raw : Text := []
  /-- The number of the line in the body, counted from 1; 0 when there is no line. -/
  line : Nat := 0
  /-- The bytes of the blanks at the start of the line. -/
  indent : Nat := 0
  deriving DecidableEq, Repr

structure Diagram where
  init : Option InitSettings := none
  declaration : Option Declaration := none
  statements : List Statement := []
  deriving DecidableEq, Repr

/-! ## Parts of elements -/

def Element.declaration? : Element → Option Declaration
  | .declaration d => some d
  | _ => none

def Element.node? : Element → Option Node
  | .node n => some n
  | _ => none

def Element.connection? : Element → Option Connection
  | .connection c => some c
  | _ => none

namespace Diagram

def elements (d : Diagram) : List Element := d.statements.map Statement.element

/-- The nodes that stand on lines of their own, in order. -/
def nodes (d : Diagram) : List Node := d.elements.filterMap Element.node?

/-- The connections in order. Link styles name a connection by its position here. -/
def connections (d : Diagram) : List Connection := d.elements.filterMap Element.connection?

end Diagram

/-! ## Reading -/

/-- The statement on a line, with the number of the line. Blank lines hold none. -/
def Statement.ofLine? (raw : Text) (line : Nat) : Option Statement :=
  if Text.trim raw = [] then none
  else some {
    element := Element.ofLine (Text.trim raw)
    raw
    line
    indent := Text.byteSize (raw.takeWhile isBlank) }

/-- The statements of a body, declarations included. -/
def Statement.ofBody (body : Text) : List Statement :=
  ((Text.lines body).zipIdx 1).filterMap fun (raw, line) => Statement.ofLine? raw line

/-- The diagram that a text is. Of several declarations the last one counts, wherever they stand. -/
def Diagram.parse (t : Text) : Diagram :=
  let (init, body) := InitSettings.extract t
  let statements := Statement.ofBody body
  { init
    declaration := (statements.filterMap fun s => s.element.declaration?).getLast?
    statements := statements.filter fun s => s.element.declaration?.isNone }

end FlowTidy
