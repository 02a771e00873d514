import FlowTidy.Diagram.Element

/-!
The canonical line of an element, without its indentation.
-/

namespace FlowTidy

/-- `flowchart TB` and the like. -/
def Declaration.render (d : Declaration) : Text := d.kind.keyword ++ ' ' :: d.direction.keyword

/-- An identifier alone, or with its label in quotes between the brackets of its shape. -/
def Node.render (n : Node) : Text :=
  match n.label with
  | some label => n.id ++ n.shape.opening ++ '"' :: Text.unquote label ++ '"' :: n.shape.closing
  | none => n.id

/-- Source, arrow and target, with the label in quotes on the arrow. -/
def Connection.render (c : Connection) : Text :=
  match c.label, c.arrow with
  | some label, .dottedInline =>
    c.source ++ [' ', '-', '.', ' ', '"'] ++ label ++ ['"', ' ', '.', '-', ' '] ++ c.target
  | some label, arrow =>
    c.source ++ ' ' :: arrow.glyph ++ ['|', '"'] ++ label ++ ['"', '|', ' '] ++ c.target
  | none, arrow => c.source ++ ' ' :: arrow.glyph ++ ' ' :: c.target

/-- `classDef name properties;` -/
def renderClassDef (name properties : Text) : Text :=
  ['c', 'l', 'a', 's', 's', 'D', 'e', 'f', ' '] ++ name ++ ' ' :: properties ++ [';']

/-- `class A,B name;` -/
def renderClassUse (ids : List Text) (className : Text) : Text :=
  ['c', 'l', 'a', 's', 's', ' '] ++ Text.joined [','] ids ++ ' ' :: className ++ [';']

/-- `linkStyle 0,2 properties` -/
def renderLinkStyle (indices : List Nat) (properties : Text) : Text :=
  ['l', 'i', 'n', 'k', 'S', 't', 'y', 'l', 'e', ' ']
    ++ Text.joined [','] (indices.map Text.ofNat) ++ ' ' :: properties

/-- The canonical line of an element. -/
def Element.render : Element → Text
  | .declaration d => d.render
  | .comment [] => ['%', '%']
  | .comment text => ['%', '%', ' '] ++ text
  | .node n => n.render
  | .connection c => c.render
  | .subgraphStart id none => ['s', 'u', 'b', 'g', 'r', 'a', 'p', 'h', ' '] ++ id
  | .subgraphStart id (some label) =>
    ['s', 'u', 'b', 'g', 'r', 'a', 'p', 'h', ' '] ++ id ++ ['[', '"'] ++ Text.unquote label
      ++ ['"', ']']
  | .subgraphEnd => ['e', 'n', 'd']
  | .classDef name properties => renderClassDef name (Text.dropEnd (· == ';') properties)
  | .classUse ids className => renderClassUse ids className
  | .linkStyle [] properties =>
    ['l', 'i', 'n', 'k', 'S', 't', 'y', 'l', 'e', ' ', 'd', 'e', 'f', 'a', 'u', 'l', 't', ' ']
      ++ properties
  | .linkStyle indices properties => renderLinkStyle indices properties
  | .unrecognized text => Text.trim text

end FlowTidy
