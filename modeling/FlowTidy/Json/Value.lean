import FlowTidy.Number.Shortest
import FlowTidy.Order

/-!
JSON values and their compact text. The members of an object are in ascending order of their keys.
-/

namespace FlowTidy

/-- A JSON value. Integers and numbers with a fraction or an exponent are told apart. -/
inductive Json where
  | null
  | bool (value : Bool)
  | int (value : Int)
  | real (negative : Bool) (size : Binary)
  | string (value : Text)
  | array (items : List Json)
  | object (members : List (Text × Json))
  deriving Repr

namespace Json

/-- The object with the given members. Of several with one key the last one counts. -/
def ofMembers (members : List (Text × Json)) : Json := .object (Text.sortedMembers members)

/-- The member of an object with a given key. -/
def member? (key : Text) (members : List (Text × Json)) : Option Json :=
  (members.find? fun m => m.1 == key).map Prod.snd

/-- A character inside the quotes of a string. -/
def escapeChar (c : Char) : Text :=
  match c with
  | '"' => ['\\', '"']
  | '\\' => ['\\', '\\']
  | '\n' => ['\\', 'n']
  | '\r' => ['\\', 'r']
  | '\t' => ['\\', 't']
  | '\x08' => ['\\', 'b']
  | '\x0c' => ['\\', 'f']
  | c =>
    if c.toNat < 0x20 then
      ['\\', 'u', '0', '0', Nat.digitChar (c.toNat / 16), Nat.digitChar (c.toNat % 16)]
    else [c]

/-- A string in double quotes. -/
def renderString (t : Text) : Text := '"' :: t.flatMap escapeChar ++ ['"']

/-- The decimal text of an integer. -/
def renderInt (n : Int) : Text := if n < 0 then '-' :: Text.ofNat n.natAbs else Text.ofNat n.natAbs

mutual

/-- The text of a value, without any blanks between its parts. -/
def render : Json → Text
  | .null => ['n', 'u', 'l', 'l']
  | .bool true => ['t', 'r', 'u', 'e']
  | .bool false => ['f', 'a', 'l', 's', 'e']
  | .int n => renderInt n
  | .real negative size => if negative then '-' :: size.render else size.render
  | .string t => renderString t
  | .array items => '[' :: Text.joined [','] (renderItems items) ++ [']']
  | .object members => '{' :: Text.joined [','] (renderMembers members) ++ ['}']

def renderItems : List Json → List Text
  | [] => []
  | item :: items => render item :: renderItems items

def renderMembers : List (Text × Json) → List Text
  | [] => []
  | (key, value) :: members => (renderString key ++ ':' :: render value) :: renderMembers members

end

/-- The text that a value stands for as a setting: a string itself, anything else as its JSON. -/
def asSetting : Json → Text
  | .string t => t
  | value => value.render

end Json

end FlowTidy
