import FlowTidy.Init.Block
import FlowTidy.Json.Literal

/-!
What an init block sets: a theme and the variables of the theme.
-/

namespace FlowTidy

/-- The settings of an init block. The variables are in the order of their names. -/
structure InitSettings where
  theme : Text := "default".toList
  themeVariables : List (Text × Text) := []
  deriving DecidableEq, Repr

/-- Why an object gives no settings. -/
inductive InitFault where
  | unreadable
  | notAnObject
  | variablesNotAnObject
  deriving DecidableEq, Repr

def InitFault.message : InitFault → Text
  | .unreadable => "unreadable object (1 errors)".toList
  | .notAnObject => "init block is not an object".toList
  | .variablesNotAnObject => "themeVariables is not an object".toList

namespace InitSettings

def themeKey : Text := "theme".toList

def variablesKey : Text := "themeVariables".toList

/-- The variables that the members of an object set. None at all is as good as an empty object. -/
def variablesOf (members : List (Text × Json)) : Except InitFault (List (Text × Text)) :=
  match Json.member? variablesKey members with
  | some (.object settings) => .ok (settings.map fun v => (v.1, v.2.asSetting))
  | some .null | none => .ok []
  | some _ => .error .variablesNotAnObject

/-- The settings that an object holds. -/
def ofObject (object : Text) : Except InitFault InitSettings :=
  match Literal.read? object with
  | none => .error .unreadable
  | some (.object members) => do
    let theme := (Json.member? themeKey members).map Json.asSetting
    let themeVariables ← variablesOf members
    return { theme := theme.getD ({} : InitSettings).theme, themeVariables }
  | some _ => .error .notAnObject

/-- Takes the init block out of a text: its settings, and the text without it. An object that gives
no settings leaves the default ones. -/
def extract (t : Text) : Option InitSettings × Text :=
  match InitBlock.find? t with
  | none => (none, t)
  | some block => (some ((ofObject block.object).toOption.getD {}), block.remaining)

end InitSettings

end FlowTidy
