import FlowTidy.Json.Strict
import FlowTidy.Style.Basic

/-!
Style settings from JSON: an object that names the settings it changes, or an array of the first
settings in order. Other names in the object are passed over; naming a setting twice is refused.
-/

namespace FlowTidy

/-- The settings of a style. -/
inductive StyleField where
  | enforce
  | indentUnit
  | contentClass
  | workflowClass
  | contentProperties
  | workflowProperties
  | mainLink
  | workflowLink
  | crossReferenceLink
  | initBlock
  deriving DecidableEq, Repr

namespace StyleField

/-- All settings, in the order in which an array gives them. -/
def all : List StyleField :=
  [enforce, indentUnit, contentClass, workflowClass, contentProperties, workflowProperties,
    mainLink, workflowLink, crossReferenceLink, initBlock]

/-- The key of a setting. -/
def key : StyleField → String
  | enforce => "enforce_standard_colors"
  | indentUnit => "indent_unit"
  | contentClass => "content_class_name"
  | workflowClass => "workflow_class_name"
  | contentProperties => "content_class_properties"
  | workflowProperties => "workflow_class_properties"
  | mainLink => "main_link_properties"
  | workflowLink => "workflow_link_properties"
  | crossReferenceLink => "crossref_link_properties"
  | initBlock => "canonical_init_block"

open Strict in
/-- Reads the value of a setting. -/
def read : StyleField → Scanner (Style → Style)
  | enforce => do
    let b ← bool
    return fun s => { s with enforce := b }
  | indentUnit => do
    let t ← string
    return fun s => { s with indentUnit := t }
  | contentClass => do
    let t ← string
    return fun s => { s with contentClass := t }
  | workflowClass => do
    let t ← string
    return fun s => { s with workflowClass := t }
  | contentProperties => do
    let t ← string
    return fun s => { s with contentProperties := t }
  | workflowProperties => do
    let t ← string
    return fun s => { s with workflowProperties := t }
  | mainLink => do
    let t ← string
    return fun s => { s with mainLink := t }
  | workflowLink => do
    let t ← string
    return fun s => { s with workflowLink := t }
  | crossReferenceLink => do
    let t ← string
    return fun s => { s with crossReferenceLink := t }
  | initBlock => do
    let t ← (do null; return none) <|> (do return some (← string))
    return fun s => { s with initBlock := t }

end StyleField

/-- Why a text gives no style. -/
inductive StyleFault where
  /-- Not the JSON of a style. -/
  | malformed
  | indent
  | className (field : StyleField) (name : Text)
  deriving DecidableEq, Repr

def StyleFault.message : StyleFault → Text
  | .malformed => "not a JSON object of style settings".toList
  | .indent => "indent_unit may only contain spaces and tabs".toList
  | .className field name =>
    field.key.toList ++ " must be a non-empty identifier, got '".toList ++ name ++ ['\'']

namespace Style

open Scanner

/-- A member of an object of settings: a setting and its new value, or nothing for another name. -/
def member (depth : Nat) : Scanner (Option (StyleField × (Style → Style))) := do
  let key ← Strict.string
  Strict.token ':'
  match StyleField.all.find? fun field => field.key.toList = key with
  | some field => return some (field, ← field.read)
  | none =>
    Strict.skip depth
    return none

/-- Some settings by name, each at most once. -/
def byName (depth : Nat) : Scanner (List (Style → Style)) := do
  let members ← Strict.bracketed '{' '}' (member depth)
  let settings := members.filterMap id
  if (settings.map Prod.fst).Nodup then return settings.map Prod.snd else failure

/-- The first of some settings, as many as there are values. -/
def inOrder : List StyleField → Scanner (List (Style → Style))
  | [] => failure
  | field :: fields => do
    let set ← field.read
    let more ← optional (do Strict.token ','; inOrder fields)
    return set :: more.getD []

/-- The first settings by position. -/
def byPosition : Scanner (List (Style → Style)) := do
  mark ['[']
  Strict.blanks
  let settings ← optional (inOrder StyleField.all)
  Strict.blanks
  mark [']']
  return settings.getD []

/-- The settings of a text. -/
def settings (depth : Nat) : Scanner (List (Style → Style)) := do
  Strict.blanks
  let found ← byName depth <|> byPosition
  Strict.blanks
  return found

def isIdentifier (t : Text) : Bool := !t.isEmpty && t.all isWord

/-- A style that can be used: the indentation is blank, and class names are identifiers. -/
def validate (style : Style) : Except StyleFault Style :=
  if !style.indentUnit.all fun c => c == ' ' || c == '\t' then .error .indent
  else if !isIdentifier style.contentClass then .error (.className .contentClass style.contentClass)
  else if !isIdentifier style.workflowClass then
    .error (.className .workflowClass style.workflowClass)
  else .ok style

/-- The style that a text gives. What it does not set is as in the default style. -/
def ofJson (t : Text) : Except StyleFault Style :=
  match (settings (t.length + 1)).whole? t with
  | some changes => validate (changes.foldl (fun style change => change style) {})
  | none => .error .malformed

end Style

end FlowTidy
