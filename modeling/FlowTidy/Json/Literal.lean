import FlowTidy.Json.Value
import FlowTidy.Scanner
import FlowTidy.Text.Key

/-!
A reader for JSON as people write it by hand: strings in single or double quotes, keys without
quotes, `True`, `False` and `None`, and a comma after the last item.
-/

namespace FlowTidy.Literal

open Scanner

/-- A value with blanks around it. -/
def padded {α : Type} (p : Scanner α) : Scanner α := do
  blanks
  let a ← p
  blanks
  return a

/-- What a scanner gives, with the text that it took. -/
def withSource {α : Type} (p : Scanner α) : Scanner (α × Text)
  | t => (p t).map fun (a, left) => ((a, t.take (t.length - left.length)), left)

/-! ## Constants and numbers -/

/-- The constants, in either spelling. -/
def constant : Scanner Json :=
  firstOf [
    (do mark ['t', 'r', 'u', 'e'] <|> mark ['T', 'r', 'u', 'e']; return .bool true),
    (do mark ['f', 'a', 'l', 's', 'e'] <|> mark ['F', 'a', 'l', 's', 'e']; return .bool false),
    (do mark ['n', 'u', 'l', 'l'] <|> mark ['N', 'o', 'n', 'e']; return .null)]

/-- A number as it is written: its sign, its digits before and after the point, and its exponent. -/
structure Numeral where
  negative : Bool
  whole : Text
  fraction : Option Text
  exponent : Option Int

/-- The exponent of a number. -/
def exponent : Scanner Int := do
  let _ ← char fun c => c == 'e' || c == 'E'
  let sign ← optional (char fun c => c == '+' || c == '-')
  let size := Nat.ofDigitChars 10 (← run1 Char.isDigit) 0
  return if sign = some '-' then -size else size

def numeral : Scanner Numeral := do
  let sign ← optional (mark ['-'])
  let whole ← run1 Char.isDigit
  let fraction ← optional (do mark ['.']; run1 Char.isDigit)
  let exponent ← optional exponent
  return { negative := sign.isSome, whole, fraction, exponent }

/-- The least natural number above all integers of 64 bits. -/
def intBound : Int := Nat.pow 2 63

/-- The integer that a number is, when it has neither point nor exponent and fits 64 bits. -/
def Numeral.int? (n : Numeral) : Option Int :=
  let size : Int := Nat.ofDigitChars 10 n.whole 0
  let value := if n.negative then -size else size
  if n.fraction.isNone ∧ n.exponent.isNone ∧ -intBound ≤ value ∧ value < intBound then some value
  else none

/-- The decimal that a number is, apart from its sign. -/
def Numeral.decimal (n : Numeral) : Decimal :=
  let fraction := n.fraction.getD []
  ⟨Nat.ofDigitChars 10 (n.whole ++ fraction) 0, n.exponent.getD 0 - fraction.length⟩

/-- The value of a number. One that is too large is kept as the text that was written. -/
def Numeral.value (n : Numeral) (source : Text) : Json :=
  match n.int? with
  | some i => .int i
  | none =>
    match Binary.ofDecimal? n.decimal with
    | some size => .real n.negative size
    | none => .string source

def number : Scanner Json := do
  let (n, source) ← withSource numeral
  return n.value source

/-! ## Strings -/

def isHexDigit (c : Char) : Bool :=
  c.isDigit || ('a' ≤ c && c ≤ 'f') || ('A' ≤ c && c ≤ 'F')

/-- The value of a hexadecimal digit of either case. -/
def hexValue (c : Char) : Nat :=
  if c.isDigit then c.toNat - 48 else if c.toNat < 97 then c.toNat - 55 else c.toNat - 87

/-- The character with a given code point. One that no character has gives the replacement
character. -/
def charOf (n : Nat) : Char := if n.isValidChar then Char.ofNat n else '\uFFFD'

/-- What may follow a backslash, and the character it stands for. -/
def escape : Scanner Char := do
  match ← char fun _ => true with
  | '\\' => return '\\'
  | '/' => return '/'
  | '"' => return '"'
  | '\'' => return '\''
  | 'b' => return '\x08'
  | 'f' => return '\x0c'
  | 'n' => return '\n'
  | 'r' => return '\r'
  | 't' => return '\t'
  | 'u' =>
    let digits ← count 4 isHexDigit
    return charOf (digits.foldl (fun n c => 16 * n + hexValue c) 0)
  | _ => failure

/-- A character between quotes of one kind. -/
def stringChar (quote : Char) : Scanner Char :=
  char (fun c => c != quote && c != '\\') <|> (do mark ['\\']; escape)

/-- A string between quotes of one kind. -/
def quoted (quote : Char) : Scanner Text := do
  mark [quote]
  let text ← many (stringChar quote)
  mark [quote]
  return text

def string : Scanner Text := quoted '"' <|> quoted '\''

/-! ## Arrays and objects -/

/-- Any number of items with commas between them, and perhaps one after the last. -/
def items {α : Type} (item : Scanner α) : Scanner (List α) := do
  match ← optional (commaList item) with
  | none => return []
  | some found =>
    let _ ← optional comma
    return found

/-- Items between brackets, with blanks around them. -/
def bracketed {α : Type} (opening closing : Char) (item : Scanner α) : Scanner (List α) := do
  mark [opening]
  let found ← padded (items item)
  mark [closing]
  return found

/-- A key without quotes. -/
def bareKey : Scanner Text := do
  let first ← char isKeyStart
  let more ← run isKeyRest
  return first :: more

/-- A key and its value. -/
def member (value : Scanner Json) : Scanner (Text × Json) := do
  let key ← string <|> bareKey
  padded (mark [':'])
  return (key, ← value)

/-- A value in which brackets are nested less than `depth` deep. -/
def value : (depth : Nat) → Scanner Json
  | 0 => failure
  | depth + 1 =>
    padded <| firstOf [
      constant,
      number,
      (do return .string (← string)),
      (do return .array (← bracketed '[' ']' (value depth))),
      (do return .ofMembers (← bracketed '{' '}' (member (value depth))))]

/-- The value that a whole text is. Brackets cannot be nested deeper than the text is long. -/
def read? (t : Text) : Option Json := (value (t.length + 1)).whole? t

end FlowTidy.Literal
