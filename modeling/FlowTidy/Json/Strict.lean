import FlowTidy.Json.Literal

/-!
Standard JSON, read piece by piece: the values that a reader wants, and a way past those that it
does not. Surrogates in escapes must be paired where a string is wanted, and need not be elsewhere.
-/

namespace FlowTidy.Strict

open Scanner

/-- The blanks of JSON. -/
def blanks : Scanner Unit
  | t => some ((), t.dropWhile fun c => c == ' ' || c == '\n' || c == '\t' || c == '\r')

/-- A mark with blanks around it. -/
def token (m : Char) : Scanner Unit := do
  blanks
  mark [m]
  blanks

/-! ## Simple values -/

def null : Scanner Unit := mark ['n', 'u', 'l', 'l']

def bool : Scanner Bool :=
  (do mark ['t', 'r', 'u', 'e']; return true) <|> (do mark ['f', 'a', 'l', 's', 'e']; return false)

/-- The digits before the point of a number: a zero stands alone. -/
def wholeDigits : Scanner Unit :=
  mark ['0'] <|> (do let _ ← char fun c => c.isDigit && c != '0'; let _ ← run Char.isDigit)

/-- Goes past a number of any size. -/
def number : Scanner Unit := do
  let _ ← optional (mark ['-'])
  wholeDigits
  let _ ← optional (do mark ['.']; run1 Char.isDigit)
  let _ ← optional Literal.exponent

/-! ## Strings -/

/-- A piece of a string: a character, or a 16-bit unit given by its number. -/
inductive Piece where
  | char (c : Char)
  | unit (n : Nat)

/-- What may follow a backslash. -/
def escape : Scanner Piece := do
  match ← char fun _ => true with
  | '"' => return .char '"'
  | '\\' => return .char '\\'
  | '/' => return .char '/'
  | 'b' => return .char '\x08'
  | 'f' => return .char '\x0c'
  | 'n' => return .char '\n'
  | 'r' => return .char '\r'
  | 't' => return .char '\t'
  | 'u' =>
    let digits ← count 4 Literal.isHexDigit
    return .unit (digits.foldl (fun n c => 16 * n + Literal.hexValue c) 0)
  | _ => failure

/-- One piece of a string. Control characters must be written by an escape. -/
def piece : Scanner Piece :=
  (do return .char (← char fun c => c != '"' && c != '\\' && 0x20 ≤ c.toNat)) <|>
  (do mark ['\\']; escape)

/-- The pieces of a string. -/
def pieces : Scanner (List Piece) := do
  mark ['"']
  let found ← many piece
  mark ['"']
  return found

/-- The text of some pieces, unless a surrogate among them has no partner. -/
def decode? : List Piece → Option Text
  | [] => some []
  | .char c :: rest => (decode? rest).map (c :: ·)
  | .unit high :: .unit low :: rest =>
    if 0xD800 ≤ high ∧ high < 0xDC00 ∧ 0xDC00 ≤ low ∧ low < 0xE000 then
      (decode? rest).map (Char.ofNat (0x10000 + (high - 0xD800) * 0x400 + (low - 0xDC00)) :: ·)
    else if high.isValidChar then (decode? (.unit low :: rest)).map (Char.ofNat high :: ·)
    else none
  | .unit n :: rest => if n.isValidChar then (decode? rest).map (Char.ofNat n :: ·) else none

/-- The text of a string. -/
def string : Scanner Text := do
  match decode? (← pieces) with
  | some text => return text
  | none => failure

/-! ## Arrays and objects -/

/-- Any number of items between brackets, with commas between them. -/
def bracketed {α : Type} (opening closing : Char) (item : Scanner α) : Scanner (List α) := do
  mark [opening]
  blanks
  let found ← optional (do
    let first ← item
    let more ← many (do token ','; item)
    return first :: more)
  blanks
  mark [closing]
  return found.getD []

/-- Goes past a value in which brackets are nested less than `depth` deep. -/
def skip : (depth : Nat) → Scanner Unit
  | 0 => failure
  | depth + 1 =>
    firstOf [
      null,
      (do let _ ← bool),
      number,
      (do let _ ← pieces),
      (do let _ ← bracketed '[' ']' (skip depth)),
      (do let _ ← bracketed '{' '}' (do let _ ← pieces; token ':'; skip depth))]

end FlowTidy.Strict
