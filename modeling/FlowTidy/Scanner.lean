import FlowTidy.Text.Basic
import FlowTidy.Text.Charset

/-!
Scanners: readers that take a piece off the front of a text and give a value for it, or fail. A
choice takes the first alternative that succeeds and never comes back to the others; a repetition
takes all that it can and gives nothing back.
-/

namespace FlowTidy

/-- A reader of the front of a text, with the value read and the text that is left. -/
abbrev Scanner := StateT Text Option

namespace Scanner

variable {α : Type}

/-- The value that a scanner gives for a text when it accounts for all of it. -/
def whole? (p : Scanner α) (t : Text) : Option α :=
  match p t with
  | some (a, []) => some a
  | _ => none

/-! ## Characters -/

/-- One character that satisfies `p`. -/
def char (p : Char → Bool) : Scanner Char
  | c :: t => if p c then some (c, t) else none
  | [] => none

/-- The longest run, possibly empty, of characters that satisfy `p`. -/
def run (p : Char → Bool) : Scanner Text
  | t => some (t.takeWhile p, t.dropWhile p)

/-- The longest run of characters that satisfy `p`, which must not be empty. -/
def run1 (p : Char → Bool) : Scanner Text
  | [] => none
  | c :: t => if p c then some ((c :: t).takeWhile p, (c :: t).dropWhile p) else none

/-- Exactly `n` characters that satisfy `p`. -/
def count (n : Nat) (p : Char → Bool) : Scanner Text
  | t => if (t.take n).length = n ∧ (t.take n).all p then some (t.take n, t.drop n) else none

/-- The characters before the first that does not satisfy `p` or where `stop` holds of all that is
left, and what is left there. -/
def splitUpTo (p : Char → Bool) (stop : Text → Bool) : Text → Text × Text
  | [] => ([], [])
  | c :: t =>
    if p c && !stop (c :: t) then (splitUpTo p stop t).map (c :: ·) id else ([], c :: t)

/-- The longest run of characters that satisfy `p`, not going past a place where `stop` holds of
all that is left. -/
def upTo (p : Char → Bool) (stop : Text → Bool) : Scanner Text
  | t => some (splitUpTo p stop t)

/-- All that is left. -/
def rest : Scanner Text
  | t => some (t, [])

/-! ## Marks and words -/

/-- A fixed text. -/
def mark (m : Text) : Scanner Unit
  | t => (Text.after? m t).map ((), ·)

/-- A double quote, if there is one. -/
def quote? : Scanner Unit
  | '"' :: t => some ((), t)
  | t => some ((), t)

/-- Any number of blanks. -/
def blanks : Scanner Unit
  | t => some ((), t.dropWhile isBlank)

/-- One blank or more. -/
def blanks1 : Scanner Unit := do
  let _ ← run1 isBlank

/-- An identifier: one word character or more. Digits may come first. -/
def ident : Scanner Text := run1 isWord

/-- A keyword in any mixture of upper and lower case. What follows it is not looked at, so it need
not end at the end of a word. -/
def keyword (k : Text) : Scanner Unit
  | t => if Text.sameLetters (t.take k.length) k then some ((), t.drop k.length) else none

/-! ## Combinations -/

/-- The first of some scanners that succeeds. -/
def firstOf (ps : List (Scanner α)) : Scanner α := ps.foldr (fun p q => p <|> q) failure

/-- What a scanner gives when it is applied as often as it succeeds and takes something. -/
def repeated (p : Scanner α) (t : Text) : List α × Text :=
  match p t with
  | none => ([], t)
  | some (a, left) =>
    if left.length < t.length then (repeated p left).map (a :: ·) id else ([], t)
termination_by t.length

/-- A scanner applied as often as it succeeds and takes something. -/
def many (p : Scanner α) : Scanner (List α)
  | t => some (repeated p t)

/-- A comma with blanks around it. -/
def comma : Scanner Unit := do
  blanks
  mark [',']
  blanks

/-- One item or more, with commas between them. A comma after which no item follows is not taken. -/
def commaList (item : Scanner α) : Scanner (List α) := do
  let first ← item
  let more ← many (do comma; item)
  return first :: more

end Scanner

end FlowTidy
