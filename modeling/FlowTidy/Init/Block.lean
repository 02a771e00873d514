import FlowTidy.Text.Basic

/-!
Where the init block of a diagram is: the mark that opens it, an object, and the mark that closes
it.
-/

namespace FlowTidy

/-- A text cut up around the init block in it. The five parts put together are the text. -/
structure InitBlock where
  before : Text
  /-- The opening mark and the blanks after it. -/
  opening : Text
  /-- The object, from brace to brace. -/
  object : Text
  /-- The blanks after the object and the closing mark. -/
  closing : Text
  after : Text
  deriving DecidableEq, Repr

namespace InitBlock

def openingMark : Text := ['%', '%', '{', 'i', 'n', 'i', 't', ':']

def closingMark : Text := ['}', '%', '%']

/-- The blanks and the closing mark at the front of a text, and what follows them. -/
def closing? (t : Text) : Option (Text × Text) :=
  (Text.after? closingMark (Text.trimStart t)).map fun after =>
    (t.takeWhile isBlank ++ closingMark, after)

/-- Cuts a text after its first brace that a closing mark follows: up to the brace, the blanks and
the mark, and the rest. -/
def objectEnd? : Text → Option (Text × Text × Text)
  | [] => none
  | c :: t =>
    match if c = '}' then closing? t else none with
    | some (closing, after) => some ([c], closing, after)
    | none => (objectEnd? t).map fun (object, parts) => (c :: object, parts)

/-- The init block at the front of a text. The opening mark counts only when an object follows it
that is closed. -/
def front? (t : Text) : Option InitBlock := do
  let inside ← Text.after? openingMark t
  match Text.trimStart inside with
  | '{' :: body =>
    let (object, closing, after) ← objectEnd? body
    return {
      before := []
      opening := openingMark ++ inside.takeWhile isBlank
      object := '{' :: object
      closing
      after }
  | _ => none

/-- The first init block of a text. -/
def find? : Text → Option InitBlock
  | [] => none
  | c :: t =>
    match front? (c :: t) with
    | some block => some block
    | none => (find? t).map fun block => { block with before := c :: block.before }

/-- Where the block starts, in bytes. -/
def start (b : InitBlock) : Nat := Text.byteSize b.before

/-- Where the object starts. -/
def objectStart (b : InitBlock) : Nat := b.start + Text.byteSize b.opening

/-- Where the object ends. -/
def objectStop (b : InitBlock) : Nat := b.objectStart + Text.byteSize b.object

/-- Where the block ends. -/
def stop (b : InitBlock) : Nat := b.objectStop + Text.byteSize b.closing

/-- The text without the block. -/
def remaining (b : InitBlock) : Text := b.before ++ b.after

end InitBlock

end FlowTidy
