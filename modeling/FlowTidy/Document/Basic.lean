import FlowTidy.Text.Basic

/-!
Documents with fenced diagrams in them. A document is cut into its diagrams and the prose between
them; the pieces put together again are the document.
-/

namespace FlowTidy

/-- A fenced diagram, with the prose between it and the diagram before. -/
structure Block where
  prose : Text
  body : Text
  deriving DecidableEq, Repr

structure Document where
  blocks : List Block
  /-- What follows the last diagram. -/
  ending : Text
  deriving DecidableEq, Repr

/-- The line that opens a diagram. -/
def openingFence : Text := ['`', '`', '`', 'm', 'e', 'r', 'm', 'a', 'i', 'd', '\n']

def closingFence : Text := ['`', '`', '`']

/-- A diagram between its fences. -/
def Block.fenced (b : Block) : Text := openingFence ++ b.body ++ closingFence

namespace Document

/-- The document that a text is. A diagram reaches from an opening fence to the next three
backquotes; from an opening fence without any after it on, all is prose. -/
def parse (t : Text) : Document :=
  match _opened : Text.cut? openingFence t with
  | none => { blocks := [], ending := t }
  | some (prose, inside) =>
    match _closed : Text.cut? closingFence inside with
    | none => { blocks := [], ending := t }
    | some (body, after) =>
      let rest := parse after
      { rest with blocks := { prose, body } :: rest.blocks }
termination_by t.length
decreasing_by
  have := Text.length_of_cut? _opened
  have := Text.length_of_cut? _closed
  have : openingFence.length = 11 := rfl
  omega

/-- The text of a document. -/
def text (d : Document) : Text := d.blocks.flatMap (fun b => b.prose ++ b.fenced) ++ d.ending

/-- Where each of some diagrams starts and ends, in bytes, when the first has `offset` bytes before
its prose. -/
def spansFrom : (offset : Nat) → List Block → List (Nat × Nat)
  | _, [] => []
  | offset, b :: blocks =>
    let start := offset + Text.byteSize b.prose
    let stop := start + Text.byteSize b.fenced
    (start, stop) :: spansFrom stop blocks

/-- Where the diagrams of a document start and end. -/
def spans (d : Document) : List (Nat × Nat) := spansFrom 0 d.blocks

end Document

end FlowTidy
