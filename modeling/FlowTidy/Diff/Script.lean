/-!
Edit scripts: two lists merged into one in which every member is kept, removed or added, with as
many kept as possible. What the lists have in common at both ends is kept as it is; the rest is
aligned by halving the old list and cutting the new one where the halves together keep the most.
-/

namespace FlowTidy

/-- What an edit script does with a member. -/
inductive Tag where
  | keep
  | remove
  | add
  deriving DecidableEq, Repr

/-- Whether the old list has a member with this tag. -/
def Tag.inOld : Tag → Bool
  | .keep | .remove => true
  | .add => false

/-- Whether the new list has a member with this tag. -/
def Tag.inNew : Tag → Bool
  | .keep | .add => true
  | .remove => false

/-- A member of an edit script. -/
structure Edit (α : Type) where
  tag : Tag
  line : α
  deriving DecidableEq, Repr

/-- An edit script. -/
abbrev Script (α : Type) := List (Edit α)

namespace Script

variable {α : Type}

def kept (lines : List α) : Script α := lines.map (Edit.mk .keep)

def removed (lines : List α) : Script α := lines.map (Edit.mk .remove)

def added (lines : List α) : Script α := lines.map (Edit.mk .add)

variable [DecidableEq α]

/-! ## Common subsequences -/

/-- One row of the table of longest common subsequences after its first entry: `row` is the row
above, and `left` the entry before the next one. -/
def nextEntries (x : α) : (left : Nat) → List α → (row : List Nat) → List Nat
  | left, y :: ys, corner :: above :: row =>
    let entry := if x = y then corner + 1 else max above left
    entry :: nextEntries x entry ys (above :: row)
  | _, _, _ => []

/-- The lengths of the longest common subsequences of `xs` with each initial part of `ys`, from the
empty one on. -/
def commonLengths (xs ys : List α) : List Nat :=
  xs.foldl (fun row x => 0 :: nextEntries x 0 ys row) (List.replicate (ys.length + 1) 0)

/-- The position at which to cut `new` so that its two parts have the most in common with the two
parts of the old list, the first of several. -/
def crossing (oldHead oldTail new : List α) : Nat :=
  let ahead := commonLengths oldHead new
  let behind := (commonLengths oldTail.reverse new.reverse).reverse
  let totals := List.zipWith (· + ·) ahead behind
  totals.idxOf (totals.foldl max 0)

/-! ## Alignment -/

/-- A script for a list of one member: it is kept where it first occurs. -/
def alignOne (only : α) (new : List α) : Script α :=
  match new.dropWhile (· ≠ only) with
  | [] => removed [only] ++ added new
  | _ :: after => added (new.takeWhile (· ≠ only)) ++ kept [only] ++ added after

/-- A script that keeps as much as possible. -/
def align (old new : List α) : Script α :=
  match old with
  | [] => added new
  | [only] => alignOne only new
  | first :: second :: more =>
    let old := first :: second :: more
    let middle := old.length / 2
    let cut := crossing (old.take middle) (old.drop middle) new
    align (old.take middle) (new.take cut) ++ align (old.drop middle) (new.drop cut)
termination_by old.length
decreasing_by all_goals (simp only [List.length_take, List.length_drop, List.length_cons]; omega)

/-- The number of members that two lists have in common at their start. -/
def commonStart : List α → List α → Nat
  | x :: xs, y :: ys => if x = y then commonStart xs ys + 1 else 0
  | _, _ => 0

/-- The script for two lists: their common end is kept, and what is before it aligned. -/
def beforeEnd (old new : List α) : Script α :=
  let common := commonStart old.reverse new.reverse
  align (old.take (old.length - common)) (new.take (new.length - common))
    ++ kept (old.drop (old.length - common))

/-- The script for two lists. -/
def between : (old new : List α) → Script α
  | x :: xs, y :: ys =>
    if x = y then ⟨.keep, x⟩ :: between xs ys else beforeEnd (x :: xs) (y :: ys)
  | old, new => beforeEnd old new

end Script

end FlowTidy
