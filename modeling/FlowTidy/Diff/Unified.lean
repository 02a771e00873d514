import FlowTidy.Diff.Script
import FlowTidy.Text.Basic

/-!
Unified diffs of two texts. Changes that are close together share a hunk, and three unchanged lines
stand around each.
-/

namespace FlowTidy

/-- The number of unchanged lines around a change. -/
def contextLines : Nat := 3

/-- A part of an edit script, with the lines of both texts before it counted. -/
structure Hunk where
  oldStart : Nat
  newStart : Nat
  edits : Script Text
  deriving DecidableEq, Repr

namespace Script

/-- The positions of the members of a script that are not kept. -/
def changes (script : Script Text) : List Nat :=
  (script.zipIdx.filter fun e => e.1.tag ≠ .keep).map Prod.snd

/-- The first and last position of each group of changes. A new group starts where more unchanged
lines lie between two changes than both need around them. -/
def groups : List Nat → List (Nat × Nat)
  | [] => []
  | change :: rest =>
    match groups rest with
    | [] => [(change, change)]
    | (first, last) :: more =>
      if 2 * contextLines < first - change - 1 then (change, change) :: (first, last) :: more
      else (change, last) :: more

/-- The hunk around a group of changes. -/
def hunk (script : Script Text) (group : Nat × Nat) : Hunk :=
  let start := group.1 - contextLines
  let before := script.take start
  { oldStart := before.countP fun e => e.tag.inOld
    newStart := before.countP fun e => e.tag.inNew
    edits := (script.take (group.2 + contextLines + 1)).drop start }

def hunks (script : Script Text) : List Hunk := (groups script.changes).map script.hunk

end Script

namespace Hunk

def oldLength (h : Hunk) : Nat := h.edits.countP fun e => e.tag.inOld

def newLength (h : Hunk) : Nat := h.edits.countP fun e => e.tag.inNew

/-- A range of lines: the first line and the number of lines, which is left out when it is 1. An
empty range names the line before it. -/
def renderRange (start length : Nat) : Text :=
  match length with
  | 0 => Text.ofNat start ++ [',', '0']
  | 1 => Text.ofNat (start + 1)
  | length => Text.ofNat (start + 1) ++ ',' :: Text.ofNat length

/-- The line above the lines of a hunk, with its newline. -/
def header (h : Hunk) : Text :=
  ['@', '@', ' ', '-'] ++ renderRange h.oldStart h.oldLength ++ [' ', '+']
    ++ renderRange h.newStart h.newLength ++ [' ', '@', '@', '\n']

end Hunk

/-- The character in front of a line of a diff. -/
def Tag.sign : Tag → Char
  | .keep => ' '
  | .remove => '-'
  | .add => '+'

/-- A line of a diff, with its newline. -/
def Edit.render (e : Edit Text) : Text := e.tag.sign :: Text.withNewline e.line

def Hunk.render (h : Hunk) : Text := h.header ++ h.edits.flatMap Edit.render

/-- The two lines that name the compared files. -/
def fileHeader (name : Text) : Text :=
  ['-', '-', '-', ' ', 'a', '/'] ++ name ++ ['\n', '+', '+', '+', ' ', 'b', '/'] ++ name ++ ['\n']

/-- The unified diff of two texts. It is empty when they are the same. -/
def unifiedDiff (old new name : Text) : Text :=
  let script := Script.between (Text.wholeLines old) (Text.wholeLines new)
  match script.hunks with
  | [] => []
  | hunks => fileHeader name ++ hunks.flatMap Hunk.render

end FlowTidy
