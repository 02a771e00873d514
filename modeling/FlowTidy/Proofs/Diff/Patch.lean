import FlowTidy.Proofs.Diff.Hunks
import FlowTidy.Proofs.Text.Occurrence
import FlowTidy.Proofs.Text.WholeLines

/-!
Unified diffs as patches. A diff is read by its own conventions, without looking at the texts that
it was made from: the ranges from the headers of its hunks, and each line by its sign. What is
printed for a list of hunks is read back (`read?_printed`). The hunks of a patch are applied to a
text from the top down, and every line that a hunk keeps or removes must be there (`Patch.replay?`).
-/

namespace FlowTidy

open Text

/-! ## Reading -/

/-- Some lines of a text: how many come before them, and how many they are. -/
structure LineRange where
  before : Nat
  length : Nat
  deriving DecidableEq, Repr

/-- The number of lines up to the end of a range. -/
def LineRange.stop (r : LineRange) : Nat := r.before + r.length

/-- The number that some digits are. -/
def Text.number? (t : Text) : Option Nat :=
  if t ≠ [] ∧ t.all Char.isDigit then some (Nat.ofDigitChars 10 t 0) else none

/-- The range of lines that starts with a line of the given number. An empty range is named by the
line before it. -/
def LineRange.ofStart? (start length : Nat) : Option LineRange :=
  if length = 0 then some ⟨start, 0⟩ else if start = 0 then none else some ⟨start - 1, length⟩

/-- A range as a header gives it. A length of 1 is left out. -/
def LineRange.read? (t : Text) : Option LineRange :=
  match t.splitOn ',' with
  | [start] => do ofStart? (← number? start) 1
  | [start, length] => do ofStart? (← number? start) (← number? length)
  | _ => none

/-- A hunk as it is read: the two ranges of its header, and the lines below it. -/
structure PatchHunk where
  old : LineRange
  new : LineRange
  edits : Script Text
  deriving DecidableEq, Repr

/-- A unified diff as it is read. -/
structure Patch where
  oldName : Text
  newName : Text
  hunks : List PatchHunk
  deriving DecidableEq, Repr

/-- The two ranges of a header. -/
def readHeader? (line : Text) : Option (LineRange × LineRange) := do
  let inside ← after? ['@', '@', ' ', '-'] line
  let (old, more) ← cut? [' ', '+'] inside
  let (new, rest) ← cut? [' ', '@', '@', '\n'] more
  if rest = [] then return (← LineRange.read? old, ← LineRange.read? new) else none

/-- A line below a header, by its sign. -/
def Edit.read? : Text → Option (Edit Text)
  | ' ' :: line => some ⟨.keep, line⟩
  | '-' :: line => some ⟨.remove, line⟩
  | '+' :: line => some ⟨.add, line⟩
  | _ => none

/-- The lines of a diff below the names of the files: those before the first header, and the
hunks. -/
def readHunks? : List Text → Option (Script Text × List PatchHunk)
  | [] => some ([], [])
  | line :: lines => do
    let (edits, hunks) ← readHunks? lines
    match Edit.read? line with
    | some edit => return (edit :: edits, hunks)
    | none =>
      let (old, new) ← readHeader? line
      return ([], ⟨old, new, edits⟩ :: hunks)

/-- The name in a line that a mark starts. -/
def readName? (mark line : Text) : Option Text := (after? mark line).map (dropEnd (· == '\n'))

/-- The patch that a unified diff is. -/
def Patch.read? (diff : Text) : Option Patch :=
  match wholeLines diff with
  | oldLine :: newLine :: lines => do
    let oldName ← readName? ['-', '-', '-', ' '] oldLine
    let newName ← readName? ['+', '+', '+', ' '] newLine
    let (edits, hunks) ← readHunks? lines
    if edits = [] then return { oldName, newName, hunks } else none
  | _ => none

/-! ## Applying -/

/-- What a script makes of the lines at the front of a list, and the lines that are left. A line
that is kept or removed must be there. -/
def Script.replay? : Script Text → List Text → Option (List Text × List Text)
  | [], lines => some ([], lines)
  | ⟨.add, line⟩ :: script, lines =>
    (replay? script lines).map fun (out, left) => (line :: out, left)
  | ⟨.keep, line⟩ :: script, first :: lines =>
    if first = line then (replay? script lines).map fun (out, left) => (line :: out, left) else none
  | ⟨.remove, line⟩ :: script, first :: lines => if first = line then replay? script lines else none
  | _, [] => none

/-- What hunks make of the lines of a text from some place on, when `passed` lines come before
it. -/
def replayHunks? : List PatchHunk → (passed : Nat) → List Text → Option (List Text)
  | [], _, lines => some lines
  | hunk :: hunks, passed, lines => do
    let skipped := hunk.old.before - passed
    if passed ≤ hunk.old.before ∧ skipped ≤ lines.length then
      let (out, left) ← hunk.edits.replay? (lines.drop skipped)
      return lines.take skipped ++ out ++ (← replayHunks? hunks hunk.old.stop left)
    else none

/-- The text that a patch makes of a text. -/
def Patch.replay? (patch : Patch) (t : Text) : Option Text :=
  (replayHunks? patch.hunks 0 (wholeLines t)).map List.flatten

/-! ## What is printed is read -/

theorem number?_ofNat (n : Nat) : number? (ofNat n) = some n := by
  rw [number?, if_pos, ofNat, Nat.ofDigitChars_toDigits (by decide) (by decide)]
  exact ⟨(isIdent_ofNat n).ne_nil, List.all_eq_true.mpr fun _ hc => isDigit_of_mem_ofNat hc⟩

theorem not_mem_ofNat {c : Char} (hc : c.isDigit = false) (n : Nat) : c ∉ ofNat n := by
  intro hmem
  rw [isDigit_of_mem_ofNat hmem] at hc
  contradiction

theorem read?_ofNat (n : Nat) : LineRange.read? (ofNat n) = LineRange.ofStart? n 1 := by
  have hsplit : (ofNat n).splitOn ',' = [ofNat n] := by
    have h : List.splitOn ',' (joined [','] [ofNat n]) = [ofNat n] :=
      List.splitOn_intercalate ',' (by simpa using not_mem_ofNat (by decide) n) (by simp)
    simpa [joined] using h
  rw [LineRange.read?, hsplit]
  simp [number?_ofNat]

theorem read?_ofNat_pair (m n : Nat) :
    LineRange.read? (ofNat m ++ ',' :: ofNat n) = LineRange.ofStart? m n := by
  have hsplit : (ofNat m ++ ',' :: ofNat n).splitOn ',' = [ofNat m, ofNat n] := by
    have h : List.splitOn ',' (joined [','] [ofNat m, ofNat n]) = [ofNat m, ofNat n] :=
      List.splitOn_intercalate ','
        (by simpa using ⟨not_mem_ofNat (by decide) m, not_mem_ofNat (by decide) n⟩) (by simp)
    simpa [joined] using h
  rw [LineRange.read?, hsplit]
  simp [number?_ofNat]

/-- Ranges are read back in all three spellings. -/
theorem read?_renderRange (start length : Nat) :
    LineRange.read? (Hunk.renderRange start length) = some ⟨start, length⟩ := by
  unfold Hunk.renderRange
  split
  · exact read?_ofNat_pair start 0
  · exact read?_ofNat (start + 1)
  · next hzero _ => rw [read?_ofNat_pair, LineRange.ofStart?, if_neg hzero, if_neg (by omega),
      Nat.add_sub_cancel]

theorem not_mem_renderRange {c : Char} (hc : c.isDigit = false) (hcomma : c ≠ ',')
    (start length : Nat) : c ∉ Hunk.renderRange start length := by
  have hdigits := fun n => not_mem_ofNat hc n
  have hzero : c ≠ '0' := by
    rintro rfl
    contradiction
  unfold Hunk.renderRange
  split <;> simp [hdigits, hcomma, hzero]

theorem isLine_header (h : Hunk) : h.header.IsLine := by
  have hold := not_mem_renderRange (c := '\n') (by decide) (by decide) h.oldStart h.oldLength
  have hnew := not_mem_renderRange (c := '\n') (by decide) (by decide) h.newStart h.newLength
  refine ⟨['@', '@', ' ', '-'] ++ Hunk.renderRange h.oldStart h.oldLength ++ [' ', '+']
    ++ Hunk.renderRange h.newStart h.newLength ++ [' ', '@', '@'], by simp [hold, hnew], ?_⟩
  simp [Hunk.header]

/-- A hunk with the ranges that its header gives. -/
def Hunk.asRead (h : Hunk) : PatchHunk :=
  ⟨⟨h.oldStart, h.oldLength⟩, ⟨h.newStart, h.newLength⟩, h.edits⟩

/-- The ranges of a hunk are read from its header. -/
theorem readHeader?_header (h : Hunk) :
    readHeader? h.header = some (h.asRead.old, h.asRead.new) := by
  have hplus := not_mem_renderRange (c := '+') (by decide) (by decide) h.oldStart h.oldLength
  have hnewline := not_mem_renderRange (c := '\n') (by decide) (by decide) h.newStart h.newLength
  have hheader : h.header = ['@', '@', ' ', '-'] ++
      (Hunk.renderRange h.oldStart h.oldLength ++ [' ', '+']
      ++ (Hunk.renderRange h.newStart h.newLength ++ [' ', '@', '@', '\n'] ++ [])) := by
    simp [Hunk.header]
  have hold : cut? [' ', '+'] (Hunk.renderRange h.oldStart h.oldLength ++ [' ', '+']
      ++ (Hunk.renderRange h.newStart h.newLength ++ [' ', '@', '@', '\n'] ++ [])) =
        some (Hunk.renderRange h.oldStart h.oldLength,
          Hunk.renderRange h.newStart h.newLength ++ [' ', '@', '@', '\n'] ++ []) := by
    refine cut?_append (by decide) (not_infix_of_mem (c := '+') (by decide) ?_)
    rw [List.dropLast_append_of_ne_nil (by decide)]
    simp [hplus]
  have hnew : cut? [' ', '@', '@', '\n']
      (Hunk.renderRange h.newStart h.newLength ++ [' ', '@', '@', '\n'] ++ []) =
      some (Hunk.renderRange h.newStart h.newLength, []) := by
    refine cut?_append (by decide) (not_infix_of_mem (c := '\n') (by decide) ?_)
    rw [List.dropLast_append_of_ne_nil (by decide)]
    simp [hnewline]
  simp only [readHeader?, hheader, after?_append, hold, hnew, Option.bind_eq_bind, Option.bind_some,
    if_true, read?_renderRange]
  rfl

theorem read?_render {e : Edit Text} (h : e.line.IsLine) : Edit.read? e.render = some e := by
  obtain ⟨tag, line⟩ := e
  rw [Edit.render, IsLine.withNewline h]
  cases tag <;> rfl

theorem isLine_render {e : Edit Text} (h : e.line.IsLine) : e.render.IsLine := by
  rw [Edit.render, IsLine.withNewline h]
  refine h.cons ?_
  cases e.tag <;> decide

theorem read?_header (h : Hunk) : Edit.read? h.header = none := rfl

/-- The lines that are printed for a hunk. -/
def Hunk.lines (h : Hunk) : List Text := h.header :: h.edits.map Edit.render

theorem flatten_lines (h : Hunk) : h.lines.flatten = h.render := by
  rw [Hunk.lines, List.flatten_cons, Hunk.render, List.flatMap_def]

/-- Lines of a hunk are read up to the next header. -/
theorem readHunks?_edits {edits : Script Text} (h : ∀ e ∈ edits, e.line.IsLine) {lines : List Text}
    {hunks : List PatchHunk} (hlines : readHunks? lines = some ([], hunks)) :
    readHunks? (edits.map Edit.render ++ lines) = some (edits, hunks) := by
  induction edits with
  | nil => exact hlines
  | cons e edits ih =>
    rw [List.forall_mem_cons] at h
    rw [List.map_cons, List.cons_append, readHunks?, ih h.2]
    simp [read?_render h.1]

/-- Hunks are read back from their lines. -/
theorem readHunks?_lines {hunks : List Hunk} (h : ∀ hunk ∈ hunks, ∀ e ∈ hunk.edits, e.line.IsLine) :
    readHunks? (hunks.flatMap Hunk.lines) = some ([], hunks.map Hunk.asRead) := by
  induction hunks with
  | nil => rfl
  | cons hunk hunks ih =>
    rw [List.forall_mem_cons] at h
    rw [List.flatMap_cons, Hunk.lines, List.cons_append, readHunks?, readHunks?_edits h.1 (ih h.2)]
    simp [read?_header, readHeader?_header, Hunk.asRead]

/-- A line with a name, as the front of a diff has two. -/
def nameLine (mark name : Text) : Text := mark ++ (name ++ ['\n'])

theorem fileHeader_eq (name : Text) :
    fileHeader name =
      nameLine ['-', '-', '-', ' '] ('a' :: '/' :: name) ++
        nameLine ['+', '+', '+', ' '] ('b' :: '/' :: name) := by
  simp [fileHeader, nameLine]

theorem isLine_nameLine {mark name : Text} (hmark : '\n' ∉ mark) (hname : '\n' ∉ name) :
    (nameLine mark name).IsLine :=
  IsLine.append ⟨name, hname, rfl⟩ hmark

theorem readName?_nameLine (mark : Text) {name : Text} (hname : '\n' ∉ name) :
    readName? mark (nameLine mark name) = some name := by
  rw [readName?, nameLine, after?_append, Option.map_some, dropEnd_eq_rdropWhile,
    List.rdropWhile_concat_pos _ _ _ (by decide), ← dropEnd_eq_rdropWhile,
    dropEnd_of_getLast?_ne fun hlast => hname (List.mem_of_getLast? hlast)]

theorem isLine_of_mem_lines {hunk : Hunk} (h : ∀ e ∈ hunk.edits, e.line.IsLine) {line : Text}
    (hline : line ∈ hunk.lines) : line.IsLine := by
  rcases List.mem_cons.mp hline with rfl | hline
  · exact isLine_header hunk
  · obtain ⟨e, he, rfl⟩ := List.mem_map.mp hline
    exact isLine_render (h e he)

/-- A diff is read back: the names of the files, and the hunks with the lengths that they have. -/
theorem read?_printed {name : Text} (hname : '\n' ∉ name) {hunks : List Hunk}
    (h : ∀ hunk ∈ hunks, ∀ e ∈ hunk.edits, e.line.IsLine) :
    Patch.read? (fileHeader name ++ hunks.flatMap Hunk.render) =
      some ⟨'a' :: '/' :: name, 'b' :: '/' :: name, hunks.map Hunk.asRead⟩ := by
  have hold : '\n' ∉ 'a' :: '/' :: name := by simp [hname]
  have hnew : '\n' ∉ 'b' :: '/' :: name := by simp [hname]
  have hlines : ∀ line ∈ hunks.flatMap Hunk.lines, line.IsLine := by
    intro line hline
    obtain ⟨hunk, hhunk, hline⟩ := List.mem_flatMap.mp hline
    exact isLine_of_mem_lines (h hunk hhunk) hline
  have hflat : hunks.flatMap Hunk.render = (hunks.flatMap Hunk.lines).flatten := by
    rw [List.flatMap_def, List.flatMap_def, List.flatten_flatten, List.map_map]
    exact congrArg List.flatten (List.map_congr_left fun hunk _ => (flatten_lines hunk).symm)
  have hsplit : wholeLines (fileHeader name ++ hunks.flatMap Hunk.render) =
      nameLine ['-', '-', '-', ' '] ('a' :: '/' :: name) ::
        nameLine ['+', '+', '+', ' '] ('b' :: '/' :: name) :: hunks.flatMap Hunk.lines := by
    rw [fileHeader_eq, List.append_assoc, wholeLines_append (isLine_nameLine (by decide) hold),
      wholeLines_append (isLine_nameLine (by decide) hnew), hflat, wholeLines_flatten hlines]
  rw [Patch.read?, hsplit]
  simp [readName?_nameLine _ hold, readName?_nameLine _ hnew, readHunks?_lines h]

end FlowTidy
