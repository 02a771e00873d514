import FlowTidy.Diff.Color
import FlowTidy.Proofs.Diff.Applying

/-!
Colours of unified diffs. Every line of a diff is written for the name of a file, for a hunk or for
an entry of the script (`WrittenLine`), and that decides in which paint it should be. The paint that
it gets is read off its first characters, which the carriage return and the newline at its end have
no part in (`ofLine_bareLine`). The two are the same except for a removed line that starts with two
dashes and a space, and for an added line that starts with two plus signs and a space: behind its
sign such a line looks like the name of a file (`WrittenLine.ofLine_text`).
-/

namespace FlowTidy

open Text

/-! ## Lines as they are written -/

/-- A line of a diff, by what it is written for. -/
inductive WrittenLine where
  | oldName (path : Text)
  | newName (path : Text)
  | header (hunk : Hunk)
  | edit (e : Edit Text)
  deriving DecidableEq, Repr

namespace WrittenLine

/-- The line, with its newline. -/
def text : WrittenLine → Text
  | oldName path => nameLine ['-', '-', '-', ' '] path
  | newName path => nameLine ['+', '+', '+', ' '] path
  | header hunk => hunk.header
  | edit e => e.render

/-- The paint that a line should have. -/
def paint : WrittenLine → Paint
  | oldName _ | newName _ => .bold
  | header _ => .cyan
  | edit ⟨.remove, _⟩ => .red
  | edit ⟨.add, _⟩ => .green
  | edit ⟨.keep, _⟩ => .plain

/-- A change that starts like the name of a file, once its sign is in front of it. -/
def LooksLikeName : WrittenLine → Prop
  | edit ⟨.remove, line⟩ => ['-', '-', ' '] <+: line
  | edit ⟨.add, line⟩ => ['+', '+', ' '] <+: line
  | _ => False

instance : DecidablePred LooksLikeName
  | edit ⟨.remove, line⟩ => inferInstanceAs (Decidable (['-', '-', ' '] <+: line))
  | edit ⟨.add, line⟩ => inferInstanceAs (Decidable (['+', '+', ' '] <+: line))
  | edit ⟨.keep, _⟩ | oldName _ | newName _ | header _ => inferInstanceAs (Decidable False)

/-- The paint that a line has. -/
def shownPaint (l : WrittenLine) : Paint := if l.LooksLikeName then .bold else l.paint

end WrittenLine

/-- The lines that are written for a hunk. -/
def Hunk.written (h : Hunk) : List WrittenLine := .header h :: h.edits.map .edit

/-- The lines of the unified diff of two texts, by what they are written for. -/
def writtenLines (old new name : Text) : List WrittenLine :=
  match (Script.between (wholeLines old) (wholeLines new)).hunks with
  | [] => []
  | hunks =>
    .oldName ('a' :: '/' :: name) :: .newName ('b' :: '/' :: name) :: hunks.flatMap Hunk.written

/-- Lines without their carriage returns, each in the paint that is given for it. -/
def painted (colours : Bool) (paint : WrittenLine → Paint) (lines : List WrittenLine) : Text :=
  lines.flatMap fun l => (paint l).apply colours (bareLine l.text) ++ ['\n']

/-! ## The paint of a line -/

/-- The carriage return and the newline at the end of a line have no part in a mark at its front. -/
theorem isPrefix_bareLine_iff {mark t : Text} (hnewline : '\n' ∉ mark) (hreturn : '\r' ∉ mark) :
    mark <+: bareLine t ↔ mark <+: t := by
  have ht : ∀ {r : Text}, t.reverse = r → t = r.reverse :=
    fun h => by rw [← h, List.reverse_reverse]
  rw [bareLine]
  split
  · next r hr =>
    rw [ht hr, List.reverse_cons, List.reverse_cons, List.append_assoc]
    refine ⟨fun h => h.trans (List.prefix_append _ _), isPrefix_of_append_cons hreturn⟩
  · next r _ hr =>
    rw [ht hr, List.reverse_cons]
    refine ⟨fun h => h.trans (List.prefix_append _ _), isPrefix_of_append_cons hnewline⟩
  · rfl

theorem isPrefix_withNewline_iff {mark t : Text} (hnewline : '\n' ∉ mark) :
    mark <+: withNewline t ↔ mark <+: t := by
  rw [withNewline]
  split
  · rfl
  · exact ⟨isPrefix_of_append_cons hnewline, fun h => h.trans (List.prefix_append _ _)⟩

namespace Paint

/-- The paint of a line, by the marks that it starts with. -/
theorem ofLine_eq (line : Text) :
    ofLine line =
      if ['-', '-', '-', ' '] <+: line ∨ ['+', '+', '+', ' '] <+: line then .bold
      else if ['@', '@'] <+: line then .cyan
      else if ['-'] <+: line then .red
      else if ['+'] <+: line then .green
      else .plain := by
  simp only [ofLine, isSome_after?_iff]
  congr 1
  split
  · simp
  · simp
  · simp
  · next hat hminus hplus =>
    rw [if_neg fun ⟨t, ht⟩ => hat t ht.symm, if_neg fun ⟨t, ht⟩ => hminus t ht.symm,
      if_neg fun ⟨t, ht⟩ => hplus t ht.symm]

/-- How a line ends has no part in its paint. -/
theorem ofLine_bareLine (line : Text) : ofLine (bareLine line) = ofLine line := by
  simp (disch := decide) only [ofLine_eq, isPrefix_bareLine_iff]

/-- A changed line is bold just if it goes on like the name of a file behind its sign. -/
theorem ofLine_minus (t : Text) :
    ofLine ('-' :: t) = if ['-', '-', ' '] <+: t then .bold else .red := by
  simp [ofLine_eq, List.cons_prefix_cons]

theorem ofLine_plus (t : Text) :
    ofLine ('+' :: t) = if ['+', '+', ' '] <+: t then .bold else .green := by
  simp [ofLine_eq, List.cons_prefix_cons]

end Paint

namespace WrittenLine

/-- The paint of a line goes by what it is written for, unless it looks like the name of a file. -/
theorem ofLine_text (l : WrittenLine) : Paint.ofLine l.text = l.shownPaint := by
  cases l with
  | oldName path => rfl
  | newName path => rfl
  | header hunk => rfl
  | edit e =>
    obtain ⟨tag, line⟩ := e
    cases tag with
    | keep => rfl
    | remove =>
      simp (disch := decide) only [text, Edit.render, Tag.sign, Paint.ofLine_minus,
        isPrefix_withNewline_iff]
      rfl
    | add =>
      simp (disch := decide) only [text, Edit.render, Tag.sign, Paint.ofLine_plus,
        isPrefix_withNewline_iff]
      rfl

theorem LooksLikeName.paint {l : WrittenLine} (h : l.LooksLikeName) :
    l.paint = .red ∨ l.paint = .green := by
  cases l with
  | oldName path | newName path | header hunk => exact h.elim
  | edit e =>
    obtain ⟨tag, line⟩ := e
    cases tag with
    | keep => exact h.elim
    | remove => exact .inl rfl
    | add => exact .inr rfl

end WrittenLine

/-! ## Painted lines -/

/-- Lines that are put together are painted one by one. -/
theorem colorize_flatten (colours : Bool) {lines : List Text} (h : ∀ line ∈ lines, line.IsLine) :
    colorize colours lines.flatten =
      lines.flatMap fun line => (Paint.ofLine line).apply colours (bareLine line) ++ ['\n'] := by
  rw [colorize, wholeLines_flatten h]
  simp only [Paint.ofLine_bareLine]
  cases hlines : lines.getLast? with
  | none =>
    obtain rfl := List.getLast?_eq_none_iff.mp hlines
    rfl
  | some last =>
    obtain ⟨front, rfl⟩ := List.getLast?_eq_some_iff.mp hlines
    obtain ⟨w, -, rfl⟩ := h last (List.mem_append_right front List.mem_cons_self)
    have hlast : (front ++ [w ++ ['\n']]).flatten.getLast? = some '\n' := by simp
    rw [if_pos hlast, joined_append (by simp), List.flatMap_map]

/-- A bold line is no red or green one, whatever follows. -/
theorem apply_bold_append_ne (colours : Bool) {paint : Paint} (h : paint = .red ∨ paint = .green)
    (line s t : Text) : Paint.bold.apply colours line ++ s ≠ paint.apply colours line ++ t := by
  intro heq
  have hthird := congrArg (fun text : Text => text[2]?) heq
  rcases h with rfl | rfl <;> cases colours <;> simp [Paint.apply, controlSequence] at hthird

/-- Lines are painted as they should be just if none looks like the name of a file. -/
theorem painted_shownPaint_iff (colours : Bool) (lines : List WrittenLine) :
    painted colours WrittenLine.shownPaint lines = painted colours WrittenLine.paint lines ↔
      ∀ l ∈ lines, ¬ l.LooksLikeName := by
  induction lines with
  | nil => simp [painted]
  | cons l lines ih =>
    rw [painted, painted, List.flatMap_cons, List.flatMap_cons, ← painted, ← painted,
      List.forall_mem_cons, ← ih]
    by_cases hl : l.LooksLikeName
    · rw [WrittenLine.shownPaint, if_pos hl]
      refine iff_of_false ?_ fun h => h.1 hl
      rw [List.append_assoc, List.append_assoc]
      exact apply_bold_append_ne colours hl.paint _ _ _
    · rw [WrittenLine.shownPaint, if_neg hl, List.append_cancel_left_eq]
      exact (and_iff_right hl).symm

/-! ## The lines of a diff -/

section
variable {old new name : Text}

theorem flatten_written (hunks : List Hunk) :
    ((hunks.flatMap Hunk.written).map WrittenLine.text).flatten = hunks.flatMap Hunk.render := by
  induction hunks with
  | nil => rfl
  | cons hunk hunks ih =>
    have hlines : hunk.written.map WrittenLine.text = hunk.lines := by
      rw [Hunk.written, List.map_cons, List.map_map]
      rfl
    rw [List.flatMap_cons, List.map_append, List.flatten_append, hlines, flatten_lines, ih,
      List.flatMap_cons]

/-- What is written is the diff. -/
theorem flatten_writtenLines (old new name : Text) :
    ((writtenLines old new name).map WrittenLine.text).flatten = unifiedDiff old new name := by
  rw [writtenLines, unifiedDiff]
  cases (Script.between (wholeLines old) (wholeLines new)).hunks with
  | nil => rfl
  | cons first more =>
    simp only [List.map_cons, List.flatten_cons, flatten_written, fileHeader_eq, List.append_assoc,
      WrittenLine.text]

/-- A line of a diff is for the name of a file or belongs to a hunk. -/
theorem mem_writtenLines {l : WrittenLine} (hl : l ∈ writtenLines old new name) :
    l = .oldName ('a' :: '/' :: name) ∨ l = .newName ('b' :: '/' :: name) ∨
      ∃ hunk ∈ (Script.between (wholeLines old) (wholeLines new)).hunks, l ∈ hunk.written := by
  rw [writtenLines] at hl
  split at hl
  · contradiction
  · simpa using hl

theorem edit_mem_writtenLines {hunk : Hunk}
    (h : hunk ∈ (Script.between (wholeLines old) (wholeLines new)).hunks) {e : Edit Text}
    (he : e ∈ hunk.edits) : .edit e ∈ writtenLines old new name := by
  have hwritten : .edit e ∈ hunk.written := List.mem_cons_of_mem _ (List.mem_map_of_mem he)
  rw [writtenLines]
  split
  · next hnil =>
    rw [hnil] at h
    contradiction
  · exact List.mem_cons_of_mem _ (List.mem_cons_of_mem _ (List.mem_flatMap.mpr ⟨hunk, h, hwritten⟩))

theorem isLine_of_mem_writtenLines (hname : '\n' ∉ name) {l : WrittenLine}
    (hl : l ∈ writtenLines old new name) : l.text.IsLine := by
  rcases mem_writtenLines hl with rfl | rfl | ⟨hunk, hhunk, hl⟩
  · exact isLine_nameLine (by decide) (by simpa using hname)
  · exact isLine_nameLine (by decide) (by simpa using hname)
  · rcases List.mem_cons.mp hl with rfl | hl
    · exact isLine_header hunk
    · obtain ⟨e, he, rfl⟩ := List.mem_map.mp hl
      have hline : (withNewline e.line).IsLine := by
        rcases (Script.optimal_between _ _).line_mem (Script.mem_of_mem_hunk hhunk he) with h | h
        · exact isLine_withNewline h
        · exact isLine_withNewline h
      refine hline.cons ?_
      cases e.tag <;> decide

/-- The changes among the lines of a diff are those of the script. -/
theorem looksLikeName_writtenLines_iff :
    (∀ l ∈ writtenLines old new name, ¬ l.LooksLikeName) ↔
      ∀ e ∈ Script.between (wholeLines old) (wholeLines new),
        ¬ WrittenLine.LooksLikeName (.edit e) := by
  constructor
  · intro h e he hlooks
    have htag : e.tag ≠ .keep := by
      obtain ⟨tag, line⟩ := e
      rintro rfl
      exact hlooks
    obtain ⟨hunk, hhunk, hmem⟩ := Script.exists_hunk_of_mem he htag
    exact h _ (edit_mem_writtenLines hhunk hmem) hlooks
  · intro h l hl hlooks
    rcases mem_writtenLines hl with rfl | rfl | ⟨hunk, hhunk, hl⟩
    · exact hlooks
    · exact hlooks
    · rcases List.mem_cons.mp hl with rfl | hl
      · exact hlooks
      · obtain ⟨e, he, rfl⟩ := List.mem_map.mp hl
        exact h e (Script.mem_of_mem_hunk hhunk he) hlooks

/-- The lines of a unified diff are painted by what they are written for, names of files bold,
headers of hunks cyan, removed lines red, added lines green and all others plain, except that a
changed line that looks like the name of a file is bold as well. So all paint is as it should be
just if there is no such change. -/
theorem colorize_unifiedDiff (hname : '\n' ∉ name) (colours : Bool) :
    wholeLines (unifiedDiff old new name) = (writtenLines old new name).map WrittenLine.text ∧
    colorize colours (unifiedDiff old new name) =
      painted colours WrittenLine.shownPaint (writtenLines old new name) ∧
    (colorize colours (unifiedDiff old new name) =
      painted colours WrittenLine.paint (writtenLines old new name) ↔
        ∀ e ∈ Script.between (wholeLines old) (wholeLines new),
          ¬ WrittenLine.LooksLikeName (.edit e)) := by
  have hlines : ∀ line ∈ (writtenLines old new name).map WrittenLine.text, line.IsLine := by
    intro line hline
    obtain ⟨l, hl, rfl⟩ := List.mem_map.mp hline
    exact isLine_of_mem_writtenLines hname hl
  have hcolorize : colorize colours (unifiedDiff old new name) =
      painted colours WrittenLine.shownPaint (writtenLines old new name) := by
    rw [← flatten_writtenLines, colorize_flatten colours hlines, List.flatMap_map]
    simp only [WrittenLine.ofLine_text]
    rfl
  refine ⟨?_, hcolorize, ?_⟩
  · rw [← flatten_writtenLines, wholeLines_flatten hlines]
  · rw [hcolorize, painted_shownPaint_iff, looksLikeName_writtenLines_iff]

/-- Without the space a changed line is no name, however many dashes or plus signs it starts with,
and a kept line is no header. -/
theorem colorize_unifiedDiff_signs :
    let old : Text := ['-', '-', 'x', '\n', '@', '@', '\n']
    let new : Text := ['@', '@', '\n', '+', '+', '+']
    '\n' ∉ ['n'] ∧
      colorize true (unifiedDiff old new ['n']) =
        painted true WrittenLine.paint (writtenLines old new ['n']) ∧
      (writtenLines old new ['n']).map WrittenLine.paint =
        [.bold, .bold, .cyan, .red, .plain, .green] := by
  intro old new
  have hname : '\n' ∉ ['n'] := by decide
  have hedits : ∀ e ∈ Script.between (wholeLines old) (wholeLines new),
      ¬ WrittenLine.LooksLikeName (.edit e) := by decide +kernel
  exact ⟨hname, (colorize_unifiedDiff hname true).2.2.mpr hedits, by decide +kernel⟩

/-- A removed line that starts with two dashes and a space is shown like the name of a file. -/
theorem colorize_dashes_bold :
    let old := "```mermaid\nflowchart TB\n-- x\n```\n".toList
    let new := "```mermaid\nflowchart TB\n  -- x\n```\n".toList
    let name := "a.md".toList
    let removed : WrittenLine := .edit ⟨.remove, "-- x\n".toList⟩
    removed ∈ writtenLines old new name ∧ removed.paint = .red ∧
      Paint.ofLine (bareLine removed.text) = .bold ∧
      colorize true (unifiedDiff old new name) ≠
        painted true WrittenLine.paint (writtenLines old new name) := by
  intro old new name removed
  have hmem : removed ∈ writtenLines old new name := by decide +kernel
  exact ⟨hmem, rfl, by decide +kernel, by decide +kernel⟩

end

end FlowTidy
