import FlowTidy.Proofs.Diff.Patch

/-!
A unified diff patches the old text into the new one. The hunks of a script are followed from one to
the next: what lies between them is kept, so both sides have it, and each hunk turns its part of the
old side into its part of the new side (`replayHunks?_hunks`). What is read from a diff are these
hunks (`read?_unifiedDiff`).
-/

namespace FlowTidy

open Text

/-- A script turns its old side into its new side. -/
theorem Script.replay?_linesOf (script : Script Text) (left : List Text) :
    script.replay? (script.linesOf Tag.inOld ++ left) = some (script.linesOf Tag.inNew, left) := by
  induction script with
  | nil => rfl
  | cons e script ih =>
    obtain ⟨tag, line⟩ := e
    cases tag with
    | keep | remove | add => simp [Script.replay?, Tag.inOld, Tag.inNew, ih]

namespace Script

variable {script : Script Text} {group : Nat × Nat} {groups : List (Nat × Nat)}

/-- The hunk of a group as it is read. -/
theorem asRead_hunk (script : Script Text) (group : Nat × Nat) :
    (script.hunk group).asRead =
      ⟨⟨script.linesBefore Tag.inOld (hunkStart group),
          ((script.part (hunkStart group) (hunkStop group)).linesOf Tag.inOld).length⟩,
        ⟨script.linesBefore Tag.inNew (hunkStart group),
          ((script.part (hunkStart group) (hunkStop group)).linesOf Tag.inNew).length⟩,
        script.part (hunkStart group) (hunkStop group)⟩ := by
  rw [Hunk.asRead, oldStart_hunk, newStart_hunk, edits_hunk, Hunk.oldLength, Hunk.newLength,
    edits_hunk, length_linesOf, length_linesOf]

theorem hunkStart_le_hunkStop (h : group.1 ≤ group.2) : hunkStart group ≤ hunkStop group := by
  rw [hunkStart, hunkStop]
  omega

theorem old_stop_asRead (h : group.1 ≤ group.2) :
    (script.hunk group).asRead.old.stop = script.linesBefore Tag.inOld (hunkStop group) := by
  rw [asRead_hunk, LineRange.stop, linesBefore_add _ (hunkStart_le_hunkStop h)]

theorem new_stop_asRead (h : group.1 ≤ group.2) :
    (script.hunk group).asRead.new.stop = script.linesBefore Tag.inNew (hunkStop group) := by
  rw [asRead_hunk, LineRange.stop, linesBefore_add _ (hunkStart_le_hunkStop h)]

/-- One hunk applied: the kept lines up to it are passed over, and its part of the old side becomes
its part of the new side. -/
theorem replayHunks?_cons {i : Nat} (hi : i ≤ hunkStart group) (hgroup : group.1 ≤ group.2)
    (hkept : ∀ e ∈ script.part i (hunkStart group), e.tag = .keep) {hunks : List PatchHunk}
    {out : List Text}
    (hrest : replayHunks? hunks (script.linesBefore Tag.inOld (hunkStop group))
      (linesOf Tag.inOld (script.drop (hunkStop group))) = some out) :
    replayHunks? ((script.hunk group).asRead :: hunks) (script.linesBefore Tag.inOld i)
      (linesOf Tag.inOld (script.drop i)) =
        some ((script.part i (hunkStart group)).linesOf Tag.inNew ++
          ((script.part (hunkStart group) (hunkStop group)).linesOf Tag.inNew ++ out)) := by
  have hbefore : (script.hunk group).asRead.old.before =
      script.linesBefore Tag.inOld i +
        ((script.part i (hunkStart group)).linesOf Tag.inOld).length := by
    rw [asRead_hunk, linesBefore_add _ hi]
  have hedits : (script.hunk group).asRead.edits = script.part (hunkStart group) (hunkStop group) :=
    rfl
  have hlines : linesOf Tag.inOld (script.drop i) =
      (script.part i (hunkStart group)).linesOf Tag.inOld ++
        ((script.part (hunkStart group) (hunkStop group)).linesOf Tag.inOld ++
          linesOf Tag.inOld (script.drop (hunkStop group))) := by
    rw [← part_append_drop hi, linesOf_append,
      ← part_append_drop (hunkStart_le_hunkStop hgroup), linesOf_append]
  have hsame : (script.part i (hunkStart group)).linesOf Tag.inOld =
      (script.part i (hunkStart group)).linesOf Tag.inNew := by
    rw [linesOf_of_kept rfl hkept, linesOf_of_kept rfl hkept]
  rw [replayHunks?, hbefore, Nat.add_sub_cancel_left, hlines, List.take_left,
    List.drop_left, hedits, replay?_linesOf, old_stop_asRead hgroup, if_pos]
  · simp only [Option.bind_eq_bind, Option.bind_some, hrest, hsame, List.append_assoc]
    rfl
  · constructor
    · exact Nat.le_add_right _ _
    · rw [List.length_append]
      exact Nat.le_add_right _ _

/-- Hunks applied from some place on, when all changes after it are in their groups. -/
theorem replayHunks?_hunks {i : Nat} (hgroups : ∀ g ∈ groups, g.1 ≤ g.2)
    (hapart : groups.Pairwise fun g h => g.2 + 7 < h.1) (hi : ∀ g ∈ groups, i ≤ hunkStart g)
    (hcovers : ∀ c ∈ script.changes, i ≤ c → ∃ g ∈ groups, g.1 ≤ c ∧ c ≤ g.2) :
    replayHunks? (groups.map fun g => (script.hunk g).asRead) (script.linesBefore Tag.inOld i)
      (linesOf Tag.inOld (script.drop i)) = some (linesOf Tag.inNew (script.drop i)) := by
  induction groups generalizing i with
  | nil =>
    have hkept : ∀ e ∈ script.drop i, e.tag = .keep := by
      refine kept_of_mem_drop fun c hc => ?_
      by_contra hle
      obtain ⟨g, hg, -⟩ := hcovers c hc (Nat.le_of_not_lt hle)
      contradiction
    rw [List.map_nil, replayHunks?, linesOf_of_kept rfl hkept, linesOf_of_kept rfl hkept]
  | cons group groups ih =>
    obtain ⟨hgroup, hrest⟩ := List.forall_mem_cons.mp hgroups
    obtain ⟨hnext, hapart⟩ := List.pairwise_cons.mp hapart
    have hi' := hi group List.mem_cons_self
    have hkept : ∀ e ∈ script.part i (hunkStart group), e.tag = .keep := by
      refine kept_of_mem_part fun c hc hic => ?_
      obtain ⟨g, hg, hle, -⟩ := hcovers c hc hic
      rw [hunkStart]
      rcases List.mem_cons.mp hg with rfl | hg
      · omega
      · have := hnext g hg
        omega
    have hlater := ih (i := hunkStop group) hrest hapart
      (fun g hg => by
        have := hnext g hg
        rw [hunkStart, hunkStop]
        omega)
      (fun c hc hle => by
        obtain ⟨g, hg, hin⟩ := hcovers c hc (by rw [hunkStart] at hi'; rw [hunkStop] at hle; omega)
        rcases List.mem_cons.mp hg with rfl | hg
        · rw [hunkStop] at hle
          omega
        · exact ⟨g, hg, hin⟩)
    rw [List.map_cons, replayHunks?_cons hi' hgroup hkept hlater]
    rw [← linesOf_append, part_append_drop (hunkStart_le_hunkStop hgroup), ← linesOf_append,
      part_append_drop hi']

/-- Between two hunks there is a line that both sides have. -/
theorem linesBefore_lt {p : Tag → Bool} (hp : p .keep = true) {g h : Nat × Nat}
    (hg : g ∈ Script.groups script.changes) (hh : h ∈ Script.groups script.changes)
    (hlt : g.2 + 7 < h.1) :
    script.linesBefore p (hunkStop g) < script.linesBefore p (hunkStart h) := by
  have hgroup := (grouped_changes script).isGroup g hg
  have hother := (grouped_changes script).isGroup h hh
  have hle : hunkStop g ≤ hunkStart h := by
    rw [hunkStart, hunkStop]
    omega
  -- the line right after the first hunk is too close to it to be a change
  obtain ⟨e, he⟩ : ∃ e, script[hunkStop g]? = some e := by
    obtain ⟨f, hf, -⟩ := mem_changes_iff.mp hother.first_mem
    obtain ⟨hlength, -⟩ := List.getElem?_eq_some_iff.mp hf
    have hshort : hunkStop g < script.length := by
      rw [hunkStop]
      omega
    exact ⟨_, List.getElem?_eq_getElem hshort⟩
  have hkept : e.tag = .keep := by
    refine kept_of_not_mem_changes (fun hmem => ?_) he
    have hfirst := hgroup.first_le_last
    have := (grouped_changes script).mem_of_close hg hmem (by rw [hunkStop]; omega)
      (by rw [hunkStop]; omega)
    rw [hunkStop] at this
    omega
  have hmem : e ∈ script.part (hunkStop g) (hunkStart h) := by
    refine List.mem_iff_getElem?.mpr ⟨0, ?_⟩
    rw [getElem?_part, if_pos (by rw [hunkStart, hunkStop]; omega), Nat.add_zero, he]
  have hline : e.line ∈ (script.part (hunkStop g) (hunkStart h)).linesOf p :=
    line_mem_linesOf hmem (by rw [hkept, hp])
  have hpos := List.length_pos_of_mem hline
  rw [← linesBefore_add p hle]
  omega

/-- The lines of a part of a script are those of the whole side that come after the lines before
it. -/
theorem linesOf_part {p : Tag → Bool} {i j : Nat} (hij : i ≤ j) :
    (script.part i j).linesOf p =
      ((script.linesOf p).drop (script.linesBefore p i)).take
        ((script.part i j).linesOf p).length := by
  have hsplit : script.linesOf p = linesOf p (script.take i) ++ ((script.part i j).linesOf p ++
      linesOf p (script.drop j)) := by
    rw [← linesOf_append, part_append_drop hij, ← linesOf_append, List.take_append_drop]
  rw [linesBefore, hsplit, List.drop_left, List.take_left]

theorem changes_eq_nil_iff : script.changes = [] ↔ ∀ e ∈ script, e.tag = .keep := by
  constructor
  · intro h
    have hkept : ∀ e ∈ script.drop 0, e.tag = .keep := kept_of_mem_drop (by simp [h])
    simpa using hkept
  · intro h
    rw [List.eq_nil_iff_forall_not_mem]
    intro i hi
    obtain ⟨e, he, htag⟩ := mem_changes_iff.mp hi
    exact htag (h e (List.mem_of_getElem? he))

theorem hunks_eq_nil_iff : script.hunks = [] ↔ script.changes = [] := by
  rw [hunks, List.map_eq_nil_iff]
  constructor
  · intro h
    have := head?_groups script.changes
    rw [h] at this
    exact List.head?_eq_none_iff.mp this.symm
  · intro h
    rw [h]
    rfl

/-- Only a list and itself have a script without changes. -/
theorem changes_between_eq_nil_iff {old new : List Text} :
    (between old new).changes = [] ↔ old = new := by
  have h := optimal_between old new
  constructor
  · intro hnil
    have hkept := changes_eq_nil_iff.mp hnil
    calc
      old = (between old new).linesOf Tag.inOld := h.oldLines.symm
      _ = (between old new).linesOf Tag.inNew := by
        rw [linesOf_of_kept rfl hkept, linesOf_of_kept rfl hkept]
      _ = new := h.newLines
  · rintro rfl
    -- a script that keeps everything has no other lines
    have hsides := length_sides (between old old)
    rw [h.oldLines, h.newLines, h.kept.unique (LongestCommon.self old)] at hsides
    have hcount : (between old old).changeCount = 0 := by omega
    refine changes_eq_nil_iff.mpr fun e he => ?_
    have hfilter := List.length_eq_zero_iff.mp hcount
    have := List.filter_eq_nil_iff.mp hfilter e he
    cases htag : e.tag with
    | keep => rfl
    | remove | add => simp [htag, Tag.isKept] at this

end Script

/-- A hunk of a patch between two texts: its ranges are as long as it has lines of either text, they
are the places of these lines, and every line that is only there for context is at most three lines
away from a change. -/
structure PatchHunk.Sound (old new : Text) (h : PatchHunk) : Prop where
  oldLength : h.old.length = (h.edits.linesOf Tag.inOld).length
  newLength : h.new.length = (h.edits.linesOf Tag.inNew).length
  oldLines : h.edits.linesOf Tag.inOld = ((wholeLines old).drop h.old.before).take h.old.length
  newLines : h.edits.linesOf Tag.inNew = ((wholeLines new).drop h.new.before).take h.new.length
  context : ∀ i e, h.edits[i]? = some e → e.tag = .keep →
    ∃ j f, h.edits[j]? = some f ∧ f.tag ≠ .keep ∧ j ≤ i + 3 ∧ i ≤ j + 3

section
variable {old new name : Text}

/-- A diff is empty just if the texts are the same. -/
theorem unifiedDiff_eq_nil_iff : unifiedDiff old new name = [] ↔ old = new := by
  have hhunks : (Script.between (wholeLines old) (wholeLines new)).hunks = [] ↔ old = new := by
    rw [Script.hunks_eq_nil_iff, Script.changes_between_eq_nil_iff, wholeLines_inj]
  rw [← hhunks, unifiedDiff]
  split
  · next h => exact iff_of_true rfl h
  · next h => exact iff_of_false (by simp [fileHeader]) h

/-- The diff of two texts that differ is read back as the hunks of their script. -/
theorem read?_unifiedDiff (hold : old.EndsLine) (hnew : new.EndsLine) (hname : '\n' ∉ name)
    (hne : old ≠ new) :
    Patch.read? (unifiedDiff old new name) = some ⟨'a' :: '/' :: name, 'b' :: '/' :: name,
      (Script.between (wholeLines old) (wholeLines new)).hunks.map Hunk.asRead⟩ := by
  have hlines : ∀ e ∈ Script.between (wholeLines old) (wholeLines new), e.line.IsLine := by
    intro e he
    rcases (Script.optimal_between (wholeLines old) (wholeLines new)).line_mem he with hline | hline
    · exact isLine_of_mem_wholeLines hold hline
    · exact isLine_of_mem_wholeLines hnew hline
  have hhunks : ∀ hunk ∈ (Script.between (wholeLines old) (wholeLines new)).hunks,
      ∀ e ∈ hunk.edits, e.line.IsLine := by
    intro hunk hhunk e he
    exact hlines e (Script.mem_of_mem_hunk hhunk he)
  rw [unifiedDiff]
  split
  · next h =>
    rw [Script.hunks_eq_nil_iff, Script.changes_between_eq_nil_iff, wholeLines_inj] at h
    exact absurd h hne
  · exact read?_printed hname hhunks

/-- The unified diff of two texts is empty just if they are the same. Otherwise its hunks are in
order and apart from each other in both texts, each is as its header says and has no context far
from a change, and they make the new text of the old one. -/
theorem unifiedDiff_patches (hold : old.EndsLine) (hnew : new.EndsLine) (hname : '\n' ∉ name) :
    (unifiedDiff old new name = [] ↔ old = new) ∧
    (old ≠ new → ∃ patch, Patch.read? (unifiedDiff old new name) = some patch ∧
      patch.oldName = 'a' :: '/' :: name ∧ patch.newName = 'b' :: '/' :: name ∧
      (patch.hunks.Pairwise fun g h => g.old.stop < h.old.before ∧ g.new.stop < h.new.before) ∧
      (∀ h ∈ patch.hunks, h.Sound old new) ∧
      patch.replay? old = some new) := by
  refine ⟨unifiedDiff_eq_nil_iff, fun hne =>
    ⟨_, read?_unifiedDiff hold hnew hname hne, rfl, rfl, ?_⟩⟩
  have hscript := Script.optimal_between (wholeLines old) (wholeLines new)
  generalize Script.between (wholeLines old) (wholeLines new) = script at hscript
  obtain ⟨hgroup, hcovers, hapart⟩ := Script.grouped_changes script
  refine ⟨?_, ?_, ?_⟩
  · rw [Script.hunks, List.map_map, List.pairwise_map]
    refine hapart.imp_of_mem fun {g h} hg hh hlt => ?_
    have hle := (hgroup g hg).first_le_last
    rw [Function.comp_apply, Function.comp_apply, Script.old_stop_asRead hle,
      Script.new_stop_asRead hle, Script.asRead_hunk script h]
    exact ⟨Script.linesBefore_lt rfl hg hh hlt, Script.linesBefore_lt rfl hg hh hlt⟩
  · intro h hh
    obtain ⟨hunk, hhunk, rfl⟩ := List.mem_map.mp hh
    obtain ⟨group, hmem, rfl⟩ := List.mem_map.mp hhunk
    have hle := Script.hunkStart_le_hunkStop (hgroup group hmem).first_le_last
    refine ⟨?_, ?_, ?_, ?_, fun i e he _ => Script.near_change_of_kept hmem he⟩
    · rw [Script.asRead_hunk]
    · rw [Script.asRead_hunk]
    · rw [Script.asRead_hunk, ← hscript.oldLines]
      exact Script.linesOf_part hle
    · rw [Script.asRead_hunk, ← hscript.newLines]
      exact Script.linesOf_part hle
  · have happly := Script.replayHunks?_hunks (i := 0)
      (fun g hg => (hgroup g hg).first_le_last) hapart
      (fun _ _ => Nat.zero_le _) (fun c hc _ => hcovers c hc)
    rw [Script.linesBefore_zero, List.drop_zero, hscript.oldLines, hscript.newLines] at happly
    rw [Patch.replay?, Script.hunks, List.map_map]
    exact (congrArg (Option.map List.flatten) happly).trans
      (congrArg some (flatten_wholeLines new))

end

/-- Seven unchanged lines between two changes are enough for two hunks. -/
theorem unifiedDiff_patches_seven :
    let old := "a\n2\n3\n4\n5\n6\n7\n8\nz\n".toList
    let new := "2\n3\n4\n5\n6\n7\n8\ny\nz\n".toList
    ∃ patch, Patch.read? (unifiedDiff old new ['n']) = some patch ∧
      (patch.hunks.map fun h => (h.old, h.new)) = [(⟨0, 4⟩, ⟨0, 3⟩), (⟨5, 4⟩, ⟨4, 5⟩)] ∧
      patch.replay? old = some new := by
  intro old new
  have hold : EndsLine old := by decide
  have hnew : EndsLine new := by decide
  have hname : '\n' ∉ ['n'] := by decide
  have hne : old ≠ new := by decide
  obtain ⟨patch, hread, -, -, -, -, hreplay⟩ := (unifiedDiff_patches hold hnew hname).2 hne
  have hranges : (Patch.read? (unifiedDiff old new ['n'])).map
      (fun patch => patch.hunks.map fun h => (h.old, h.new)) =
        some [(⟨0, 4⟩, ⟨0, 3⟩), (⟨5, 4⟩, ⟨4, 5⟩)] := by decide +kernel
  rw [hread, Option.map_some, Option.some.injEq] at hranges
  exact ⟨patch, hread, hranges, hreplay⟩

end FlowTidy
