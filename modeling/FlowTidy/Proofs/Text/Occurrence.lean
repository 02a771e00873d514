import FlowTidy.Proofs.Text.Basic
import Mathlib.Data.List.Infix

/-!
Occurrences of a mark. A text is cut where the mark is complete for the first time (`cut?_append`,
`not_infix_of_cut?`). A mark that does not hold the separator between two pieces lies in one of
them, so a text that is joined from lines holds a mark without newlines only where a line does.
Where nothing separates two pieces, a run of one character can come about at the seam
(`replicate_infix_append_iff`).
-/

namespace FlowTidy.Text

/-! ## Marks -/

theorem after?_append (mark t : Text) : after? mark (mark ++ t) = some t := by
  induction mark with
  | nil => rfl
  | cons m mark ih => simp [after?, ih]

theorem after?_eq_some_iff {mark t rest : Text} : after? mark t = some rest ↔ t = mark ++ rest := by
  constructor
  · exact eq_append_of_after?
  · rintro rfl
    exact after?_append mark rest

theorem isSome_after?_iff {mark t : Text} : (after? mark t).isSome = true ↔ mark <+: t := by
  simp only [Option.isSome_iff_exists, after?_eq_some_iff]
  constructor
  · rintro ⟨rest, rfl⟩
    exact List.prefix_append mark rest
  · rintro ⟨rest, rfl⟩
    exact ⟨rest, rfl⟩

theorem holds_iff_isInfix {t mark : Text} : holds t mark = true ↔ mark <:+: t := by
  constructor
  · intro h
    obtain ⟨⟨before, rest⟩, hcut⟩ := Option.isSome_iff_exists.mp h
    exact ⟨before, rest, (eq_append_of_cut? hcut).symm⟩
  · intro h
    rw [holds]
    induction t with
    | nil =>
      obtain rfl := List.infix_nil.mp h
      rfl
    | cons c t ih =>
      rw [cut?]
      split
      · rfl
      · next hnone =>
        rw [Option.isSome_map]
        rcases List.infix_cons_iff.mp h with ⟨rest, hrest⟩ | h
        · rw [← hrest, after?_append] at hnone
          contradiction
        · exact ih h

theorem not_infix_of_holds {t mark : Text} (h : holds t mark = false) : ¬ mark <:+: t := by
  intro hm
  rw [holds_iff_isInfix.mpr hm] at h
  contradiction

/-- A text is cut at a mark if the mark is not complete before. -/
theorem cut?_append {mark before rest : Text} (hmark : mark ≠ [])
    (h : ¬ mark <:+: (before ++ mark).dropLast) :
    cut? mark (before ++ mark ++ rest) = some (before, rest) := by
  induction before with
  | nil =>
    obtain ⟨c, mark, rfl⟩ := List.exists_cons_of_ne_nil hmark
    have hafter := after?_append (c :: mark) rest
    rw [List.cons_append] at hafter
    rw [List.nil_append, List.cons_append, cut?, hafter]
  | cons c before ih =>
    have hdrop : (c :: before ++ mark).dropLast = c :: (before ++ mark).dropLast :=
      List.dropLast_cons_of_ne_nil (List.append_ne_nil_of_right_ne_nil _ hmark)
    have hnone : after? mark (c :: (before ++ mark ++ rest)) = none := by
      rw [Option.eq_none_iff_forall_ne_some]
      intro r hr
      have hlength : mark.length ≤ (c :: before ++ mark).dropLast.length := by simp
      have hdropped : (c :: before ++ mark).dropLast <+: c :: (before ++ mark ++ rest) :=
        (List.dropLast_prefix _).trans ⟨rest, by simp⟩
      exact h (List.prefix_of_prefix_length_le ⟨r, (eq_append_of_after? hr).symm⟩ hdropped
        hlength).isInfix
    have hinner : ¬ mark <:+: (before ++ mark).dropLast := fun hin =>
      h (hdrop ▸ List.infix_cons hin)
    rw [List.cons_append, List.cons_append, cut?, hnone]
    simp only [ih hinner, Option.map_some]

theorem not_infix_of_cut? {mark t before rest : Text} (hmark : mark ≠ [])
    (h : cut? mark t = some (before, rest)) : ¬ mark <:+: (before ++ mark).dropLast := by
  induction t generalizing before with
  | nil =>
    have hnil := eq_append_of_cut? h
    simp [hmark] at hnil
  | cons c t ih =>
    rw [cut?] at h
    split at h
    · obtain ⟨rfl, rfl⟩ := Prod.mk.inj (Option.some.inj h)
      intro hin
      have hlength := hin.length_le
      have hpos := List.length_pos_of_ne_nil hmark
      simp at hlength
      omega
    · next hnone =>
      obtain ⟨⟨inner, rest'⟩, hcut, heq⟩ := Option.map_eq_some_iff.mp h
      obtain ⟨rfl, rfl⟩ := Prod.mk.inj heq
      have hdrop : (c :: inner ++ mark).dropLast = c :: (inner ++ mark).dropLast :=
        List.dropLast_cons_of_ne_nil (List.append_ne_nil_of_right_ne_nil _ hmark)
      rw [hdrop, List.infix_cons_iff]
      rintro (hpre | hin)
      · have ht : c :: (inner ++ mark).dropLast <+: c :: t := by
          rw [eq_append_of_cut? hcut, List.prefix_cons_inj]
          exact (List.dropLast_prefix _).trans (List.prefix_append _ _)
        obtain ⟨r, hr⟩ := hpre.trans ht
        rw [after?_eq_some_iff.mpr hr.symm] at hnone
        contradiction
      · exact ih hcut hin

/-! ## Pieces -/

/-- An occurrence that does not hold the separator lies on one side of it. -/
theorem infix_append_cons {w a b : Text} {c : Char} (hc : c ∉ w) :
    w <:+: a ++ c :: b ↔ w <:+: a ∨ w <:+: b := by
  constructor
  · rintro ⟨s, t, h⟩
    rw [List.append_assoc, List.append_eq_append_iff] at h
    rcases h with ⟨x, rfl, hx⟩ | ⟨x, rfl, hx⟩
    · -- the occurrence starts in `a`
      rw [List.append_eq_append_iff] at hx
      rcases hx with ⟨y, rfl, -⟩ | ⟨y, rfl, hy⟩
      · exact .inl ⟨s, y, by simp⟩
      · cases y with
        | nil => exact .inl ⟨s, [], by simp⟩
        | cons d y =>
          have hd : c = d := by simpa using (List.cons.inj hy).1
          exact absurd (by simp [hd]) hc
    · -- it starts after `a`
      cases x with
      | nil =>
        cases w with
        | nil => exact .inl List.nil_infix
        | cons d w =>
          have hd : c = d := by simpa using (List.cons.inj hx).1
          exact absurd (by simp [hd]) hc
      | cons d x =>
        have hb : b = x ++ (w ++ t) := (List.cons.inj hx).2
        exact .inr ⟨x, t, by simp [hb]⟩
  · rintro (h | h)
    · exact h.trans ⟨[], c :: b, by simp⟩
    · exact h.trans ⟨a ++ [c], [], by simp⟩

/-- An occurrence whose last character is not in the text after it does not reach into that text. -/
theorem infix_of_getLast? {w a b : Text} {c : Char} (hw : w.getLast? = some c) (hc : c ∉ b)
    (h : w <:+: a ++ b) : w <:+: a := by
  obtain ⟨s, t, h⟩ := h
  rw [List.append_eq_append_iff] at h
  rcases h with ⟨x, hx, -⟩ | ⟨x, hx, hb⟩
  · exact ⟨s, x, hx.symm⟩
  · cases x using List.reverseRecOn with
    | nil => exact ⟨s, [], by simpa using hx⟩
    | append_singleton x d =>
      have hlast := congrArg List.getLast? hx
      rw [List.getLast?_append, hw, ← List.append_assoc, List.getLast?_concat] at hlast
      obtain rfl : c = d := by simpa using hlast
      exact absurd (by simp [hb]) hc

/-- A text that starts with a piece and a character not in `w` starts with `w` only if the piece
does. -/
theorem isPrefix_of_append_cons {w a b : Text} {c : Char} (hc : c ∉ w) (h : w <+: a ++ c :: b) :
    w <+: a := by
  obtain ⟨t, h⟩ := h
  rw [List.append_eq_append_iff] at h
  rcases h with ⟨x, hx, -⟩ | ⟨x, rfl, hx⟩
  · exact ⟨x, hx.symm⟩
  · cases x with
    | nil => simp
    | cons d x =>
      have hd : c = d := (List.cons.inj hx).1
      exact absurd (by simp [hd]) hc

/-- An occurrence lies in no text that misses one of its characters. -/
theorem not_infix_of_mem {w t : Text} {c : Char} (hw : c ∈ w) (ht : c ∉ t) : ¬ w <:+: t :=
  fun h => ht (h.subset hw)

/-- A mark without the separator is in one of the pieces. -/
theorem infix_joined {w : Text} {c : Char} {pieces : List Text} (hw : w ≠ []) (hc : c ∉ w)
    (h : w <:+: joined [c] pieces) : ∃ piece ∈ pieces, w <:+: piece := by
  induction pieces with
  | nil => exact absurd (List.infix_nil.mp h) hw
  | cons piece pieces ih =>
    cases pieces with
    | nil => exact ⟨piece, by simp, by simpa [joined] using h⟩
    | cons next pieces =>
      have hjoin : joined [c] (piece :: next :: pieces) =
          piece ++ c :: joined [c] (next :: pieces) := by
        simp [joined]
      rw [hjoin, infix_append_cons hc] at h
      rcases h with h | h
      · exact ⟨piece, by simp, h⟩
      · obtain ⟨found, hfound, hin⟩ := ih h
        exact ⟨found, List.mem_cons_of_mem _ hfound, hin⟩

/-- A mark that shares no character with the front of a text is in the rest of it. -/
theorem infix_append_left {w a b : Text} (hw : w ≠ []) (ha : ∀ c ∈ a, c ∉ w)
    (h : w <:+: a ++ b) : w <:+: b := by
  induction a with
  | nil => exact h
  | cons c a ih =>
    have hsplit := (infix_append_cons (a := []) (b := a ++ b) (ha c List.mem_cons_self)).mp h
    rcases hsplit with h | h
    · exact absurd (List.infix_nil.mp h) hw
    · exact ih (fun d hd => ha d (List.mem_cons_of_mem _ hd)) h

theorem infix_append_right {w a b : Text} (hw : w ≠ []) (hb : ∀ c ∈ b, c ∉ w)
    (h : w <:+: a ++ b) : w <:+: a := by
  rw [← List.reverse_infix, List.reverse_append] at h
  rw [← List.reverse_infix]
  refine infix_append_left (by simpa using hw) (fun c hc hm => ?_) h
  exact hb c (List.mem_reverse.mp hc) (List.mem_reverse.mp hm)

/-- What is dropped off the end of a text has no part in an occurrence of other characters. -/
theorem infix_dropEnd_iff {p : Char → Bool} {w t : Text} (hne : w ≠ [])
    (hw : ∀ c ∈ w, p c = false) : w <:+: dropEnd p t ↔ w <:+: t := by
  refine ⟨fun h => h.trans dropEnd_isPrefix.isInfix, fun h => ?_⟩
  rw [← List.rdropWhile_append_rtakeWhile (p := p) (l := t)] at h
  refine infix_append_right hne (fun c hc hm => ?_) h
  have hp := List.mem_rtakeWhile_imp hc
  rw [hw c hm] at hp
  contradiction

/-- Stripping takes away no mark that has no character of the kind. -/
theorem infix_strip_iff {p : Char → Bool} {w t : Text} (hne : w ≠ []) (hw : ∀ c ∈ w, p c = false) :
    w <:+: strip p t ↔ w <:+: t := by
  rw [strip, infix_dropEnd_iff hne hw]
  refine ⟨fun h => h.trans (List.dropWhile_suffix p).isInfix, fun h => ?_⟩
  rw [← List.takeWhile_append_dropWhile (p := p) (l := t)] at h
  refine infix_append_left hne (fun c hc hm => ?_) h
  have hp := mem_takeWhile hc
  rw [hw c hm] at hp
  contradiction

/-- All pieces but the first have the separator before them. -/
theorem joined_cons (sep first : Text) (more : List Text) :
    joined sep (first :: more) = first ++ more.flatMap (sep ++ ·) := by
  induction more generalizing first with
  | nil => simp [joined]
  | cons next more ih =>
    have hnext : joined sep (first :: next :: more) =
        first ++ (sep ++ joined sep (next :: more)) := by simp [joined]
    rw [hnext, ih, List.flatMap_cons, List.append_assoc]

theorem joined_append {sep : Text} {pieces : List Text} (hne : pieces ≠ []) :
    joined sep pieces ++ sep = pieces.flatMap (· ++ sep) := by
  obtain ⟨first, more, rfl⟩ := List.exists_cons_of_ne_nil hne
  rw [joined_cons]
  induction more generalizing first with
  | nil => simp
  | cons next more ih =>
    have hrest := ih next (List.cons_ne_nil next more)
    rw [List.flatMap_cons, List.flatMap_cons, ← hrest]
    simp only [List.append_assoc]

/-- Lines that were joined are found again. -/
theorem lines_joined {pieces : List Text} (hne : pieces ≠ []) (h : ∀ piece ∈ pieces, '\n' ∉ piece) :
    lines (joined ['\n'] pieces) = pieces :=
  List.splitOn_intercalate '\n' h hne

theorem not_mem_of_mem_lines {t line : Text} (h : line ∈ lines t) : '\n' ∉ line := by
  induction t generalizing line with
  | nil =>
    obtain rfl : line = [] := by simpa [lines] using h
    simp
  | cons c t ih =>
    rw [lines, List.splitOn_cons_eq_if_modifyHead] at h
    split at h
    · rcases List.mem_cons.mp h with rfl | h
      · simp
      · exact ih h
    · next hc =>
      cases hs : t.splitOn '\n' with
      | nil => simp [hs] at h
      | cons first rest =>
        rw [hs, List.modifyHead_cons, List.mem_cons] at h
        rcases h with rfl | h
        · have hfirst : '\n' ∉ first := ih (by simp [lines, hs])
          have hne : ¬ '\n' = c := fun e => hc (by simp [← e])
          simp [hfirst, hne]
        · exact ih (by simp [lines, hs, h])

theorem infix_joined_of_mem {sep piece : Text} {pieces : List Text} (h : piece ∈ pieces) :
    piece <:+: joined sep pieces := by
  cases pieces with
  | nil => contradiction
  | cons first more =>
    rw [joined_cons]
    rcases List.mem_cons.mp h with rfl | h
    · exact (List.prefix_append _ _).isInfix
    · have hmore : sep ++ piece <:+: more.flatMap (sep ++ ·) :=
        List.infix_of_mem_flatten (List.mem_map_of_mem h)
      exact (List.suffix_append sep piece).isInfix.trans
        (hmore.trans (List.suffix_append _ _).isInfix)

theorem joined_lines (t : Text) : joined ['\n'] (lines t) = t := List.intercalate_splitOn '\n'

theorem infix_of_mem_lines {t line : Text} (h : line ∈ lines t) : line <:+: t := by
  have hline : line <:+: joined ['\n'] (lines t) := infix_joined_of_mem h
  rwa [joined_lines] at hline

/-- A mark without newlines is on some line. -/
theorem exists_line_of_infix {w t : Text} (hw : w ≠ []) (hnewline : '\n' ∉ w) (h : w <:+: t) :
    ∃ line ∈ lines t, w <:+: line := by
  rw [← joined_lines t] at h
  exact infix_joined hw hnewline h

/-! ## Runs of one character -/

theorem length_takeWhile_of_isPrefix {n : Nat} {c : Char} {t : Text}
    (h : List.replicate n c <+: t) : n ≤ (t.takeWhile (· == c)).length := by
  obtain ⟨rest, rfl⟩ := h
  rw [List.takeWhile_append_of_pos (by simp), List.length_append, List.length_replicate]
  exact Nat.le_add_right _ _

theorem length_rtakeWhile_of_isSuffix {n : Nat} {c : Char} {t : Text}
    (h : List.replicate n c <:+ t) : n ≤ (t.rtakeWhile (· == c)).length := by
  rw [← List.reverse_prefix, List.reverse_replicate] at h
  rw [List.rtakeWhile, List.length_reverse]
  exact length_takeWhile_of_isPrefix h

/-- A run of one character in two pieces put together that is in neither of them lies across the
seam. -/
theorem replicate_infix_append_iff {n : Nat} {c : Char} {a b : Text}
    (ha : ¬ List.replicate n c <:+: a) (hb : ¬ List.replicate n c <:+: b) :
    List.replicate n c <:+: a ++ b ↔
      n ≤ (a.rtakeWhile (· == c)).length + (b.takeWhile (· == c)).length := by
  rw [List.infix_append_iff]
  constructor
  · rintro (h | h | ⟨x, y, hxy, hx, hy⟩)
    · exact absurd h ha
    · exact absurd h hb
    · obtain ⟨hlength, hxc, hyc⟩ := List.replicate_eq_append_iff.mp hxy
      rw [hxc] at hx
      rw [hyc] at hy
      have := length_rtakeWhile_of_isSuffix hx
      have := length_takeWhile_of_isPrefix hy
      omega
  · intro h
    -- the run is all of one end and as much as it takes of the other
    have hx : a.rtakeWhile (· == c) = List.replicate (a.rtakeWhile (· == c)).length c :=
      List.eq_replicate_of_mem fun d hd => by simpa using List.mem_rtakeWhile_imp hd
    have hy : b.takeWhile (· == c) = List.replicate (b.takeWhile (· == c)).length c :=
      List.eq_replicate_of_mem fun d hd => by simpa using mem_takeWhile hd
    have hrun : List.replicate n c <:+:
        a.rtakeWhile (· == c) ++ b.takeWhile (· == c) := by
      rw [hx, hy, List.replicate_append_replicate]
      exact ⟨[], List.replicate _ c, by rw [List.nil_append, List.replicate_append_replicate,
        Nat.add_sub_cancel' h]⟩
    rw [← List.infix_append_iff]
    exact hrun.trans ⟨a.rdropWhile (· == c), b.dropWhile (· == c), by
      rw [← List.append_assoc, List.rdropWhile_append_rtakeWhile, List.append_assoc,
        List.takeWhile_append_dropWhile]⟩

end FlowTidy.Text
