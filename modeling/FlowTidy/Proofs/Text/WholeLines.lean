import FlowTidy.Text.Basic

/-!
Lines with the newlines that end them. Put together they are the text again, and lines that were put
together are found again.
-/

namespace FlowTidy.Text

/-- A text with one newline, at its end. -/
def IsLine (t : Text) : Prop := ∃ w : Text, '\n' ∉ w ∧ t = w ++ ['\n']

/-- A text that is empty or ends with a newline. -/
def EndsLine (t : Text) : Prop := t = [] ∨ t.getLast? = some '\n'

instance (t : Text) : Decidable t.EndsLine := inferInstanceAs (Decidable (_ ∨ _))

theorem IsLine.cons {c : Char} {t : Text} (h : t.IsLine) (hc : c ≠ '\n') : IsLine (c :: t) := by
  obtain ⟨w, hw, rfl⟩ := h
  refine ⟨c :: w, ?_, rfl⟩
  rw [List.mem_cons, not_or]
  exact ⟨hc.symm, hw⟩

theorem IsLine.append {s t : Text} (h : t.IsLine) (hs : '\n' ∉ s) : IsLine (s ++ t) := by
  induction s with
  | nil => exact h
  | cons c s ih =>
    rw [List.mem_cons, not_or] at hs
    exact (ih hs.2).cons (Ne.symm hs.1)

theorem IsLine.withNewline {t : Text} (h : t.IsLine) : withNewline t = t := by
  obtain ⟨w, -, rfl⟩ := h
  rw [Text.withNewline, List.getLast?_concat, if_pos rfl]

theorem wholeLines_eq_nil_iff {t : Text} : wholeLines t = [] ↔ t = [] := by
  cases t with
  | nil => simp [wholeLines]
  | cons c t =>
    rw [wholeLines]
    split
    · simp
    · split <;> simp

theorem flatten_wholeLines (t : Text) : (wholeLines t).flatten = t := by
  fun_induction wholeLines t with
  | case1 => rfl
  | case2 t ih => rw [List.flatten_cons, ih, List.singleton_append]
  | case3 c t _ hnil ih =>
    rw [wholeLines_eq_nil_iff.mp hnil]
    rfl
  | case4 c t _ line lines hcons ih =>
    rw [hcons, List.flatten_cons] at ih
    rw [List.flatten_cons, List.cons_append, ih]

/-- Texts with the same lines are the same. -/
theorem wholeLines_inj {s t : Text} : wholeLines s = wholeLines t ↔ s = t := by
  constructor
  · intro h
    rw [← flatten_wholeLines s, h, flatten_wholeLines]
  · rintro rfl
    rfl

theorem wholeLines_append {t : Text} (h : t.IsLine) (rest : Text) :
    wholeLines (t ++ rest) = t :: wholeLines rest := by
  obtain ⟨w, hw, rfl⟩ := h
  induction w with
  | nil => simp [wholeLines]
  | cons c w ih =>
    rw [List.mem_cons, not_or] at hw
    rw [List.cons_append, List.cons_append, wholeLines, if_neg (Ne.symm hw.1), ih hw.2]

/-- Lines that were put together are found again. -/
theorem wholeLines_flatten {lines : List Text} (h : ∀ line ∈ lines, line.IsLine) :
    wholeLines lines.flatten = lines := by
  induction lines with
  | nil => rfl
  | cons line lines ih =>
    rw [List.forall_mem_cons] at h
    rw [List.flatten_cons, wholeLines_append h.1, ih h.2]

/-- All lines of a text that ends with a newline end so. -/
theorem isLine_of_mem_wholeLines {t line : Text} (ht : t.EndsLine) (h : line ∈ wholeLines t) :
    line.IsLine := by
  fun_induction wholeLines t generalizing line with
  | case1 => contradiction
  | case2 t ih =>
    rcases List.mem_cons.mp h with rfl | h
    · exact ⟨[], by simp, rfl⟩
    · refine ih ?_ h
      cases t with
      | nil => exact .inl rfl
      | cons d t => exact .inr (by simpa [EndsLine] using ht)
  | case3 c t hc hnil =>
    -- the only line has no newline
    rw [wholeLines_eq_nil_iff.mp hnil] at ht
    simp [EndsLine, hc] at ht
  | case4 c t hc first lines hcons ih =>
    have hne : t ≠ [] := fun hnil => by simp [wholeLines_eq_nil_iff.mpr hnil] at hcons
    have hrest : EndsLine t := by
      rcases ht with ht | ht
      · contradiction
      · exact .inr (by rwa [List.getLast?_cons_of_ne_nil hne] at ht)
    rw [hcons] at ih
    rcases List.mem_cons.mp h with rfl | h
    · exact (ih hrest List.mem_cons_self).cons hc
    · exact ih hrest (List.mem_cons_of_mem _ h)

/-- The lines of a text have no newlines but at their ends. -/
theorem isLine_withNewline {t line : Text} (h : line ∈ wholeLines t) :
    (withNewline line).IsLine := by
  have hline : ∃ w : Text, '\n' ∉ w ∧ (line = w ∨ line = w ++ ['\n']) := by
    fun_induction wholeLines t generalizing line with
    | case1 => contradiction
    | case2 t ih =>
      rcases List.mem_cons.mp h with rfl | h
      · exact ⟨[], by simp, .inr rfl⟩
      · exact ih h
    | case3 c t hc hnil =>
      obtain rfl := List.mem_singleton.mp h
      exact ⟨[c], by simpa using Ne.symm hc, .inl rfl⟩
    | case4 c t hc first lines hcons ih =>
      rw [hcons] at ih
      rcases List.mem_cons.mp h with rfl | h
      · obtain ⟨w, hw, hfirst⟩ := ih List.mem_cons_self
        refine ⟨c :: w, ?_, hfirst.imp (congrArg (c :: ·)) (congrArg (c :: ·))⟩
        rw [List.mem_cons, not_or]
        exact ⟨Ne.symm hc, hw⟩
      · exact ih (List.mem_cons_of_mem _ h)
  obtain ⟨w, hw, rfl | rfl⟩ := hline
  · have hlast : line.getLast? ≠ some '\n' := fun hlast => hw (List.mem_of_getLast? hlast)
    exact ⟨line, hw, if_neg hlast⟩
  · rw [IsLine.withNewline ⟨w, hw, rfl⟩]
    exact ⟨w, hw, rfl⟩

end FlowTidy.Text
