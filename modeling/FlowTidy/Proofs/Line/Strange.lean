import FlowTidy.Proofs.Line.Frame

/-!
Strange marks on lines. The frame of a line is made of words, blanks and the marks of the grammar,
both on a line as it is read and on a canonical line. So a mark that shares no character with frames
is on a line only if it is in the free text of the element there (`Element.infix_freeText_ofLine`),
and it stays when the element is written (`Element.infix_render`).
-/

namespace FlowTidy

open Text LineForm

/-- The characters that lines have outside of free text. -/
def Text.isFrame (c : Char) : Bool := isPlain c || isBlank c

/-- A text of which no character can be part of the frame of a line. -/
structure Text.Strange (w : Text) : Prop where
  ne_nil : w ≠ []
  strange : ∀ c ∈ w, isFrame c = false

theorem isFrame_of_isPlain {c : Char} (h : isPlain c = true) : isFrame c = true := by
  rw [isFrame, h, Bool.true_or]

theorem isFrame_of_isBlank {c : Char} (h : isBlank c = true) : isFrame c = true := by
  rw [isFrame, h, Bool.or_true]

theorem isFrame_of_isListed {c : Char} (h : isListed c = true) : isFrame c = true := by
  simp only [isListed, Bool.or_eq_true, beq_iff_eq] at h
  rcases h with ((h | h) | rfl) | rfl
  · exact isFrame_of_isPlain (isPlain_of_isWord h)
  · exact isFrame_of_isBlank h
  · rfl
  · rfl

/-! ## Frames -/

/-- A text that can be part of the frame of a line. -/
def Text.IsFrame (t : Text) : Prop := ∀ c ∈ t, isFrame c = true

instance (t : Text) : Decidable t.IsFrame := decidableForallMem _ t

theorem Text.IsFrame.append {s t : Text} (hs : s.IsFrame) (ht : t.IsFrame) : (s ++ t).IsFrame :=
  List.forall_mem_append.mpr ⟨hs, ht⟩

theorem Text.IsFrame.cons {c : Char} {t : Text} (hc : isFrame c = true) (ht : t.IsFrame) :
    IsFrame (c :: t) := List.forall_mem_cons.mpr ⟨hc, ht⟩

theorem Text.IsIdent.frame {id : Text} (h : id.IsIdent) : IsFrame id :=
  fun c hc => isFrame_of_isPlain (h.plain c hc)

theorem Text.Blank.frame {b : Text} (h : b.Blank) : IsFrame b :=
  fun c hc => isFrame_of_isBlank (h c hc)

theorem isFrame_of_sameLetters {w k : Text} (h : sameLetters w k = true)
    (hk : ∀ c ∈ k, isWord c = true) : IsFrame w := fun c hc =>
  isFrame_of_isPlain (isPlain_of_isWord (Scanner.isWord_of_sameLetters h hk c hc))

theorem isFrame_glyph (a : Arrow) : IsFrame a.glyph := by cases a <;> decide

theorem LineForm.IsQuote.frame {q : Text} (h : IsQuote q) : IsFrame q := by
  rcases h with rfl | rfl <;> decide

namespace Text.Strange

variable {w : Text} (hw : w.Strange)
include hw

theorem not_mem {c : Char} (hc : isFrame c = true) : c ∉ w := fun hm => by
  rw [hw.strange c hm] at hc
  contradiction

theorem foreign : w.Foreign := by
  have hplain : ∀ c ∈ w, isPlain c = false := fun c hc =>
    (Bool.or_eq_false_iff.mp (hw.strange c hc)).1
  obtain ⟨c, hc⟩ := List.exists_mem_of_ne_nil w hw.ne_nil
  refine ⟨fun c hc => ?_, c, hc, hplain c hc⟩
  have hc := hplain c hc
  rw [← Bool.not_eq_true] at hc ⊢
  exact mt isPlain_of_isSeparator hc

theorem not_infix {t : Text} (ht : IsFrame t) : ¬ w <:+: t := by
  obtain ⟨c, hc⟩ := List.exists_mem_of_ne_nil w hw.ne_nil
  exact not_infix_of_mem hc fun hm => hw.not_mem (ht c hm) hc

/-- A strange mark that follows a frame is in what follows. -/
theorem back {a t : Text} (ha : IsFrame a) (h : w <:+: a ++ t) : w <:+: t :=
  infix_append_left hw.ne_nil (fun c hc => hw.not_mem (ha c hc)) h

/-- A strange mark that a frame follows is in what precedes it. -/
theorem front {t b : Text} (hb : IsFrame b) (h : w <:+: t ++ b) : w <:+: t :=
  infix_append_right hw.ne_nil (fun c hc => hw.not_mem (hb c hc)) h

theorem infix_trim {t : Text} : w <:+: trim t ↔ w <:+: t :=
  infix_strip_iff hw.ne_nil fun c hc => (Bool.or_eq_false_iff.mp (hw.strange c hc)).2

theorem infix_unquote {t : Text} : w <:+: unquote t ↔ w <:+: t := by
  refine infix_strip_iff hw.ne_nil fun c hc => ?_
  rw [beq_eq_false_iff_ne]
  rintro rfl
  exact hw.not_mem rfl hc

theorem infix_dropSemicolons {t : Text} : w <:+: dropEnd (· == ';') t ↔ w <:+: t := by
  refine infix_dropEnd_iff hw.ne_nil fun c hc => ?_
  rw [beq_eq_false_iff_ne]
  rintro rfl
  exact hw.not_mem rfl hc

end Text.Strange

/-! ## Lines that are read -/

namespace LineForm

section
variable {w : Text} (hw : w.Strange)
include hw

/-- A label is left out only if it is made of quotes and blanks. -/
theorem infix_label? {t : Text} (h : w <:+: t) : w <:+: (label? t).getD [] := by
  rw [label?]
  split
  · next hnil =>
    rw [← hw.infix_trim, ← hw.infix_unquote, ← hw.infix_trim, hnil] at h
    exact absurd (List.infix_nil.mp h) hw.ne_nil
  · exact hw.infix_trim.mpr h

theorem infix_trimEnd {t : Text} : w <:+: trimEnd t ↔ w <:+: t :=
  infix_dropEnd_iff hw.ne_nil fun c hc => (Bool.or_eq_false_iff.mp (hw.strange c hc)).2

theorem infix_classProperties {t : Text} (h : w <:+: t) : w <:+: classProperties t := by
  rwa [classProperties, infix_trimEnd hw, hw.infix_dropSemicolons, infix_trimEnd hw]

theorem Enclosed.infix_text {shape : Shape} {id text line : Text} (h : Enclosed shape id text line)
    (hin : w <:+: line) : w <:+: text := by
  obtain ⟨hid, b₁, b₂, q₁, q₂, b₃, hb₁, hb₂, hq₁, hq₂, hb₃, rfl⟩ := h
  have hopening : IsFrame shape.opening := by cases shape <;> decide
  have hclosing : IsFrame shape.closing := by cases shape <;> decide
  have hin := hw.back hopening (hw.back hb₁.frame (hw.back hid.frame hin))
  have hin := hw.back hq₁.frame (hw.back hb₂.frame hin)
  exact hw.front (hq₂.frame.append (hb₃.frame.append hclosing)) hin

/-- A strange text on a line is in the free text of the element there. -/
theorem Spelled.infix_freeText {form : LineForm} {e : Element} {line : Text}
    (h : Spelled form e line) (hin : w <:+: line) : w <:+: e.freeText := by
  cases h with
  | @declaration k d _ _ v _ hk hb₁ hv hb₂ =>
    have hkind := isFrame_of_sameLetters hk (by cases k <;> decide)
    have hdirection : IsFrame v := by
      rcases hv with ⟨rfl, -⟩ | hd
      · exact nofun
      · exact isFrame_of_sameLetters hd (by cases d <;> decide)
    exact absurd hin (hw.not_infix (hkind.append (hb₁.frame.append (hdirection.append hb₂.frame))))
  | comment hb₁ => exact hw.back hb₁.frame (hw.back (a := ['%', '%']) (by decide) hin)
  | subgraphStart hk _ hb₁ hid hb₂ =>
    have hkeyword := isFrame_of_sameLetters hk (by decide)
    exact absurd hin
      (hw.not_infix (hkeyword.append (hb₁.frame.append (hid.frame.append hb₂.frame))))
  | @labeledSubgraphStart _ _ _ _ inner text _ hk _ hb₁ hid hb₂ hinner hb₃ =>
    have hkeyword := isFrame_of_sameLetters hk (by decide)
    have hin := hw.back hid.frame (hw.back hb₁.frame (hw.back hkeyword hin))
    have hin := hw.back (a := ['[']) (by decide) (hw.back hb₂.frame hin)
    have hin := hw.front (.cons (c := ']') (by decide) hb₃.frame) hin
    rw [Element.freeText]
    refine infix_label? hw ?_
    rcases hinner with ⟨rfl, -⟩ | ⟨rfl, -⟩
    · exact hw.front (b := ['"']) (by decide) (hw.back (a := ['"']) (by decide) hin)
    · exact hin
  | subgraphEnd hk => exact absurd hin (hw.not_infix (isFrame_of_sameLetters hk (by decide)))
  | classDef hk _ hb₁ hname _ hb₂ =>
    have hkeyword := isFrame_of_sameLetters hk (by decide)
    have hin := hw.back hname.frame (hw.back hb₁.frame (hw.back hkeyword hin))
    exact infix_classProperties hw (hw.back hb₂.frame hin)
  | classUse hk _ hb₁ hid _ _ hr =>
    have hkeyword := isFrame_of_sameLetters hk (by decide)
    exact absurd hin (hw.not_infix (hkeyword.append (hb₁.frame.append (hid.frame.append
      fun c hc => isFrame_of_isListed (hr c hc)))))
  | linkStyle hk _ hb₁ hfirst _ _ _ hb₂ _ _ hr =>
    have hkeyword := isFrame_of_sameLetters hk (by decide)
    have hin := hw.back hfirst.frame (hw.back hb₁.frame (hw.back hkeyword hin))
    have hin := hw.back (fun c hc => isFrame_of_isListed (hr c hc)) hin
    exact hw.infix_trim.mpr (hw.back hb₂.frame hin)
  | @labeledPipe _ _ _ _ _ _ _ _ a hs hb₁ _ hb₂ hq₁ _ _ hq₂ hb₃ ht =>
    have hin := hw.back (isFrame_glyph a) (hw.back hb₁.frame (hw.back hs.frame hin))
    have hin := hw.back hq₁.frame (hw.back (a := ['|']) (by decide) (hw.back hb₂.frame hin))
    have hend : IsFrame ('|' :: _) := .cons (by decide) (hb₃.frame.append ht.frame)
    rw [Element.freeText_connection]
    exact infix_label? hw (hw.front (hq₂.frame.append hend) hin)
  | @dottedInline _ _ _ _ text _ _ closing _ _ _ hs hb₁ hb₂ hq₁ _ hlabel hq₂ hb₃ hclosing hb₄ ht =>
    have hend : IsFrame closing := by
      rcases hclosing with rfl | rfl
      · exact (by decide : IsFrame ['.', '-'])
      · exact (by decide : IsFrame ['-', '.', '-', '>'])
    have hin := hw.back (a := ['-', '.']) (by decide) (hw.back hb₁.frame (hw.back hs.frame hin))
    have hin := hw.back hq₁.frame (hw.back hb₂.frame hin)
    have hin := hw.front (hq₂.frame.append (hb₃.frame.append (hend.append
      (hb₄.frame.append ht.frame)))) hin
    rw [Element.freeText_connection, ← hlabel]
    exact infix_label? hw hin
  | @unlabeled _ _ _ _ a hs hb₁ _ hb₂ ht =>
    exact absurd hin (hw.not_infix (hs.frame.append (hb₁.frame.append ((isFrame_glyph a).append
      (hb₂.frame.append ht.frame)))))
  | stadium h | forwardTrapezoid h | reverseTrapezoid h | unquotedRectangle h =>
    rw [Element.freeText_node]
    exact infix_label? hw (h.infix_text hw hin)
  | @quotedRectangle id text _ h =>
    have htext := h.infix_text hw hin
    rw [Element.freeText_node]
    split
    · next hnil => rwa [hnil] at htext
    · exact htext
  | bareNode hid => exact absurd hin (hw.not_infix hid.frame)

end

end LineForm

namespace Element

variable {w : Text} (hw : w.Strange)
include hw

/-- A strange mark on a line is in the free text of its element. -/
theorem infix_freeText_ofLine {line : Text} (h : w <:+: line) : w <:+: (ofLine line).freeText := by
  rw [ofLine]
  split
  · next hform => exact (Spelled.of_recognize (recognize_of_classify? hform)).infix_freeText hw h
  · exact h

/-! ## Lines that are written -/

/-- A strange mark in the free text of an element is on its canonical line. -/
theorem infix_render {e : Element} (h : w <:+: e.freeText) : w <:+: e.render := by
  have hne : ∀ {t : Text}, w <:+: t → t ≠ [] := by
    rintro _ h rfl
    exact hw.ne_nil (List.infix_nil.mp h)
  cases e with
  | declaration | subgraphEnd | classUse => exact absurd rfl (hne h)
  | comment text =>
    cases text with
    | nil => exact absurd rfl (hne h)
    | cons c text => exact List.IsInfix.trans h (List.suffix_append ['%', '%', ' '] _).isInfix
  | node n =>
    obtain ⟨id, label, shape⟩ := n
    cases label with
    | none => exact absurd rfl (hne h)
    | some l =>
      have hlabel : w <:+: unquote l := hw.infix_unquote.mpr h
      refine hlabel.trans ⟨id ++ shape.opening ++ ['"'], '"' :: shape.closing, ?_⟩
      simp [render, Node.render]
  | connection c =>
    obtain ⟨source, target, arrow, label⟩ := c
    cases label with
    | none => exact absurd rfl (hne h)
    | some l =>
      have hlabel : w <:+: l := h
      cases arrow with
      | dottedInline =>
        exact hlabel.trans
          ⟨_, _, (List.append_assoc (_ ++ l) ['"', ' ', '.', '-', ' '] target).symm⟩
      | _ => exact hlabel.trans ⟨_, _, (List.append_assoc (_ ++ l) ['"', '|', ' '] target).symm⟩
  | subgraphStart id label =>
    cases label with
    | none => exact absurd rfl (hne h)
    | some l =>
      have hlabel : w <:+: unquote l := hw.infix_unquote.mpr h
      refine hlabel.trans ⟨['s', 'u', 'b', 'g', 'r', 'a', 'p', 'h', ' '] ++ id ++ ['[', '"'],
        ['"', ']'], ?_⟩
      simp [render]
  | classDef name properties =>
    have hproperties : w <:+: dropEnd (· == ';') properties := hw.infix_dropSemicolons.mpr h
    refine hproperties.trans ⟨['c', 'l', 'a', 's', 's', 'D', 'e', 'f', ' '] ++ name ++ [' '],
      [';'], ?_⟩
    simp [render, renderClassDef]
  | linkStyle positions properties =>
    have hproperties : w <:+: properties := h
    cases positions with
    | nil => exact hproperties.trans (List.suffix_append _ _).isInfix
    | cons i is =>
      have hsuffix : properties <:+ (linkStyle (i :: is) properties).render :=
        (List.suffix_cons ' ' properties).trans (List.suffix_append _ _)
      exact hproperties.trans hsuffix.isInfix
  | unrecognized text => exact hw.infix_trim.mpr h

end Element

end FlowTidy
