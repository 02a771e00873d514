import FlowTidy.Proofs.Line.Overlap
import FlowTidy.Proofs.Line.Readable

/-!
Dotted lines with their label between the two halves of the arrow. `Inlined` says how such a line is
put together, without a word about how it is read: the label may hold arrows and second halves
itself, and either of its quotes may be missing. The form reads exactly these lines, and every way
to take a line apart gives the same ends and the same trimmed label.

Reading never goes back, so its first stop has to be the right one. No stop comes too early, because
a line ends with a second half, blanks and a word in one way only (`closing_inj`): two tails of a
line differ by blanks before them, which the label loses when it is trimmed.
-/

namespace FlowTidy.LineForm

open Text Scanner

/-! ## Meaning -/

/-- The two spellings of the second half of a dotted line. -/
def IsClosing (c : Text) : Prop := c = ['.', '-'] ∨ c = ['-', '.', '-', '>']

/-- A dotted line from `s` to `t` with `text` between its two halves. -/
structure Inlined (line s text t : Text) : Prop where
  source : s.IsIdent
  target : t.IsIdent
  quote : '"' ∉ text
  label : ¬ text.Blank
  pieces : ∃ b₁ b₂ q₁ q₂ b₃ closing b₄ : Text, b₁.Blank ∧ b₂.Blank ∧ IsQuote q₁ ∧ IsQuote q₂ ∧
    b₃.Blank ∧ IsClosing closing ∧ b₄.Blank ∧
    line = s ++ (b₁ ++ (['-', '.'] ++ (b₂ ++ (q₁ ++ (text ++ (q₂ ++ (b₃ ++
      (closing ++ (b₄ ++ t)))))))))

/-! ## Tails -/

/-- The second half of a dotted line with its target, and blanks before it. -/
structure IsTail (tail t : Text) : Prop where
  target : t.IsIdent
  pieces : ∃ b closing b' : Text, b.Blank ∧ IsClosing closing ∧ b'.Blank ∧
    tail = b ++ (closing ++ (b' ++ t))

theorem IsTail.append {tail target b : Text} (h : IsTail tail target) (hb : b.Blank) :
    IsTail (b ++ tail) target := by
  obtain ⟨htarget, b₁, closing, b₂, hb₁, hclosing, hb₂, rfl⟩ := h
  exact ⟨htarget, b ++ b₁, closing, b₂, List.forall_mem_append.mpr ⟨hb, hb₁⟩, hclosing,
    hb₂, by simp⟩

theorem IsTail.quote {tail target : Text} (h : IsTail tail target) : '"' ∉ tail := by
  obtain ⟨htarget, b₁, closing, b₂, hb₁, hclosing, hb₂, rfl⟩ := h
  have hblank : ∀ {b : Text}, b.Blank → '"' ∉ b := fun hb hm => absurd (hb _ hm) (by decide)
  have hhalf : '"' ∉ closing := by rcases hclosing with rfl | rfl <;> decide
  simp [hblank hb₁, hhalf, hblank hb₂, htarget.not_mem (c := '"') (by decide)]

theorem inlineClosing_append {closing : Text} (h : IsClosing closing) (r : Text) :
    inlineClosing (closing ++ r) = some ((), r) := by
  rcases h with rfl | rfl
  · exact orElse_eq_some_iff.mpr (.inl (mark_append _ r))
  · exact orElse_eq_some_iff.mpr (.inr ⟨rfl, mark_append _ r⟩)

theorem IsClosing.stops {closing : Text} (h : IsClosing closing) (r : Text) :
    Stops isBlank (closing ++ r) := by
  rcases h with rfl | rfl <;> exact stops_cons.mpr rfl

/-- The tails are the texts that are read as the end of a dotted line with its label. -/
theorem whole?_inlineTail_iff {tail target : Text} :
    inlineTail.whole? tail = some target ↔ IsTail tail target := by
  rw [whole?_eq_some_iff]
  constructor
  · intro h
    obtain ⟨b₁, closing, b₂, hb₁, hclosing, hb₂, htarget, rfl⟩ := inlineTail_eq_some h
    exact ⟨htarget, b₁, closing, b₂, hb₁, hclosing, hb₂, by simp⟩
  · rintro ⟨htarget, b₁, closing, b₂, hb₁, hclosing, hb₂, rfl⟩
    exact step (blanks_append hb₁ (hclosing.stops _)) <| step (inlineClosing_append hclosing _) <|
      step (blanks_append hb₂ (by simpa using htarget.stops_blank [])) (ident_self htarget)

/-- A line that ends with a second half, blanks and a word does so in one way only. -/
theorem closing_inj {front front' closing closing' b b' t t' : Text} (hclosing : IsClosing closing)
    (hclosing' : IsClosing closing') (hb : b.Blank) (hb' : b'.Blank) (ht : t.IsIdent)
    (ht' : t'.IsIdent) (h : front ++ (closing ++ (b ++ t)) = front' ++ (closing' ++ (b' ++ t'))) :
    front = front' := by
  -- read from the back, the word and the blanks are past when the second half is reached
  have hback : ∀ front {closing b t : Text}, IsClosing closing → b.Blank → t.IsIdent →
      pastWord (front ++ (closing ++ (b ++ t))).reverse = closing.reverse ++ front.reverse := by
    intro front closing b t hclosing hb ht
    have hword : ∀ c ∈ t.reverse, isWord c = true := fun c hc => ht.word c (List.mem_reverse.mp hc)
    have hblank : Blank b.reverse := fun c hc => hb c (List.mem_reverse.mp hc)
    simp only [List.reverse_append, List.append_assoc]
    rcases hclosing with rfl | rfl
    · exact pastWord_append_cons hword hblank (by decide) (by decide)
    · exact pastWord_append_cons hword hblank (by decide) (by decide)
  have hhalves := hback front hclosing hb ht
  rw [h, hback front' hclosing' hb' ht'] at hhalves
  rcases hclosing with rfl | rfl <;> rcases hclosing' with rfl | rfl
  · simpa using hhalves.symm
  · simp at hhalves
  · simp at hhalves
  · simpa using hhalves.symm

/-- Tails that end a line differ by blanks. -/
theorem IsTail.blank_of_append {s tail t t' : Text} (h : IsTail tail t)
    (h' : IsTail (s ++ tail) t') : s.Blank := by
  obtain ⟨ht, b₁, closing, b₂, hb₁, hclosing, hb₂, rfl⟩ := h
  obtain ⟨ht', b₁', closing', b₂', hb₁', hclosing', hb₂', heq⟩ := h'
  rw [← List.append_assoc] at heq
  have hfront : s ++ b₁ = b₁' := closing_inj hclosing hclosing' hb₂ hb₂' ht ht' heq
  exact fun c hc => hb₁' c (hfront ▸ List.mem_append_left _ hc)

/-! ## Lines -/

/-- Blanks and a quote before the label are skipped. -/
theorem exists_label_start {b q text : Text} (hb : b.Blank) (hq : IsQuote q) (hquote : '"' ∉ text)
    (hlabel : ¬ text.Blank) (r : Text) : ∃ u x, blanks (b ++ (q ++ (text ++ r))) = some ((), u) ∧
      quote? u = some ((), x ++ r) ∧ '"' ∉ x ∧ trim x = trim text := by
  rcases hq with rfl | rfl
  · have hsplit : text.takeWhile isBlank ++ text.dropWhile isBlank = text :=
      List.takeWhile_append_dropWhile
    have hfront : Blank (text.takeWhile isBlank) := fun _ => mem_takeWhile
    have hx : '"' ∉ text.dropWhile isBlank := fun hm => hquote ((List.dropWhile_suffix _).subset hm)
    have hne : text.dropWhile isBlank ≠ [] := fun hnil => hlabel (List.dropWhile_eq_nil_iff.mp hnil)
    refine ⟨text.dropWhile isBlank ++ r, text.dropWhile isBlank, ?_, quote?_of_head ?_, hx, ?_⟩
    · have hblanks := blanks_append (List.forall_mem_append.mpr ⟨hb, hfront⟩)
        ((stops_dropWhile isBlank text).append (t := r) hne)
      rwa [List.append_assoc, ← List.append_assoc (text.takeWhile isBlank), hsplit] at hblanks
    · rw [List.head?_append_of_ne_nil _ hne]
      exact fun hhead => hx (List.mem_of_head? hhead)
    · rw [trim_eq_strip, trim_eq_strip, ← strip_append_left hfront, hsplit]
  · exact ⟨_, text, blanks_append hb (stops_cons.mpr rfl), quote?_cons _, hquote, rfl⟩

/-- The label goes up to a quote or to the blanks before the second half. -/
theorem exists_label_stop {x q tail t : Text} (hx : '"' ∉ x) (hq : IsQuote q)
    (htail : IsTail tail t) : ∃ text u tail',
    upTo (· != '"') (fun t => (inlineTail.whole? t).isSome) (x ++ (q ++ tail)) = some (text, u) ∧
      quote? u = some ((), tail') ∧ IsTail tail' t ∧ trim text = trim x := by
  have hno : ∀ {u : Text}, (∀ t', ¬ IsTail u t') → (inlineTail.whole? u).isSome = false := by
    intro u hu
    rw [Option.isSome_eq_false_iff, Option.isNone_iff_eq_none, Option.eq_none_iff_forall_ne_some]
    exact fun t' ht' => hu t' (whole?_inlineTail_iff.mp ht')
  rcases hq with rfl | rfl
  · -- without a quote the blanks at the end of the label count as blanks before the second half
    have hsplit : trimEnd x ++ x.rtakeWhile isBlank = x := List.rdropWhile_append_rtakeWhile
    have hback : Blank (x.rtakeWhile isBlank) := fun _ => List.mem_rtakeWhile_imp
    have htail' : IsTail (x.rtakeWhile isBlank ++ tail) t := htail.append hback
    refine ⟨trimEnd x, x.rtakeWhile isBlank ++ tail, _, ?_, quote?_of_head ?_, htail', ?_⟩
    · have hfront : '"' ∉ trimEnd x := fun hm => hx (dropEnd_isPrefix.subset hm)
      have hstop : ∀ s, s <:+ trimEnd x → s ≠ [] →
          (inlineTail.whole? (s ++ (x.rtakeWhile isBlank ++ tail))).isSome = false := by
        intro s hs hne
        refine hno fun t' ht' => ?_
        obtain ⟨front, hs⟩ := hs
        have hlast : s.getLast hne ∈ (trimEnd x).getLast? := by
          rw [← hs, List.getLast?_append_of_ne_nil _ hne]
          exact List.getLast?_eq_getLast_of_ne_nil hne
        have hblank := htail'.blank_of_append ht' _ (List.getLast_mem hne)
        rw [getLast?_dropEnd hlast] at hblank
        contradiction
      have hsome : (inlineTail.whole? (x.rtakeWhile isBlank ++ tail)).isSome = true :=
        Option.isSome_iff_exists.mpr ⟨t, whole?_inlineTail_iff.mpr htail'⟩
      have hread : splitUpTo (· != '"') (fun t => (inlineTail.whole? t).isSome)
          (trimEnd x ++ (x.rtakeWhile isBlank ++ tail)) =
            (trimEnd x, x.rtakeWhile isBlank ++ tail) :=
        splitUpTo_append (bne_of_not_mem hfront) hstop (.inr hsome)
      rw [← List.append_assoc, hsplit] at hread
      exact congrArg some hread
    · exact fun hhead => htail'.quote (List.mem_of_head? hhead)
    · rw [trim_eq_strip, trim_eq_strip, ← strip_append_right hback, hsplit]
  · -- no tail starts before the quote, because a tail holds none
    refine ⟨x, '"' :: tail, tail, congrArg some ?_, quote?_cons _, htail, rfl⟩
    refine splitUpTo_append (bne_of_not_mem hx) (fun s _ _ => hno fun t' ht' => ?_)
      (.inl (stops_cons.mpr rfl))
    exact ht'.quote (by simp)

/-- A line that is put together so is read so. -/
theorem Inlined.recognize {line s text t : Text} (h : Inlined line s text t) :
    recognize .dottedInline line = some (.connection ⟨s, t, .dottedInline, some (trim text)⟩) := by
  obtain ⟨hs, ht, hquote, hlabel, b₁, b₂, q₁, q₂, b₃, closing, b₄, hb₁, hb₂, hq₁, hq₂, hb₃,
    hclosing, hb₄, rfl⟩ := h
  obtain ⟨u, x, hblanks, hstart, hx, htrim⟩ := exists_label_start hb₂ hq₁ hquote hlabel
    (q₂ ++ (b₃ ++ (closing ++ (b₄ ++ t))))
  obtain ⟨text', u', tail, hupTo, hstop, htail, htrim'⟩ :=
    exists_label_stop hx hq₂ ⟨ht, b₃, closing, b₄, hb₃, hclosing, hb₄, rfl⟩
  have hlabel' : label? text' = some (trim text) := by
    rw [← htrim'.trans htrim]
    refine label?_of_not_mem ?_ ?_ <;> rw [htrim'.trans htrim]
    · exact fun hm => hquote ((trim_isInfix text).subset hm)
    · exact fun hnil => hlabel (trim_eq_nil_iff.mp hnil)
  have hword : ∀ r, Stops isWord (b₁ ++ (['-', '.'] ++ r)) := fun r =>
    stops_word_append hb₁ (stops_cons.mpr rfl)
  refine whole?_eq_some_iff.mpr <| step (ident_append hs (hword _)) <|
    step (blanks_append hb₁ (stops_cons.mpr rfl)) <| step (mark_append ['-', '.'] _) <|
    step hblanks <| step hstart <| step hupTo <| step hstop <|
    step (whole?_eq_some_iff.mp (whole?_inlineTail_iff.mpr htail)) ?_
  rw [hlabel']
  rfl

/-- A dotted line that carries its label has the pieces of one. -/
theorem inlined_of_recognize {line : Text} {e : Element}
    (h : LineForm.recognize .dottedInline line = some e) : ∃ s text t, Inlined line s text t := by
  cases Spelled.of_recognize h with
  | @dottedInline s b₁ b₂ q₁ text q₂ b₃ closing b₄ t label hs hb₁ hb₂ hq₁ hquote hlabel hq₂ hb₃
      hclosing hb₄ ht =>
    refine ⟨s, text, t, hs, ht, hquote, fun hblank => ?_, b₁, b₂, q₁, q₂, b₃, closing, b₄, hb₁,
      hb₂, hq₁, hq₂, hb₃, hclosing, hb₄, rfl⟩
    obtain ⟨rfl, hne⟩ := label?_eq_some_iff.mp hlabel
    rw [trim_eq_nil_iff.mpr hblank] at hne
    exact hne rfl

/-- The form reads exactly the lines that are put together so, and takes each of them apart in the
one way there is. -/
theorem recognize_dottedInline_unambiguous (line : Text) :
    ((LineForm.recognize .dottedInline line).isSome = true ↔ ∃ s text t, Inlined line s text t) ∧
      ∀ s text t, Inlined line s text t →
        LineForm.recognize .dottedInline line =
            some (.connection ⟨s, t, .dottedInline, some (trim text)⟩) ∧
          ∀ s' text' t', Inlined line s' text' t' → s' = s ∧ t' = t ∧ trim text' = trim text := by
  refine ⟨⟨fun h => ?_, fun h => ?_⟩, fun s text t h => ⟨h.recognize, fun s' text' t' h' => ?_⟩⟩
  · obtain ⟨e, he⟩ := Option.isSome_iff_exists.mp h
    exact inlined_of_recognize he
  · obtain ⟨s, text, t, h⟩ := h
    exact Option.isSome_iff_exists.mpr ⟨_, h.recognize⟩
  · have hsame := h'.recognize.symm.trans h.recognize
    simp only [Option.some.injEq, Element.connection.injEq, Connection.mk.injEq] at hsame
    obtain ⟨hs, ht, -, htext⟩ := hsame
    exact ⟨hs, ht, htext⟩

example : LineForm.recognize .dottedInline "A -.\" x .- y -.->B".toList =
    some (.connection ⟨['A'], ['B'], .dottedInline, some "x .- y".toList⟩) := by
  decide +kernel

end FlowTidy.LineForm
