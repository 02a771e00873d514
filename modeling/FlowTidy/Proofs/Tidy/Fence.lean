import FlowTidy.Document.Report
import FlowTidy.Proofs.Document.Blocks
import FlowTidy.Proofs.Line.Strange
import FlowTidy.Proofs.Tidy.Preservation

/-!
When a tidied diagram closes the fence that it stands in. Lines keep their backquotes, in one piece
each, from reading to writing, so three in a row are in a canonical text only if they are on a line
of the body (`closingFence_format_iff`). But the init block is taken out before lines are read, and
backquotes on its two sides come together there.
-/

namespace FlowTidy

open Text

theorem strange_closingFence : closingFence.Strange := ⟨closingFence_ne_nil, by decide⟩

section
variable {style : Style} (hstyle : style.Standard)
include hstyle

theorem mem_written_of_mem {es : List Element} {e : Element} (he : e ∈ es)
    (hcontent : style.enforce = true → e.isContent = true) : e ∈ style.written es := by
  cases henforce : style.enforce with
  | false => rwa [written_of_not_enforce henforce]
  | true =>
    have hmem : e ∈ es.filter Element.isContent := List.mem_filter.mpr ⟨he, hcontent henforce⟩
    rw [← content_written hstyle] at hmem
    exact List.mem_of_mem_filter hmem

/-- A canonical text holds a closing fence just if a line does that is not replaced. -/
theorem closingFence_format_iff (t : Text) :
    closingFence <:+: (Diagram.parse t).format style ↔
      ∃ line ∈ lines (InitSettings.extract t).2, closingFence <:+: line ∧
        (style.enforce = true → (Element.ofLine (trim line)).isContent = true) := by
  rw [format_eq_sheet hstyle]
  constructor
  · intro h
    have hneat : ∀ e ∈ (Diagram.parse t).elements, e.Neat := fun e he =>
      (readFrom_of_mem_parse he).readable.neat
    obtain ⟨e, he, hfree, hcontent⟩ := exists_of_infix_written hstyle strange_closingFence.foreign
      (by decide) (c := '`') (by decide) (fun h => h.free.2.2) hneat h
    obtain ⟨⟨line, hline, -, rfl⟩, -⟩ := Diagram.mem_elements_parse_iff.mp he
    exact ⟨line, hline, hfree.trans ((Element.freeText_ofLine _).trans (trim_isInfix line)),
      hcontent⟩
  · rintro ⟨line, hline, hin, hcontent⟩
    have htrim := strange_closingFence.infix_trim.mpr hin
    have hfree := Element.infix_freeText_ofLine strange_closingFence htrim
    have hne : trim line ≠ [] := fun hnil => by
      rw [hnil] at htrim
      exact closingFence_ne_nil (List.infix_nil.mp htrim)
    have hbody : (Element.ofLine (trim line)).declaration? = none := by
      cases he : Element.ofLine (trim line) with
      | declaration d =>
        rw [he] at hfree
        exact absurd (List.infix_nil.mp hfree) closingFence_ne_nil
      | _ => rfl
    have he : Element.ofLine (trim line) ∈ (Diagram.parse t).elements :=
      Diagram.mem_elements_parse_iff.mpr ⟨⟨line, hline, hne, rfl⟩, hbody⟩
    exact (Element.infix_render strange_closingFence hfree).trans
      (render_infix_sheet (mem_written_of_mem hstyle he hcontent))

end

/-- A tidied body closes its own fence just if taking its init block out brings three backquotes
together, on a line that is not replaced. In all other cases the fence written after it is the
first. -/
theorem closes_fence_iff {style : Style} (hstyle : style.Standard) {body : Text} {o : Tidied}
    (hbody : ¬ closingFence <:+: body) (h : tidy style body = .ok o) :
    (closingFence <:+: o.formatted ↔ ∃ b, InitBlock.find? body = some b ∧ 3 ≤ b.seam ∧
      (style.enforce = true → ∃ line ∈ lines b.remaining, closingFence <:+: line ∧
        (Element.ofLine (trim line)).isContent = true)) ∧
    (¬ closingFence <:+: o.formatted → ∀ rest,
      cut? closingFence (o.formatted ++ ['\n'] ++ closingFence ++ rest) =
        some (o.formatted ++ ['\n'], rest)) ∧
    ∀ t, ∀ b ∈ (Document.parse t).blocks, ¬ closingFence <:+: b.body := by
  refine ⟨?_, fun hfree rest => cut?_append closingFence_ne_nil (not_infix_closingFence hfree),
    fun t b hb => ((Document.wellFormed_parse t).blocks b hb).not_infix_body⟩
  rw [(ok_of_tidy h).1, closingFence_format_iff hstyle]
  cases hfind : InitBlock.find? body with
  | none =>
    rw [extract_of_find? hfind]
    constructor
    · rintro ⟨line, hline, hin, -⟩
      exact absurd (hin.trans (infix_of_mem_lines hline)) hbody
    · rintro ⟨b, hb, -⟩
      contradiction
  | some b =>
    have hseam : closingFence <:+: b.remaining ↔ 3 ≤ b.seam :=
      InitBlock.replicate_infix_remaining_iff (n := 3) hfind hbody
    have hextract : (InitSettings.extract body).2 = b.remaining := by
      rw [InitSettings.extract, hfind]
    rw [hextract]
    constructor
    · rintro ⟨line, hline, hin, hcontent⟩
      exact ⟨b, rfl, hseam.mp (hin.trans (infix_of_mem_lines hline)),
        fun henforce => ⟨line, hline, hin, hcontent henforce⟩⟩
    · rintro ⟨b', hb', hthree, hline⟩
      obtain rfl := Option.some.inj hb'
      cases henforce : style.enforce with
      | true =>
        obtain ⟨line, hline, hin, hcontent⟩ := hline henforce
        exact ⟨line, hline, hin, fun _ => hcontent⟩
      | false =>
        obtain ⟨line, hline, hin⟩ := exists_line_of_infix closingFence_ne_nil (by decide)
          (hseam.mpr hthree)
        exact ⟨line, hline, hin, by simp⟩

/-- Backquotes in a label on the two sides of an init block, which come together when it is taken
out. In the texts `\x7b` and `\x7d` are the braces. -/
theorem closes_fence_iff_label :
    let body := "A[\"`%%\x7binit: \x7b\x7d\x7d%%``\"]".toList
    ¬ closingFence <:+: body ∧
      ∃ o, tidy .default body = .ok o ∧ closingFence <:+: o.formatted := by
  intro body
  have hbody : ¬ closingFence <:+: body := by decide +kernel
  have hok : (tidy .default body).toBool = true := by decide +kernel
  have hfind : InitBlock.find? body = some ⟨"A[\"`".toList, "%%\x7binit: ".toList,
      "\x7b\x7d".toList, "\x7d%%".toList, "``\"]".toList⟩ := by decide +kernel
  obtain ⟨o, ho⟩ := exists_ok_of_toBool hok
  refine ⟨hbody, o, ho, (closes_fence_iff Style.standard_default hbody ho).1.mpr ⟨_, hfind, ?_, ?_⟩⟩
  · decide +kernel
  · exact fun _ => ⟨"A[\"```\"]".toList, by decide +kernel, by decide +kernel, by decide +kernel⟩

/-- Backquotes on the two sides of an init block come together, and the block that is written ends
before its diagram does. In the texts `\x7b` and `\x7d` are the braces. -/
theorem tidy_closes_own_fence :
    let body := "``%%\x7binit: \x7b\x7d\x7d%%`\n".toList
    ¬ closingFence <:+: body ∧
    (∃ o, tidy .default body = .ok o ∧ closingFence <:+: o.formatted) ∧
    (∃ o, tidy .passthrough body = .ok o ∧ closingFence <:+: o.formatted) ∧
    (Document.parse (processDocument .default
      (openingFence ++ body ++ closingFence)).formatted).blocks =
      [⟨[], "flowchart TB\n  ".toList⟩] := by
  refine ⟨by decide +kernel, ⟨⟨"flowchart TB\n  ```".toList, true⟩, ?_⟩,
    ⟨⟨"flowchart TB\n  ```".toList, true⟩, ?_⟩, by decide +kernel⟩
  · exact ⟨by decide +kernel, by decide +kernel⟩
  · exact ⟨by decide +kernel, by decide +kernel⟩

end FlowTidy
