import FlowTidy.Diagram.Layout
import FlowTidy.Proofs.Init.Block
import FlowTidy.Proofs.Line.Frame
import FlowTidy.Proofs.Line.Rereading
import FlowTidy.Proofs.Style.Standard

/-!
Reading a whole text. The elements of a diagram are those on the lines of its body
(`Diagram.elements_parse`), so whatever reading a line guarantees holds of all of them. A text that
was laid out from elements, one canonical line each, has the elements that those lines read as
(`bodyElements_sheet`).
-/

namespace FlowTidy

open Text

/-! ## The elements of a body -/

/-- The elements on the lines of a body, declarations included. -/
def bodyElements (body : Text) : List Element :=
  (((lines body).map trim).filter (· ≠ [])).map Element.ofLine

theorem elements_ofBody (body : Text) :
    (Statement.ofBody body).map Statement.element = bodyElements body := by
  have hlines : ∀ (raws : List Text) (n : Nat),
      ((raws.zipIdx n).filterMap fun numbered => Statement.ofLine? numbered.1 numbered.2).map
        Statement.element = ((raws.map trim).filter (· ≠ [])).map Element.ofLine := by
    intro raws
    induction raws with
    | nil => intro n; rfl
    | cons raw raws ih =>
      intro n
      by_cases hblank : trim raw = []
      · simpa [Statement.ofLine?, hblank] using ih (n + 1)
      · simpa [Statement.ofLine?, hblank] using ih (n + 1)
  exact hlines (lines body) 1

namespace Diagram

/-- The elements of a diagram are those of its lines, declarations left out. -/
theorem elements_parse (t : Text) :
    (parse t).elements = (bodyElements (InitSettings.extract t).2).filter
      fun e => e.declaration?.isNone := by
  rw [← elements_ofBody, List.filter_map]
  rfl

/-- The elements of a text are those on its lines that are not blank, without declarations. -/
theorem mem_elements_parse_iff {t : Text} {e : Element} :
    e ∈ (parse t).elements ↔ (∃ line ∈ lines (InitSettings.extract t).2, trim line ≠ [] ∧
      Element.ofLine (trim line) = e) ∧ e.declaration? = none := by
  simp [elements_parse, bodyElements, and_assoc]

/-- The declaration of a diagram is the last one on its lines. -/
theorem declaration_parse (t : Text) :
    (parse t).declaration =
      ((bodyElements (InitSettings.extract t).2).filterMap Element.declaration?).getLast? := by
  rw [← elements_ofBody, List.filterMap_map]
  rfl

theorem init_parse (t : Text) : (parse t).init = (InitSettings.extract t).1 := rfl

end Diagram

theorem extract_of_find? {t : Text} (h : InitBlock.find? t = none) :
    InitSettings.extract t = (none, t) := by
  rw [InitSettings.extract, h]

/-! ## What is read is readable -/

/-- What is known of the elements of a diagram that was read from a text. -/
structure Element.ReadFrom (body : Text) (e : Element) : Prop where
  readable : e.Readable
  free : e.freeText <:+: body
  line : '\n' ∉ e.freeText
  body : e.declaration? = none

/-- Every element of a diagram is read from one of its lines. -/
theorem readFrom_of_mem_parse {t : Text} {e : Element} (h : e ∈ (Diagram.parse t).elements) :
    e.ReadFrom (InitSettings.extract t).2 := by
  obtain ⟨⟨raw, hraw, hne, rfl⟩, hbody⟩ := Diagram.mem_elements_parse_iff.mp h
  have hfree : (Element.ofLine (trim raw)).freeText <:+: raw :=
    (Element.freeText_ofLine _).trans (trim_isInfix raw)
  exact {
    readable := Element.readable_ofLine (trim_trim raw) hne
    free := hfree.trans (infix_of_mem_lines hraw)
    line := fun hm => not_mem_of_mem_lines hraw (hfree.subset hm)
    body := hbody }

/-! ## Laying out elements -/

/-- The lines of some elements, each at its depth when `depth` subgraphs are open before them. -/
def Style.layout (style : Style) : (depth : Nat) → List Element → List Text
  | _, [] => []
  | depth, e :: es =>
    style.indented (e.ownDepth depth) e.render :: style.layout (e.depthAfter depth) es

theorem exists_mem_layout (style : Style) {e : Element} {es : List Element} (he : e ∈ es)
    (depth : Nat) : ∃ k, style.indented k e.render ∈ style.layout depth es := by
  induction es generalizing depth with
  | nil => contradiction
  | cons x es ih =>
    rcases List.mem_cons.mp he with rfl | he
    · exact ⟨_, List.mem_cons_self⟩
    · obtain ⟨k, hk⟩ := ih he (x.depthAfter depth)
      exact ⟨k, List.mem_cons_of_mem _ hk⟩

section
variable {style : Style} (hstyle : style.IndentsBlank)
include hstyle

theorem mem_copies {n : Nat} {c : Char} (hc : c ∈ copies n style.indentUnit) :
    c = ' ' ∨ c = '\t' := by
  obtain ⟨piece, hpiece, hc⟩ := List.mem_flatten.mp hc
  obtain rfl := List.eq_of_mem_replicate hpiece
  exact hstyle c hc

theorem trim_indented (depth : Nat) (line : Text) :
    trim (style.indented depth line) = trim line := by
  refine strip_append_left fun c hc => ?_
  rcases mem_copies hstyle hc with rfl | rfl <;> rfl

/-- A foreign text on an indented line is on the line itself. -/
theorem infix_indented {w : Text} (hw : w.Foreign) {depth : Nat} {line : Text}
    (h : w <:+: style.indented depth line) : w <:+: line := by
  refine infix_append_left hw.ne_nil (fun c hc hm => ?_) h
  have hsep := hw.whole c hm
  rcases mem_copies hstyle hc with rfl | rfl <;> contradiction

/-- A foreign text in a layout is in the free text of one of the elements. -/
theorem infix_of_mem_layout {w line : Text} (hw : w.Foreign) {depth : Nat} {es : List Element}
    (hes : ∀ e ∈ es, e.Neat) (hline : line ∈ style.layout depth es) (hin : w <:+: line) :
    ∃ e ∈ es, w <:+: e.freeText := by
  induction es generalizing depth with
  | nil => contradiction
  | cons e es ih =>
    rcases List.mem_cons.mp hline with rfl | hline
    · have hrender := infix_indented hstyle hw hin
      exact ⟨e, List.mem_cons_self,
        (Element.framed_render (hes e List.mem_cons_self)).infix_free hw hrender⟩
    · obtain ⟨e', he', hfree⟩ := ih (fun e he => hes e (List.mem_cons_of_mem _ he)) hline
      exact ⟨e', List.mem_cons_of_mem _ he', hfree⟩

theorem not_mem_layout {depth : Nat} {es : List Element} (hes : ∀ e ∈ es, e.Neat)
    (hfree : ∀ e ∈ es, '\n' ∉ e.freeText) : ∀ line ∈ style.layout depth es, '\n' ∉ line := by
  intro line hline hm
  have hw : Foreign ['\n'] := ⟨by decide, '\n', by decide, rfl⟩
  obtain ⟨e, he, hin⟩ := infix_of_mem_layout hstyle hw hes hline
    (List.singleton_infix_iff _ _ |>.mpr hm)
  exact hfree e he (hin.subset (by simp))

/-- Trimmed lines of a layout are those of the elements. -/
theorem map_trim_layout {depth : Nat} {es : List Element} (hes : ∀ e ∈ es, e.Neat) :
    (style.layout depth es).map trim = es.map Element.render := by
  induction es generalizing depth with
  | nil => rfl
  | cons e es ih =>
    rw [Style.layout, List.map_cons, List.map_cons, trim_indented hstyle,
      Element.trim_render (hes e List.mem_cons_self),
      ih fun e he => hes e (List.mem_cons_of_mem _ he)]

end

/-- A canonical text: a declaration, and elements laid out under it. -/
def Style.sheet (style : Style) (d : Declaration) (es : List Element) : Text :=
  joined ['\n'] (d.render :: style.layout 0 es)

section
variable {style : Style} (hstyle : style.IndentsBlank) {d : Declaration} {es : List Element}
include hstyle

omit hstyle in
theorem render_infix_sheet {e : Element} (he : e ∈ es) : e.render <:+: style.sheet d es := by
  obtain ⟨k, hk⟩ := exists_mem_layout style he 0
  have hline : e.render <:+: style.indented k e.render := (List.suffix_append _ _).isInfix
  exact hline.trans (infix_joined_of_mem (List.mem_cons_of_mem _ hk))

theorem lines_sheet (hes : ∀ e ∈ es, e.Neat) (hfree : ∀ e ∈ es, '\n' ∉ e.freeText) :
    lines (style.sheet d es) = d.render :: style.layout 0 es := by
  refine lines_joined (by simp) (List.forall_mem_cons.mpr ⟨?_, not_mem_layout hstyle hes hfree⟩)
  obtain ⟨k, d⟩ := d
  cases k <;> cases d <;> decide

/-- A sheet is read line by line. -/
theorem bodyElements_sheet (hes : ∀ e ∈ es, e.Neat) (hfree : ∀ e ∈ es, '\n' ∉ e.freeText) :
    bodyElements (style.sheet d es) =
      .declaration d :: es.map fun e => Element.ofLine e.render := by
  have hd : trim d.render = d.render := Element.trim_render (e := .declaration d) trivial
  have hdne : d.render ≠ [] := Element.render_ne_nil (e := .declaration d) trivial
  have hne : ∀ line ∈ d.render :: es.map Element.render, decide (line ≠ []) = true := by
    refine List.forall_mem_cons.mpr ⟨by simpa using hdne, fun line hline => ?_⟩
    obtain ⟨e, he, rfl⟩ := List.mem_map.mp hline
    simpa using Element.render_ne_nil (hes e he)
  rw [bodyElements, lines_sheet hstyle hes hfree, List.map_cons, hd, map_trim_layout hstyle hes,
    List.filter_eq_self.mpr hne, List.map_cons, Element.ofLine_render_declaration, List.map_map]
  rfl

/-- A foreign text in a canonical text is in the free text of one of the elements. -/
theorem infix_of_infix_sheet {w : Text} (hw : w.Foreign) (hnewline : '\n' ∉ w)
    (hes : ∀ e ∈ es, e.Neat) (h : w <:+: style.sheet d es) : ∃ e ∈ es, w <:+: e.freeText := by
  obtain ⟨line, hline, hin⟩ := infix_joined hw.ne_nil hnewline h
  rcases List.mem_cons.mp hline with rfl | hline
  · exact absurd ((Element.framed_render (e := .declaration d) trivial).infix_free hw hin)
      (hw.not_infix (by simp [Element.freeText]))
  · exact infix_of_mem_layout hstyle hw hes hline hin

end

end FlowTidy
