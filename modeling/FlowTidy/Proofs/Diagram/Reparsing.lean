import FlowTidy.Proofs.Diagram.Written

/-!
Reading a formatted diagram. The elements of the text are those that the written lines read as
(`elements_parse_sheet`), and where no node is lost they are the written elements, reread
(`parse_sheet`). A formatted text has an init block only if its free text has the mark of one.
-/

namespace FlowTidy

open Text

/-! ## What is written -/

section
variable {style : Style} (hstyle : style.Standard) {es : List Element}
include hstyle

/-- What holds of the elements of a body and of canonical styles holds of all that is written. -/
theorem forall_written {P : Element → Prop} (hes : ∀ e ∈ es, P e)
    (hcanonical : style.enforce = true → ∀ {kind e}, IsCanonical es kind e → P e) :
    ∀ e ∈ style.written es, P e := by
  intro e he
  rcases mem_written hstyle he with ⟨hmem, -⟩ | ⟨henforce, kind, hkind⟩
  · exact hes e hmem
  · exact hcanonical henforce hkind

theorem neat_written (hes : ∀ e ∈ es, e.Neat) : ∀ e ∈ style.written es, e.Neat :=
  forall_written hstyle hes fun _ _ _ h => h.neat hes

theorem newline_written (hes : ∀ e ∈ es, '\n' ∉ e.freeText) :
    ∀ e ∈ style.written es, '\n' ∉ e.freeText :=
  forall_written hstyle hes fun _ _ _ h => h.free.1

theorem declaration?_written (hes : ∀ e ∈ es, e.declaration? = none) :
    ∀ e ∈ style.written es, e.declaration? = none :=
  forall_written hstyle hes fun _ _ _ h => h.declaration?

theorem isLost_written (hes : ∀ e ∈ es, e.isLost = false) :
    ∀ e ∈ style.written es, e.isLost = false :=
  forall_written hstyle hes fun _ _ _ h => by cases h <;> rfl

/-- What is written for readable elements is readable, if there are not too many connections to
number. -/
theorem readable_written (hes : ∀ e ∈ es, e.Readable)
    (hsize : style.enforce = true → (es.filterMap Element.connection?).length ≤ Nat.pow 2 64) :
    ∀ e ∈ style.written es, e.Readable :=
  forall_written hstyle hes fun henforce _ _ h =>
    h.readable (fun e he => (hes e he).neat) fun _ => hsize henforce

/-- A foreign text in what is written that no canonical style holds is in the free text of an
element that is written as it is. -/
theorem exists_of_infix_written {w : Text} (hw : w.Foreign) (hnewline : '\n' ∉ w) {c : Char}
    (hc : c ∈ w) (hcanonical : ∀ {kind e}, IsCanonical es kind e → c ∉ e.freeText)
    (hes : ∀ e ∈ es, e.Neat) {d : Declaration} (h : w <:+: style.sheet d (style.written es)) :
    ∃ e ∈ es, w <:+: e.freeText ∧ (style.enforce = true → e.isContent = true) := by
  obtain ⟨e, he, hfree⟩ := infix_of_infix_sheet hstyle.indentsBlank hw hnewline
    (neat_written hstyle hes) h
  rcases mem_written hstyle he with ⟨hmem, hcontent⟩ | ⟨-, kind, hkind⟩
  · exact ⟨e, hmem, hfree, hcontent⟩
  · exact absurd (hfree.subset hc) (hcanonical hkind)

/-- In what is written no init block is found, unless an element holds its mark. -/
theorem find?_sheet_written (hes : ∀ e ∈ es, e.Neat)
    (hmark : ∀ e ∈ es, ¬ InitBlock.openingMark <:+: e.freeText) (d : Declaration) :
    InitBlock.find? (style.sheet d (style.written es)) = none := by
  have hforeign : Foreign InitBlock.openingMark := ⟨by decide, '{', by decide, rfl⟩
  refine InitBlock.find?_of_not_infix fun hin => ?_
  obtain ⟨e, he, hfree, -⟩ := exists_of_infix_written hstyle hforeign (by decide) (c := '{')
    (by decide) (fun h => h.free.2.1) hes hin
  exact hmark e he hfree

end

/-! ## What is read -/

section
variable {style : Style} (hstyle : style.IndentsBlank) {d : Declaration} {es : List Element}
  (hneat : ∀ e ∈ es, e.Neat) (hnewline : ∀ e ∈ es, '\n' ∉ e.freeText)
  (hfind : InitBlock.find? (style.sheet d es) = none)
include hstyle hneat hnewline hfind

theorem elements_parse_sheet :
    (Diagram.parse (style.sheet d es)).elements =
      (es.map fun e => Element.ofLine e.render).filter fun e => e.declaration?.isNone := by
  rw [Diagram.elements_parse, extract_of_find? hfind, bodyElements_sheet hstyle hneat hnewline]
  rfl

/-- The declaration of a sheet is its own unless a later line is read as one. -/
theorem declaration_parse_sheet :
    (Diagram.parse (style.sheet d es)).declaration =
      (d :: (es.map fun e => Element.ofLine e.render).filterMap Element.declaration?).getLast? := by
  rw [Diagram.declaration_parse, extract_of_find? hfind, bodyElements_sheet hstyle hneat hnewline]
  rfl

end

theorem Element.declaration?_reread {e : Element} (h : e.declaration? = none) :
    e.reread.declaration? = none := by
  cases e with
  | classDef name properties => rw [reread]; split <;> rfl
  | declaration => contradiction
  | _ => rfl

/-- A canonical text is read as its elements, reread. -/
theorem parse_sheet {style : Style} (hstyle : style.IndentsBlank) {d : Declaration}
    {es : List Element} (hreadable : ∀ e ∈ es, e.Readable) (hlost : ∀ e ∈ es, e.isLost = false)
    (hbody : ∀ e ∈ es, e.declaration? = none) (hnewline : ∀ e ∈ es, '\n' ∉ e.freeText)
    (hfind : InitBlock.find? (style.sheet d es) = none) :
    (Diagram.parse (style.sheet d es)).init = none ∧
      (Diagram.parse (style.sheet d es)).declaration = some d ∧
      (Diagram.parse (style.sheet d es)).elements = es.map Element.reread := by
  have hneat : ∀ e ∈ es, e.Neat := fun e he => (hreadable e he).neat
  have hread : (es.map fun e => Element.ofLine e.render) = es.map Element.reread :=
    List.map_congr_left fun e he => Element.ofLine_render (hreadable e he) (hlost e he)
  have hdecl : ∀ e ∈ es.map Element.reread, e.declaration? = none := by
    intro e he
    obtain ⟨x, hx, rfl⟩ := List.mem_map.mp he
    exact Element.declaration?_reread (hbody x hx)
  refine ⟨?_, ?_, ?_⟩
  · rw [Diagram.init_parse, extract_of_find? hfind]
  · rw [declaration_parse_sheet hstyle hneat hnewline hfind, hread,
      List.filterMap_eq_nil_iff.mpr hdecl]
    rfl
  · rw [elements_parse_sheet hstyle hneat hnewline hfind, hread, List.filter_eq_self]
    intro e he
    rw [hdecl e he]
    rfl

end FlowTidy
