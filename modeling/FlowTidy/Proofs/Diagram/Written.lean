import FlowTidy.Proofs.Diagram.Enforcement

/-!
Formatting in two steps: `Style.written` gives the elements that are written, with enforced styling
in them, and these are laid out one line each (`format_eq_sheet`). Elements that are not styles are
written in order (`content_written`). Reading what was written and writing it again gives the same
elements (`written_map_reread`).
-/

namespace FlowTidy

open Text

/-- The elements that a style writes for a body. The link style put at the end stands for the
closing lines: it is replaced by the canonical ones unless the body has a link style of its own. -/
def Style.written (style : Style) (es : List Element) : List Element :=
  if style.enforce then enforced (style.canonicalElements es) [] (es ++ [.linkStyle [] []]) else es

theorem written_of_enforce {style : Style} (h : style.enforce = true) (es : List Element) :
    style.written es = enforced (style.canonicalElements es) [] (es ++ [.linkStyle [] []]) := by
  rw [Style.written, if_pos h]

theorem written_of_not_enforce {style : Style} (h : style.enforce = false) (es : List Element) :
    style.written es = es := by
  rw [Style.written, h]
  rfl

/-! ## Laying out what is written -/

theorem layout_append (style : Style) (depth : Nat) (xs ys : List Element) :
    style.layout depth (xs ++ ys) =
      style.layout depth xs ++ style.layout (finalDepth depth xs) ys := by
  induction xs generalizing depth with
  | nil => rfl
  | cons x xs ih =>
    rw [List.cons_append, Style.layout, ih]
    rfl

theorem depthAfter_of_style {e : Element} {kind : StyleKind} (h : e.styleKind? = some kind)
    (depth : Nat) : e.depthAfter depth = depth ∧ e.ownDepth depth = depth := by
  cases e with
  | classDef | classUse | linkStyle => exact ⟨rfl, rfl⟩
  | _ => contradiction

theorem layout_styles (style : Style) (depth : Nat) {kind : StyleKind} {xs : List Element}
    (h : ∀ e ∈ xs, e.styleKind? = some kind) :
    style.layout depth xs = (xs.map Element.render).map (style.indented depth) := by
  induction xs with
  | nil => rfl
  | cons x xs ih =>
    obtain ⟨hafter, hown⟩ := depthAfter_of_style (h x List.mem_cons_self) depth
    rw [Style.layout, hafter, hown, ih fun e he => h e (List.mem_cons_of_mem _ he)]
    rfl

theorem finalDepth_styles (depth : Nat) {kind : StyleKind} {xs : List Element}
    (h : ∀ e ∈ xs, e.styleKind? = some kind) : finalDepth depth xs = depth := by
  induction xs with
  | nil => rfl
  | cons x xs ih =>
    have hcons : finalDepth depth (x :: xs) = finalDepth (x.depthAfter depth) xs := rfl
    rw [hcons, (depthAfter_of_style (h x List.mem_cons_self) depth).1,
      ih fun e he => h e (List.mem_cons_of_mem _ he)]

theorem layout_eq_flatMap (style : Style) (depth : Nat) (es : List Element) :
    style.layout depth es = ((nesting depth es).zip (es.map fun e => [e.render])).flatMap
      fun (depth, lines) => lines.map (style.indented depth) := by
  induction es generalizing depth with
  | nil => rfl
  | cons x es ih =>
    rw [Style.layout, ih, nesting, List.map_cons, List.zip_cons_cons, List.flatMap_cons]
    rfl

section
variable {style : Style} {canonical : StyleKind → List Element} {lines : StyleKind → List Text}
  (hcanonical : ∀ kind, ∀ e ∈ canonical kind, e.styleKind? = some kind)
include hcanonical

theorem finalDepth_enforced (depth : Nat) (seen : List StyleKind) (es : List Element) :
    finalDepth depth (enforced canonical seen es) = finalDepth depth es := by
  induction es generalizing depth seen with
  | nil => rfl
  | cons x es ih =>
    cases hx : x.styleKind? with
    | none =>
      rw [enforced_of_none hx]
      exact ih _ _
    | some kind =>
      rw [enforced_of_some hx]
      have hcons : finalDepth depth (x :: es) = finalDepth depth es := by
        change finalDepth (x.depthAfter depth) es = _
        rw [(depthAfter_of_style hx depth).1]
      rw [hcons, finalDepth, List.foldl_append]
      split
      · exact ih _ _
      · have h := finalDepth_styles depth (hcanonical kind)
        rw [finalDepth] at h
        rw [h]
        exact ih _ _

/-- Laying out what styling is enforced on gives the lines that formatting writes. -/
theorem layout_enforced (hlines : ∀ kind, (canonical kind).map Element.render = lines kind)
    (depth : Nat) (seen : List StyleKind) (es : List Element) :
    style.layout depth (enforced canonical seen es) =
      ((nesting depth es).zip (enforcedLines lines seen es)).flatMap
        fun (depth, lines) => lines.map (style.indented depth) := by
  induction es generalizing depth seen with
  | nil => rfl
  | cons x es ih =>
    cases hx : x.styleKind? with
    | none =>
      rw [enforced_of_none hx, Style.layout, ih, nesting, enforcedLines, hx, List.zip_cons_cons,
        List.flatMap_cons]
      rfl
    | some kind =>
      obtain ⟨hafter, hown⟩ := depthAfter_of_style hx depth
      rw [enforced_of_some hx, layout_append, nesting, enforcedLines, hx, List.zip_cons_cons,
        List.flatMap_cons, hafter, hown]
      by_cases hmem : kind ∈ seen
      · rw [if_pos hmem, if_pos hmem]
        exact ih _ _
      · rw [if_neg hmem, if_neg hmem, layout_styles _ _ (hcanonical kind), hlines,
          finalDepth_styles _ (hcanonical kind), ih]

end

section
variable {style : Style} (hstyle : style.Standard) (es : List Element)
include hstyle

theorem styleKind_of_mem_canonicalElements (kind : StyleKind) :
    ∀ e ∈ style.canonicalElements es kind, e.styleKind? = some kind :=
  fun _ he => (isCanonical_of_mem hstyle he).styleKind?

theorem map_render_canonicalElements (kind : StyleKind) :
    (style.canonicalElements es kind).map Element.render = style.canonical es kind := by
  cases kind with
  | classDef =>
    have hdrop : ∀ {p : Text}, p ∈ classTexts → dropEnd (· == ';') p = p := fun hp =>
      dropEnd_of_getLast?_ne (defaultTexts (List.mem_append_left _ hp)).2.2.1
    have hcontent : dropEnd (· == ';') style.contentProperties = style.contentProperties :=
      hstyle.contentProperties ▸ hdrop List.mem_cons_self
    have hworkflow : dropEnd (· == ';') style.workflowProperties = style.workflowProperties :=
      hstyle.workflowProperties ▸ hdrop (List.mem_cons_of_mem _ List.mem_cons_self)
    simp only [Style.canonicalElements, Style.canonical, List.map_cons, List.map_nil,
      Element.render, hcontent, hworkflow]
  | classUse =>
    rw [Style.canonicalElements, Style.canonical, List.map_filterMap]
    refine List.filterMap_congr fun pair _ => ?_
    dsimp only
    split <;> rfl
  | linkStyle =>
    rw [Style.canonicalElements, Style.canonical, List.map_filterMap]
    refine List.filterMap_congr fun pair _ => ?_
    dsimp only
    split
    · rfl
    · next hne =>
      cases hpositions : linkPositions pair.1 (es.filterMap Element.connection?) with
      | nil => contradiction
      | cons i is => rfl

/-- The lines of a body are its written elements, laid out. -/
theorem bodyLines_eq_layout : style.bodyLines es = style.layout 0 (style.written es) := by
  cases henforce : style.enforce with
  | false =>
    have hclosing : style.closingLines es = [] := by simp [Style.closingLines, henforce]
    rw [written_of_not_enforce henforce, Style.bodyLines, hclosing, List.map_nil, List.append_nil,
      Style.linesOf, henforce, layout_eq_flatMap]
    rfl
  | true =>
    have hkind := styleKind_of_mem_canonicalElements hstyle es
    have hlink : (Element.linkStyle [] []).styleKind? = some .linkStyle := rfl
    rw [written_of_enforce henforce, enforced_append, layout_append,
      layout_enforced hkind (map_render_canonicalElements hstyle es), finalDepth_enforced hkind,
      enforced_of_some hlink, Style.bodyLines, Style.linesOf, if_pos henforce]
    refine congrArg (_ ++ ·) ?_
    rw [Style.closingLines, ← map_render_canonicalElements hstyle es, enforced, List.append_nil]
    by_cases hown : ∀ e ∈ es, e.styleKind? ≠ some .linkStyle
    · have hmem : StyleKind.linkStyle ∉ (es.filterMap Element.styleKind?).reverse ++ [] := by
        simpa using hown
      rw [if_pos ⟨henforce, hown⟩, if_neg hmem, layout_styles _ _ (hkind .linkStyle)]
    · have hmem : StyleKind.linkStyle ∈ (es.filterMap Element.styleKind?).reverse ++ [] := by
        simpa using hown
      rw [if_neg fun h => hown h.2, if_pos hmem]
      rfl

/-- Formatting writes a sheet of the elements with enforced styling in them. -/
theorem format_eq_sheet (d : Diagram) :
    d.format style = style.sheet (d.declaration.getD {}) (style.written d.elements) := by
  rw [Diagram.format, hstyle.initBlock, bodyLines_eq_layout hstyle]
  rfl

/-- What is written is there already or canonical. -/
theorem mem_written {es : List Element} {e : Element} (h : e ∈ style.written es) :
    (e ∈ es ∧ (style.enforce = true → e.isContent = true)) ∨
      style.enforce = true ∧ ∃ kind, IsCanonical es kind e := by
  cases henforce : style.enforce with
  | false =>
    rw [written_of_not_enforce henforce] at h
    exact .inl ⟨h, fun h => nomatch h⟩
  | true =>
    rw [written_of_enforce henforce] at h
    rcases mem_enforced h with ⟨hmem, hcontent⟩ | ⟨kind, hkind⟩
    · refine .inl ⟨?_, fun _ => hcontent⟩
      rcases List.mem_append.mp hmem with hmem | hmem
      · exact hmem
      · obtain rfl := List.mem_singleton.mp hmem
        contradiction
    · exact .inr ⟨rfl, kind, isCanonical_of_mem hstyle hkind⟩

/-- What is not a style is written in its place. -/
theorem content_written :
    (style.written es).filter Element.isContent = es.filter Element.isContent := by
  cases henforce : style.enforce with
  | false => rw [written_of_not_enforce henforce]
  | true =>
    rw [written_of_enforce henforce,
      content_enforced (styleKind_of_mem_canonicalElements hstyle es), List.filter_append]
    exact List.append_nil _

end

/-! ## What canonical styles depend on -/

/-- The classes depend on the nodes that are mentioned, on subgraphs and on marked nodes only. -/
theorem NodeClasses.of_congr {es es' : List Element}
    (hids : es.flatMap Element.nodeIds = es'.flatMap Element.nodeIds)
    (hsubgraphs : es.filterMap Element.subgraphId? = es'.filterMap Element.subgraphId?)
    (hmarked : markedNodes false es = markedNodes false es') :
    NodeClasses.of es = NodeClasses.of es' := by
  simp only [NodeClasses.of, hids, hsubgraphs, hmarked]

theorem filterMap_filter_isContent {β : Type} {f : Element → Option β}
    (hf : ∀ e kind, e.styleKind? = some kind → f e = none) (es : List Element) :
    (es.filter Element.isContent).filterMap f = es.filterMap f := by
  rw [List.filterMap_filter]
  refine List.filterMap_congr fun e _ => ?_
  cases hkind : e.styleKind? with
  | none => simp [Element.isContent, hkind]
  | some kind => simp [Element.isContent, hkind, hf e kind hkind]

theorem Element.parts_of_style {e : Element} {kind : StyleKind} (h : e.styleKind? = some kind) :
    e.node? = none ∧ e.connection? = none ∧ e.subgraphId? = none := by
  cases e with
  | classDef | classUse | linkStyle => exact ⟨rfl, rfl, rfl⟩
  | _ => contradiction

theorem NodeClasses.of_filter_isContent (es : List Element) :
    NodeClasses.of (es.filter Element.isContent) = NodeClasses.of es := by
  refine of_congr ?_
    (filterMap_filter_isContent (fun _ _ h => (Element.parts_of_style h).2.2) es) ?_
  · induction es with
    | nil => rfl
    | cons e es ih =>
      cases e <;> simp [List.filter_cons, Element.isContent, Element.styleKind?,
        Element.nodeIds, ih]
  · generalize false = inside
    induction es generalizing inside with
    | nil => rfl
    | cons e es ih =>
      cases e <;> simp [List.filter_cons, Element.isContent, Element.styleKind?, markedNodes, ih]

/-- Quotes and blanks around the label of a subgraph do not matter for the mark of a workflow. -/
theorem isWorkflowSubgraph_reread (id : Text) (label : Option Text) :
    isWorkflowSubgraph id (label.map fun l => trim (requoted l)) = isWorkflowSubgraph id label := by
  have hmark : ∀ l : Text, holds (trim (requoted l)) workflowMark = holds l workflowMark := by
    intro l
    rw [Bool.eq_iff_iff, holds_iff_isInfix, holds_iff_isInfix, trim_eq_strip,
      infix_strip_iff (by decide) (by decide),
      ← infix_strip_iff (p := (· == '"')) (t := requoted l) (by decide) (by decide),
      ← unquote_eq_strip, unquote_requoted, unquote_eq_strip,
      infix_strip_iff (by decide) (by decide)]
  cases label with
  | none => rfl
  | some l => simp only [isWorkflowSubgraph, Option.map_some, Option.any_some, hmark]

namespace Element

theorem styleKind?_reread {e : Element} (h : e.styleKind? = none) : e.reread.styleKind? = none := by
  cases e with
  | classDef | classUse | linkStyle => contradiction
  | _ => rfl

/-- Reading back changes no identifier and no connection. -/
theorem parts_reread (e : Element) :
    e.reread.nodeIds = e.nodeIds ∧ e.reread.subgraphId? = e.subgraphId? ∧
      e.reread.connection? = e.connection? := by
  cases e with
  | classDef name properties => rw [reread]; split <;> exact ⟨rfl, rfl, rfl⟩
  | _ => exact ⟨rfl, rfl, rfl⟩

end Element

theorem markedNodes_map_reread (inside : Bool) (es : List Element) :
    markedNodes inside (es.map Element.reread) = markedNodes inside es := by
  induction es generalizing inside with
  | nil => rfl
  | cons e es ih =>
    cases e with
    | classDef name properties =>
      rw [List.map_cons, Element.reread]
      split <;> exact ih inside
    | subgraphStart id label =>
      change markedNodes (inside || isWorkflowSubgraph id _) _ = _
      rw [isWorkflowSubgraph_reread, ih]
      rfl
    | node n => exact congrArg (_ ++ ·) (ih inside)
    | _ => exact ih _

theorem NodeClasses.of_map_reread (es : List Element) :
    NodeClasses.of (es.map Element.reread) = NodeClasses.of es := by
  refine of_congr ?_ ?_ (markedNodes_map_reread false es)
  · rw [List.flatMap_map]
    exact List.flatMap_congr fun e _ => e.parts_reread.1
  · rw [List.filterMap_map]
    exact List.filterMap_congr fun e _ => e.parts_reread.2.1

theorem connections_map_reread (es : List Element) :
    (es.map Element.reread).filterMap Element.connection? = es.filterMap Element.connection? := by
  rw [List.filterMap_map]
  exact List.filterMap_congr fun e _ => e.parts_reread.2.2

/-- The canonical elements depend on the classes and on the connections only. -/
theorem canonicalElements_congr {style : Style} {es es' : List Element}
    (hclasses : NodeClasses.of es = NodeClasses.of es')
    (hconnections : es.filterMap Element.connection? = es'.filterMap Element.connection?) :
    style.canonicalElements es = style.canonicalElements es' := by
  funext kind
  cases kind <;> simp only [Style.canonicalElements, hclasses, hconnections]

section
variable {style : Style} (hstyle : style.Standard) (es : List Element)
include hstyle

/-- What styles have no part in is written as it was. -/
theorem filterMap_written {β : Type} {f : Element → Option β}
    (hf : ∀ e kind, e.styleKind? = some kind → f e = none) :
    (style.written es).filterMap f = es.filterMap f := by
  rw [← filterMap_filter_isContent hf, content_written hstyle, filterMap_filter_isContent hf]

theorem connections_written :
    (style.written es).filterMap Element.connection? = es.filterMap Element.connection? :=
  filterMap_written hstyle es fun _ _ h => (Element.parts_of_style h).2.1

/-- The classes of nodes are the same after writing and reading back. -/
theorem classes_written :
    NodeClasses.of ((style.written es).map Element.reread) = NodeClasses.of es := by
  rw [NodeClasses.of_map_reread, ← NodeClasses.of_filter_isContent, content_written hstyle,
    NodeClasses.of_filter_isContent]

/-- What is written and read back asks for the same canonical elements. -/
theorem canonicalElements_written :
    style.canonicalElements ((style.written es).map Element.reread) = style.canonicalElements es :=
  canonicalElements_congr (classes_written hstyle es)
    (by rw [connections_map_reread, connections_written hstyle])

theorem map_reread_canonicalElements (kind : StyleKind) :
    (style.canonicalElements es kind).map Element.reread = style.canonicalElements es kind :=
  (List.map_congr_left fun _ he => (isCanonical_of_mem hstyle he).reread).trans (List.map_id _)

/-- What was written and read back is written as it is. -/
theorem written_map_reread :
    style.written ((style.written es).map Element.reread) =
      (style.written es).map Element.reread := by
  cases henforce : style.enforce with
  | false => rw [written_of_not_enforce henforce, written_of_not_enforce henforce]
  | true =>
    have hkind := styleKind_of_mem_canonicalElements hstyle es
    -- the link style put at the end the second time is dropped: if there are canonical ones, they
    -- were written the first time
    have hlink : (Element.linkStyle [] []).styleKind? = some .linkStyle := rfl
    have hclosing : enforced (style.canonicalElements es)
        ((((style.written es).map Element.reread).filterMap Element.styleKind?).reverse ++ [])
        [.linkStyle [] []] = [] := by
      rw [enforced_of_some hlink, enforced, List.append_nil, List.append_nil]
      split
      · rfl
      · next hmem =>
        rw [List.eq_nil_iff_forall_not_mem]
        intro e he
        refine hmem (List.mem_reverse.mpr (List.mem_filterMap.mpr ⟨e, List.mem_map.mpr ⟨e, ?_,
          (isCanonical_of_mem hstyle he).reread⟩, hkind .linkStyle e he⟩))
        rw [written_of_enforce henforce]
        refine List.mem_of_mem_filter (p := fun e => e.styleKind? = some .linkStyle) ?_
        rwa [filter_styleKind_enforced hkind, if_pos]
        exact ⟨List.not_mem_nil, _, List.mem_append_right _ List.mem_cons_self, rfl⟩
    rw [written_of_enforce henforce, canonicalElements_written hstyle, enforced_append, hclosing,
      List.append_nil, written_of_enforce henforce]
    exact enforced_map_enforced hkind (fun _ h => Element.styleKind?_reread h)
      (map_reread_canonicalElements hstyle es) (by simp)

end

end FlowTidy
