import FlowTidy.Proofs.Tidy.Preservation
import Mathlib.Data.List.Flatten

/-!
When tidying a second time changes nothing. Three things can change: the label of a subgraph with
blanks inside its quotes, class properties with blanks before the semicolons at their end, and
text in which a second init block is found. Nothing else can.
-/

namespace FlowTidy

open Text

/-! ## Braces

Formatting makes no braces, and taking out an init block takes some out. So a formatted text with an
init block in it is never formatted to itself. -/

theorem count_joined {c : Char} (hc : c ≠ '\n') (pieces : List Text) :
    (joined ['\n'] pieces).count c = pieces.flatten.count c := by
  have hnewline : ['\n'].count c = 0 := List.count_eq_zero.mpr (by simpa using hc)
  cases pieces with
  | nil => rfl
  | cons first more =>
    rw [joined_cons, List.flatten_cons, List.count_append, List.count_append]
    refine congrArg (first.count c + ·) ?_
    induction more with
    | nil => rfl
    | cons piece more ih =>
      rw [List.flatMap_cons, List.flatten_cons, List.count_append, List.count_append,
        List.count_append, ih, hnewline, Nat.zero_add]

/-- Laying out adds no character but plain ones. -/
theorem count_layout_le {style : Style} (hstyle : style.IndentsBlank) {c : Char}
    (hc : isPlain c = false) (depth : Nat) {es : List Element} (hes : ∀ e ∈ es, e.Neat) :
    (style.layout depth es).flatten.count c ≤ (es.flatMap Element.freeText).count c := by
  induction es generalizing depth with
  | nil => exact Nat.le_refl _
  | cons e es ih =>
    have hindent : (copies (e.ownDepth depth + 1) style.indentUnit).count c = 0 := by
      refine List.count_eq_zero.mpr fun hm => ?_
      rcases mem_copies hstyle hm with rfl | rfl <;> contradiction
    have hline := (Element.framed_render (hes e List.mem_cons_self)).count_le hc
    have hrest := ih (e.depthAfter depth) fun x hx => hes x (List.mem_cons_of_mem _ hx)
    rw [Style.layout, Style.indented, List.flatten_cons, List.count_append, List.count_append,
      hindent, Nat.zero_add, List.flatMap_cons, List.count_append]
    exact Nat.add_le_add hline hrest

theorem count_enforced_le {canonical : StyleKind → List Element} {c : Char}
    (hcanonical : ∀ kind, ∀ e ∈ canonical kind, c ∉ e.freeText) (seen : List StyleKind)
    (es : List Element) :
    ((enforced canonical seen es).flatMap Element.freeText).count c ≤
      (es.flatMap Element.freeText).count c := by
  induction es generalizing seen with
  | nil => exact Nat.le_refl _
  | cons x es ih =>
    rw [List.flatMap_cons, List.count_append]
    cases hx : x.styleKind? with
    | none =>
      rw [enforced_of_none hx, List.flatMap_cons, List.count_append]
      exact Nat.add_le_add_left (ih seen) _
    | some kind =>
      have hzero : ((if kind ∈ seen then [] else canonical kind).flatMap Element.freeText).count c =
          0 := by
        refine List.count_eq_zero.mpr fun hm => ?_
        obtain ⟨e, he, hce⟩ := List.mem_flatMap.mp hm
        split at he
        · contradiction
        · exact hcanonical kind e he hce
      rw [enforced_of_some hx, List.flatMap_append, List.count_append, hzero, Nat.zero_add]
      exact Nat.le_add_left_of_le (ih (kind :: seen))

theorem count_bodyElements_le {c : Char} (hc : c ≠ '\n') (body : Text) :
    ((bodyElements body).flatMap Element.freeText).count c ≤ body.count c := by
  have hlines : ∀ raws : List Text,
      ((((raws.map trim).filter (· ≠ [])).map Element.ofLine).flatMap Element.freeText).count c ≤
        raws.flatten.count c := by
    intro raws
    induction raws with
    | nil => exact Nat.le_refl _
    | cons raw raws ih =>
      rw [List.map_cons, List.filter_cons, List.flatten_cons, List.count_append]
      split
      · have hfree : (Element.ofLine (trim raw)).freeText.count c ≤ raw.count c :=
          ((Element.freeText_ofLine _).trans (trim_isInfix raw)).sublist.count_le c
        rw [List.map_cons, List.flatMap_cons, List.count_append]
        exact Nat.add_le_add hfree ih
      · exact Nat.le_add_left_of_le ih
  have hbody : joined ['\n'] (lines body) = body := List.intercalate_splitOn '\n'
  rw [← hbody, count_joined hc, hbody]
  exact hlines (lines body)

theorem count_parse_le {c : Char} (hc : c ≠ '\n') (t : Text) :
    ((Diagram.parse t).elements.flatMap Element.freeText).count c ≤
      (InitSettings.extract t).2.count c := by
  rw [Diagram.elements_parse]
  refine Nat.le_trans ?_ (count_bodyElements_le hc _)
  exact (List.filter_sublist.flatMap Element.freeText).count_le c

section
variable {style : Style} (hstyle : style.Standard)
include hstyle

theorem count_written_le (es : List Element) :
    ((style.written es).flatMap Element.freeText).count '{' ≤
      (es.flatMap Element.freeText).count '{' := by
  cases henforce : style.enforce with
  | false => rw [written_of_not_enforce henforce]
  | true =>
    have hclosing : (es ++ [Element.linkStyle [] []]).flatMap Element.freeText =
        es.flatMap Element.freeText := by
      rw [List.flatMap_append]
      exact List.append_nil _
    rw [written_of_enforce henforce, ← hclosing]
    exact count_enforced_le (fun kind e he => (isCanonical_of_mem hstyle he).free.2.1) _ _

/-- Formatting adds no opening brace. -/
theorem count_format_le (d : Diagram) (hes : ∀ e ∈ d.elements, e.Neat) :
    (d.format style).count '{' ≤ (d.elements.flatMap Element.freeText).count '{' := by
  have hdeclaration : (d.declaration.getD {}).render.count '{' = 0 := by
    obtain ⟨kind, direction⟩ := d.declaration.getD {}
    cases kind <;> cases direction <;> decide
  rw [format_eq_sheet hstyle, Style.sheet, count_joined (by decide), List.flatten_cons,
    List.count_append, hdeclaration, Nat.zero_add]
  calc (style.layout 0 (style.written d.elements)).flatten.count '{'
    _ ≤ ((style.written d.elements).flatMap Element.freeText).count '{' :=
      count_layout_le hstyle.indentsBlank rfl 0 (neat_written hstyle hes)
    _ ≤ (d.elements.flatMap Element.freeText).count '{' := count_written_le hstyle d.elements

/-- A text with an init block in it is formatted to another text. -/
theorem find?_of_format_parse {t : Text} (h : (Diagram.parse t).format style = t) :
    InitBlock.find? t = none := by
  cases hfind : InitBlock.find? t with
  | none => rfl
  | some b =>
    have hextract : (InitSettings.extract t).2 = b.remaining := by rw [InitSettings.extract, hfind]
    have hformat := count_format_le hstyle (Diagram.parse t)
      fun e he => (readFrom_of_mem_parse he).readable.neat
    have hparse := count_parse_le (c := '{') (by decide) t
    have hblock := InitBlock.count_remaining_lt hfind
    rw [h] at hformat
    rw [hextract] at hparse
    omega

end

/-! ## Settled elements -/

/-- Whether the canonical line of an element is read as an element with the same line: there are no
blanks for reading to trim off the label of a subgraph, unless quotes keep them, or off the
properties of a class. -/
def Element.Settled : Element → Prop
  | .subgraphStart _ (some label) => '"' ∈ unquote label ∨ trim (unquote label) = unquote label
  | .classDef _ properties =>
    trimEnd (dropEnd (· == ';') properties) = dropEnd (· == ';') properties
  | _ => True

instance : DecidablePred Element.Settled
  | .subgraphStart _ (some label) =>
    inferInstanceAs (Decidable ('"' ∈ unquote label ∨ trim (unquote label) = unquote label))
  | .classDef _ properties => inferInstanceAs (Decidable
      (trimEnd (dropEnd (· == ';') properties) = dropEnd (· == ';') properties))
  | .declaration _ | .comment _ | .node _ | .connection _ | .subgraphStart _ none | .subgraphEnd
  | .classUse _ _ | .linkStyle _ _ | .unrecognized _ => inferInstanceAs (Decidable True)

theorem Node.render_reread (n : Node) : n.reread.render = n.render := by
  obtain ⟨id, label, shape⟩ := n
  cases label with
  | none => rfl
  | some l => simp [render, reread, unquote_requoted]

theorem unquote_trim_requoted_iff (label : Text) :
    unquote (trim (requoted label)) = unquote label ↔
      '"' ∈ unquote label ∨ trim (unquote label) = unquote label := by
  rw [unquote_trim_requoted]
  split
  · next hquote => exact iff_of_true rfl (.inl hquote)
  · next hquote => rw [or_iff_right hquote]

theorem dropEnd_trimEnd_iff (properties : Text) :
    dropEnd (· == ';') (trimEnd (dropEnd (· == ';') properties)) = dropEnd (· == ';') properties ↔
      trimEnd (dropEnd (· == ';') properties) = dropEnd (· == ';') properties := by
  constructor
  · -- the shortest of three prefixes is the longest, so the one between them is too
    intro h
    have hshort := dropEnd_isPrefix (p := (· == ';')) (t := trimEnd (dropEnd (· == ';') properties))
    have hlong := dropEnd_isPrefix (p := isBlank) (t := dropEnd (· == ';') properties)
    rw [h] at hshort
    exact hlong.eq_of_length_le hshort.length_le
  · intro h
    rw [h]
    exact List.rdropWhile_idempotent _ properties

/-- An element is written again as it was just if it is settled. -/
theorem Element.render_reread_iff (e : Element) : e.reread.render = e.render ↔ e.Settled := by
  cases e with
  | node n => exact iff_of_true n.render_reread trivial
  | subgraphStart id label =>
    cases label with
    | none => exact iff_of_true rfl trivial
    | some l =>
      rw [Settled, ← unquote_trim_requoted_iff]
      simp [reread, render]
  | classDef name properties =>
    rw [Settled, ← dropEnd_trimEnd_iff, reread]
    split
    · next hnil =>
      rw [hnil, render, render, hnil]
      exact iff_of_true (trim_renderClassDef name []) rfl
    · simp [render, renderClassDef]
  | _ => exact iff_of_true rfl trivial

/-! ## Tidying twice -/

theorem Element.depth_reread (depth : Nat) (e : Element) :
    e.reread.ownDepth depth = e.ownDepth depth ∧
    e.reread.depthAfter depth = e.depthAfter depth := by
  cases e with
  | classDef name properties => rw [reread]; split <;> exact ⟨rfl, rfl⟩
  | _ => exact ⟨rfl, rfl⟩

theorem layout_map_reread_iff (style : Style) (depth : Nat) (es : List Element) :
    style.layout depth (es.map Element.reread) = style.layout depth es ↔ ∀ e ∈ es, e.Settled := by
  induction es generalizing depth with
  | nil => exact iff_of_true rfl (by simp)
  | cons e es ih =>
    rw [List.map_cons, Style.layout, Style.layout, List.cons.injEq, List.forall_mem_cons,
      (e.depth_reread depth).1, (e.depth_reread depth).2, ih, ← Element.render_reread_iff,
      Style.indented, Style.indented, List.append_cancel_left_eq]

/-- Sheets are the same just if their layouts are. -/
theorem sheet_inj {style : Style} (hstyle : style.IndentsBlank) {d : Declaration}
    {es es' : List Element} (hes : ∀ e ∈ es, e.Neat) (hline : ∀ e ∈ es, '\n' ∉ e.freeText)
    (hes' : ∀ e ∈ es', e.Neat) (hline' : ∀ e ∈ es', '\n' ∉ e.freeText) :
    style.sheet d es = style.sheet d es' ↔ style.layout 0 es = style.layout 0 es' := by
  refine ⟨fun h => ?_, fun h => by rw [Style.sheet, h, Style.sheet]⟩
  have hlines := congrArg lines h
  rw [lines_sheet hstyle hes hline, lines_sheet hstyle hes' hline'] at hlines
  exact (List.cons.inj hlines).2

/-- Tidying leaves a text as it is exactly if formatting does. -/
theorem tidy_eq_self_iff (style : Style) (t : Text) :
    tidy style t = .ok { formatted := t, changed := false } ↔
    (Diagram.parse t).format style = t := by
  constructor
  · intro h
    exact (ok_of_tidy h).1.symm
  · intro h
    rw [tidy, h, Diagram.roundTrip?, Signature.difference?_self]
    simp

section
variable {style : Style} (hstyle : style.Standard)
include hstyle

/-- What is written is settled just if the elements that are not replaced are. -/
theorem settled_written_iff (es : List Element) :
    (∀ e ∈ style.written es, e.Settled) ↔
      ∀ e ∈ es, (style.enforce = true → e.isContent = true) → e.Settled := by
  constructor
  · intro h e he hcontent
    cases henforce : style.enforce with
    | false =>
      rw [written_of_not_enforce henforce] at h
      exact h e he
    | true =>
      have hfilter : e ∈ es.filter Element.isContent := List.mem_filter.mpr ⟨he, hcontent henforce⟩
      rw [← content_written hstyle] at hfilter
      exact h e (List.mem_of_mem_filter hfilter)
  · intro h e he
    rcases mem_written hstyle he with ⟨hmem, hcontent⟩ | ⟨-, kind, hcanonical⟩
    · exact h e hmem hcontent
    · exact e.render_reread_iff.mp (congrArg Element.render hcanonical.reread)

/-- Formatting a formatted text without an init block leaves it as it is exactly if all that was
written is settled. -/
theorem format_formatted_iff {t : Text} {o : Tidied} (h : tidy style t = .ok o)
    (hsize : style.enforce = true → (Diagram.parse t).connections.length ≤ Nat.pow 2 64)
    (hfind : InitBlock.find? o.formatted = none) :
    (Diagram.parse o.formatted).format style = o.formatted ↔
      ∀ e ∈ style.written (Diagram.parse t).elements, e.Settled := by
  have hformatted := (ok_of_tidy h).1
  obtain ⟨-, hdeclaration, helements⟩ :=
    parse_formatted_of_ok hstyle (hformatted ▸ hfind) h hsize
  have hreread : ∀ e ∈ (style.written (Diagram.parse t).elements).map Element.reread,
      e.ReadFrom (InitSettings.extract o.formatted).2 := by
    rw [← helements]
    exact fun e he => readFrom_of_mem_parse he
  rw [format_eq_sheet hstyle, hdeclaration, helements, written_map_reread hstyle, hformatted,
    format_eq_sheet hstyle, ← layout_map_reread_iff style 0]
  refine sheet_inj hstyle.indentsBlank (fun e he => (hreread e he).readable.neat)
    (fun e he => (hreread e he).line) ?_ ?_
  · exact neat_written hstyle fun e he => (readFrom_of_mem_parse he).readable.neat
  · exact newline_written hstyle fun e he => (readFrom_of_mem_parse he).line

end

/-- Tidying what was tidied changes nothing exactly if no init block is found in it and all elements
that are not replaced are settled. A text in which no mark of an init block is left is formatted
without one. -/
theorem tidy_formatted_iff {style : Style} (hstyle : style.Standard) {t : Text} {o : Tidied}
    (hsize : style.enforce = true → (Diagram.parse t).connections.length ≤ Nat.pow 2 64)
    (h : tidy style t = .ok o) :
    (tidy style o.formatted = .ok { formatted := o.formatted, changed := false } ↔
      InitBlock.find? o.formatted = none ∧
        ∀ e ∈ (Diagram.parse t).elements, (style.enforce = true → e.isContent = true) → e.Settled) ∧
    (holds (InitSettings.extract t).2 InitBlock.openingMark = false →
      InitBlock.find? o.formatted = none) := by
  rw [tidy_eq_self_iff, ← settled_written_iff hstyle]
  refine ⟨⟨fun hself => ?_, fun hsettled => ?_⟩, fun hmark => ?_⟩
  · have hfind := find?_of_format_parse hstyle hself
    exact ⟨hfind, (format_formatted_iff hstyle h hsize hfind).mp hself⟩
  · exact (format_formatted_iff hstyle h hsize hsettled.1).mpr hsettled.2
  · rw [(ok_of_tidy h).1]
    exact find?_format_parse hstyle hmark

/-- The blanks in a label stay because of the quote inside it, and of two semicolons with no blank
between them one is left. -/
theorem tidy_formatted_iff_quote :
    let t := "subgraph s[\" x\"y \"]\nclassDef a b;;".toList
    ∃ o, tidy .passthrough t = .ok o ∧
      tidy .passthrough o.formatted = .ok { formatted := o.formatted, changed := false } := by
  intro t
  have hok : (tidy .passthrough t).toBool = true := by decide +kernel
  have hmark : holds (InitSettings.extract t).2 InitBlock.openingMark = false := by decide +kernel
  have hsettled : ∀ e ∈ (Diagram.parse t).elements, e.Settled := by decide +kernel
  obtain ⟨o, ho⟩ := exists_ok_of_toBool hok
  obtain ⟨hiff, hfind⟩ := tidy_formatted_iff Style.standard_passthrough (fun h => nomatch h) ho
  exact ⟨o, ho, hiff.mpr ⟨hfind hmark, fun e he _ => hsettled e he⟩⟩

/-- Blanks inside the quotes of a subgraph's label, blanks before the last semicolon of class
properties, and a second init block are gone only the second time. In the texts `\x7b` and `\x7d`
are the braces. -/
theorem tidy_twice_changes :
    (tidy .default "subgraph a[\" x]".toList =
        .ok ⟨"flowchart TB\n  subgraph a[\" x\"]".toList, true⟩ ∧
      tidy .default "flowchart TB\n  subgraph a[\" x\"]".toList =
        .ok ⟨"flowchart TB\n  subgraph a[\"x\"]".toList, true⟩) ∧
    (tidy .passthrough "classDef a b ; ;".toList =
        .ok ⟨"flowchart TB\n  classDef a b ;".toList, true⟩ ∧
      tidy .passthrough "flowchart TB\n  classDef a b ;".toList =
        .ok ⟨"flowchart TB\n  classDef a b;".toList, true⟩) ∧
    (tidy .default "%%\x7binit: \x7b\x7d\x7d%%\n%%%%\x7binit: \x7b\x7d\x7d%%".toList =
        .ok ⟨"flowchart TB\n  %% %%\x7binit: \x7b\x7d\x7d%%".toList, true⟩ ∧
      tidy .default "flowchart TB\n  %% %%\x7binit: \x7b\x7d\x7d%%".toList =
        .ok ⟨"flowchart TB\n  %%".toList, true⟩) := by
  decide +kernel

end FlowTidy
