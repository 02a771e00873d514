import FlowTidy.Diagram.Tidy
import FlowTidy.Proofs.Diagram.Reparsing

/-!
When tidying fails. A formatted diagram has the connections of the diagram and all of its nodes but
the lost ones (`signature_parse_format`), so the comparison of signatures fails exactly if there is
a lost node, and then at the number of nodes.
-/

namespace FlowTidy

open Text

/-! ## Nodes and connections on canonical lines -/

namespace Element

theorem ofLine_render_of_isLost {e : Element} (h : e.isLost = true) :
    (ofLine e.render).node? = none ∧ (ofLine e.render).connection? = none := by
  cases e with
  | node n =>
    obtain ⟨id, label, shape⟩ := n
    cases label with
    | some l => contradiction
    | none =>
      have hid : isReserved id = true := h
      rcases ofLine_of_isReserved hid with hline | ⟨d, hline⟩
      · exact ⟨congrArg node? hline, congrArg connection? hline⟩
      · exact ⟨congrArg node? hline, congrArg connection? hline⟩
  | _ => contradiction

/-- A node is read back unless it is lost. -/
theorem node?_ofLine_render {e : Element} (h : e.Readable) :
    (ofLine e.render).node? = (e.node?.filter fun n => !n.isLost).map Node.reread := by
  cases hlost : e.isLost with
  | true =>
    rw [(ofLine_render_of_isLost hlost).1]
    cases e with
    | node n =>
      have hn : n.isLost = true := hlost
      simp [node?, Option.filter, hn]
    | _ => contradiction
  | false =>
    rw [ofLine_render h hlost]
    cases e with
    | node n =>
      have hn : n.isLost = false := hlost
      simp [node?, reread, Option.filter, hn]
    | classDef name properties => rw [reread]; split <;> rfl
    | _ => rfl

theorem connection?_ofLine_render {e : Element} (h : e.Readable) :
    (ofLine e.render).connection? = e.connection? := by
  cases hlost : e.isLost with
  | true =>
    rw [(ofLine_render_of_isLost hlost).2]
    cases e with
    | node n => rfl
    | _ => contradiction
  | false => rw [ofLine_render h hlost, e.parts_reread.2.2]

end Element

/-- Canonical styles are no nodes and no connections, even if they are not readable because a
position is too large. -/
theorem IsCanonical.ofLine_render {es : List Element} {kind : StyleKind} {e : Element}
    (h : IsCanonical es kind e) (hes : ∀ x ∈ es, x.Neat) :
    (Element.ofLine e.render).node? = none ∧ (Element.ofLine e.render).connection? = none := by
  by_cases hkind : kind = .linkStyle
  · subst hkind
    cases h with
    | linkStyle => exact Element.ofLine_of_word (lead_render_linkStyle _ _)
  · have hreadable := h.readable hes fun hk => absurd hk hkind
    rw [Element.node?_ofLine_render hreadable, Element.connection?_ofLine_render hreadable]
    cases h <;> exact ⟨rfl, rfl⟩

/-! ## Signatures of formatted diagrams -/

section
variable {style : Style} (hstyle : style.Standard) {d : Diagram}
  (hreadable : ∀ e ∈ d.elements, e.Readable) (hnewline : ∀ e ∈ d.elements, '\n' ∉ e.freeText)
  (hfind : InitBlock.find? (d.format style) = none)
include hstyle hreadable hnewline hfind

theorem filterMap_parse_format {β : Type} {f g : Element → Option β}
    (hdeclaration : ∀ e, e.declaration? ≠ none → f e = none)
    (hf : ∀ e ∈ style.written d.elements, f (Element.ofLine e.render) = g e) :
    (Diagram.parse (d.format style)).elements.filterMap f =
      (style.written d.elements).filterMap g := by
  have hes : ∀ e ∈ d.elements, e.Neat := fun e he => (hreadable e he).neat
  rw [format_eq_sheet hstyle] at hfind ⊢
  rw [elements_parse_sheet hstyle.indentsBlank (neat_written hstyle hes)
    (newline_written hstyle hnewline) hfind, List.filterMap_filter]
  have hall : ∀ e : Element, (if e.declaration?.isNone = true then f e else none) = f e := by
    intro e
    split
    · rfl
    · next h => exact (hdeclaration e (by simpa using h)).symm
  rw [List.filterMap_congr fun e _ => hall e, List.filterMap_map]
  exact List.filterMap_congr fun e he => hf e he

/-- The nodes of a canonical text are those of the diagram but for the lost ones. -/
theorem nodes_parse_format :
    (Diagram.parse (d.format style)).nodes =
      (d.nodes.filter fun n => !n.isLost).map Node.reread := by
  have hes : ∀ e ∈ d.elements, e.Neat := fun e he => (hreadable e he).neat
  have hnode : ∀ e ∈ style.written d.elements, (Element.ofLine e.render).node? =
      (e.node?.filter fun n => !n.isLost).map Node.reread := by
    refine forall_written hstyle (fun e he => Element.node?_ofLine_render (hreadable e he)) ?_
    intro _ kind e h
    rw [(h.ofLine_render hes).1, (Element.parts_of_style h.styleKind?).1]
    rfl
  rw [Diagram.nodes, filterMap_parse_format hstyle hreadable hnewline hfind ?_ hnode,
    ← List.map_filterMap, ← List.filter_filterMap,
    filterMap_written hstyle _ fun _ _ h => (Element.parts_of_style h).1]
  · rfl
  · intro e he
    cases e with
    | declaration => rfl
    | _ => exact absurd rfl he

theorem connections_parse_format :
    (Diagram.parse (d.format style)).connections = d.connections := by
  have hes : ∀ e ∈ d.elements, e.Neat := fun e he => (hreadable e he).neat
  have hconnection : ∀ e ∈ style.written d.elements,
      (Element.ofLine e.render).connection? = e.connection? := by
    refine forall_written hstyle
      (fun e he => Element.connection?_ofLine_render (hreadable e he)) ?_
    intro _ kind e h
    rw [(h.ofLine_render hes).2, (Element.parts_of_style h.styleKind?).2.1]
  rw [Diagram.connections, filterMap_parse_format hstyle hreadable hnewline hfind ?_ hconnection,
    connections_written hstyle]
  · rfl
  · intro e he
    cases e with
    | declaration => rfl
    | _ => exact absurd rfl he

end

/-! ## Comparing signatures -/

theorem firstChange?_self {α : Type} [DecidableEq α] (xs : List α) : firstChange? xs xs = none := by
  rw [firstChange?, Option.map_eq_none_iff, List.find?_eq_none]
  rintro ⟨⟨x, y⟩, i⟩ h
  have hzip := List.fst_mem_of_mem_zipIdx h
  rw [List.zip_eq_zipWith, List.zipWith_self, List.mem_map] at hzip
  obtain ⟨z, -, heq⟩ := hzip
  obtain ⟨rfl, rfl⟩ := Prod.mk.inj heq
  simp

theorem Signature.difference?_self (s : Signature) : s.difference? s = none := by
  simp [difference?, firstChange?_self]

theorem Node.signature_reread (n : Node) :
    (n.reread.id, n.reread.label.map unquote) = (n.id, n.label.map unquote) := by
  obtain ⟨id, label, shape⟩ := n
  cases label with
  | none => rfl
  | some l => simp [reread, unquote_requoted]

theorem filter_isLost_of_countP {nodes : List Node} (h : nodes.countP Node.isLost = 0) :
    nodes.filter (fun n => !n.isLost) = nodes := by
  rw [List.filter_eq_self]
  intro n hn
  simpa using List.countP_eq_zero.mp h n hn

section
variable {style : Style} (hstyle : style.Standard) {t : Text}
include hstyle

/-- A text without a second mark of an init block is formatted without one. -/
theorem find?_format_parse
    (hmark : holds (InitSettings.extract t).2 InitBlock.openingMark = false) :
    InitBlock.find? ((Diagram.parse t).format style) = none := by
  rw [format_eq_sheet hstyle]
  refine find?_sheet_written hstyle (fun e he => (readFrom_of_mem_parse he).readable.neat) ?_ _
  exact fun e he hin => not_infix_of_holds hmark (hin.trans (readFrom_of_mem_parse he).free)

/-- The formatted text has the signature of the diagram without its lost nodes. -/
theorem signature_parse_format (hfind : InitBlock.find? ((Diagram.parse t).format style) = none) :
    (Diagram.parse ((Diagram.parse t).format style)).signature =
      { nodes := ((Diagram.parse t).nodes.filter fun n => !n.isLost).map
          fun n => (n.id, n.label.map unquote)
        connections := (Diagram.parse t).connections } := by
  have hreadable : ∀ e ∈ (Diagram.parse t).elements, e.Readable :=
    fun e he => (readFrom_of_mem_parse he).readable
  have hnewline : ∀ e ∈ (Diagram.parse t).elements, '\n' ∉ e.freeText :=
    fun e he => (readFrom_of_mem_parse he).line
  rw [Diagram.signature, nodes_parse_format hstyle hreadable hnewline hfind,
    connections_parse_format hstyle hreadable hnewline hfind, List.map_map]
  exact congrArg (Signature.mk · _) (List.map_congr_left fun n _ => n.signature_reread)

/-- The comparison fails at the number of nodes, or not at all. -/
theorem roundTrip?_format (hfind : InitBlock.find? ((Diagram.parse t).format style) = none) :
    (Diagram.parse t).roundTrip? ((Diagram.parse t).format style) =
      if (Diagram.parse t).nodes.countP Node.isLost = 0 then none
      else some (.nodeCount (Diagram.parse t).nodes.length
        ((Diagram.parse t).nodes.length - (Diagram.parse t).nodes.countP Node.isLost)) := by
  rw [Diagram.roundTrip?, signature_parse_format hstyle hfind]
  generalize Diagram.parse t = d
  have hcount : (d.nodes.filter fun n => !n.isLost).length =
      d.nodes.length - d.nodes.countP Node.isLost := by
    have hsplit := List.length_eq_countP_add_countP Node.isLost (l := d.nodes)
    rw [← List.countP_eq_length_filter]
    simp only [Bool.not_eq_true, Bool.decide_eq_false] at hsplit
    omega
  split
  · next hzero =>
    rw [filter_isLost_of_countP hzero]
    exact Signature.difference?_self d.signature
  · next hlost =>
    have hle := List.countP_le_length (p := Node.isLost) (l := d.nodes)
    have hne : d.signature.nodes.length ≠
        ((d.nodes.filter fun n => !n.isLost).map fun n => (n.id, n.label.map unquote)).length := by
      rw [Diagram.signature, List.length_map, List.length_map, hcount]
      omega
    rw [Signature.difference?, if_pos hne, List.length_map, hcount, Diagram.signature,
      List.length_map]

/-- If no init block is found in the canonical text, tidying fails just if nodes are lost. -/
theorem tidy_of_find? (hfind : InitBlock.find? ((Diagram.parse t).format style) = none) :
    tidy style t =
      if (Diagram.parse t).nodes.countP Node.isLost = 0 then
        .ok {
          formatted := (Diagram.parse t).format style
          changed := trim ((Diagram.parse t).format style) ≠ trim t }
      else
        .error (.nodeCount (Diagram.parse t).nodes.length
          ((Diagram.parse t).nodes.length - (Diagram.parse t).nodes.countP Node.isLost)) := by
  rw [tidy, roundTrip?_format hstyle hfind]
  by_cases hzero : (Diagram.parse t).nodes.countP Node.isLost = 0
  · rw [if_pos hzero, if_pos hzero]
  · rw [if_neg hzero, if_neg hzero]

end

/-- Tidying fails exactly if there is a node without a label whose identifier is a reserved word. It
then names the number of nodes and how many would be left. If it does not fail, the formatted text
has the nodes and connections of the input. -/
theorem tidy_error_iff_reserved {style : Style} (hstyle : style.Standard) {t : Text}
    (hmark : holds (InitSettings.extract t).2 InitBlock.openingMark = false) :
    ((∃ fault, tidy style t = .error fault) ↔
      ∃ n ∈ (Diagram.parse t).nodes, n.label = none ∧ isReserved n.id = true) ∧
    (∀ fault, tidy style t = .error fault →
      let before := (Diagram.parse t).nodes.length
      let after := before - (Diagram.parse t).nodes.countP
        fun n => n.label.isNone && isReserved n.id
      fault = .nodeCount before after ∧ fault.message =
        "node count changed from ".toList ++ Text.ofNat before ++ " to ".toList ++
          Text.ofNat after) ∧
    ∀ o, tidy style t = .ok o →
      (Diagram.parse o.formatted).signature = (Diagram.parse t).signature := by
  have hfind := find?_format_parse hstyle hmark
  have hlost : (∃ n ∈ (Diagram.parse t).nodes, n.label = none ∧ isReserved n.id = true) ↔
      (Diagram.parse t).nodes.countP Node.isLost ≠ 0 := by
    rw [Ne, List.countP_eq_zero]
    simp [Node.isLost]
  rw [tidy_of_find? hstyle hfind, hlost]
  by_cases hzero : (Diagram.parse t).nodes.countP Node.isLost = 0
  · rw [if_pos hzero]
    refine ⟨by simp [hzero], by simp, fun o ho => ?_⟩
    obtain rfl := Except.ok.inj ho
    have hkept : (Diagram.parse t).nodes.filter (fun n => !n.isLost) = (Diagram.parse t).nodes :=
      filter_isLost_of_countP hzero
    rw [signature_parse_format hstyle hfind, hkept]
    rfl
  · rw [if_neg hzero]
    refine ⟨by simp [hzero], fun fault hfault => ?_, by simp⟩
    obtain rfl := Except.error.inj hfault
    exact ⟨rfl, rfl⟩

/-- A node that is named like the end of a subgraph, with an empty label, is lost. -/
theorem tidy_error_iff_reserved_end :
    holds (InitSettings.extract "end[\"\"]\nA[x]".toList).2 InitBlock.openingMark = false ∧
      ∃ fault, tidy .default "end[\"\"]\nA[x]".toList = .error fault ∧
        fault.message = "node count changed from 2 to 1".toList := by
  have hmark : holds (InitSettings.extract "end[\"\"]\nA[x]".toList).2 InitBlock.openingMark =
      false := by decide
  obtain ⟨hiff, hfault, -⟩ := tidy_error_iff_reserved Style.standard_default hmark
  obtain ⟨fault, h⟩ := hiff.mpr ⟨⟨"end".toList, none, .rectangle⟩, by decide +kernel, rfl, rfl⟩
  exact ⟨hmark, fault, h, (hfault fault h).2.trans (by decide +kernel)⟩

end FlowTidy
