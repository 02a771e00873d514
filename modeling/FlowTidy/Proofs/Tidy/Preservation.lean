import FlowTidy.Proofs.Tidy.Guard
import Mathlib.Data.List.Forall2

/-!
What tidying keeps. The elements of a tidied text correspond to those of the input one to one and in
order: all of them without enforced styling, and all that are not styles with it. Quotes around
labels, blanks around the labels of subgraphs, and blanks and semicolons after class properties are
all that may differ.
-/

namespace FlowTidy

open Text

/-! ## Corresponding elements -/

/-- The properties of a class without the semicolons and blanks at the end. -/
def trimProperties (properties : Text) : Text := dropEnd (fun c => c == ';' || isBlank c) properties

/-- Whether two elements say the same: quotes around labels, blanks around the labels of subgraphs,
the shape of a node without a label, and the end of class properties are left aside. -/
def Element.Corresponds : Element → Element → Prop
  | .declaration d, .declaration d' => d = d'
  | .comment text, .comment text' => text = text'
  | .node n, .node n' => n.id = n'.id ∧ n.label.map unquote = n'.label.map unquote ∧
      (n.label ≠ none → n.shape = n'.shape)
  | .connection c, .connection c' => c = c'
  | .subgraphStart id label, .subgraphStart id' label' => id = id' ∧
      (label.map fun l => trim (unquote l)) = label'.map fun l => trim (unquote l)
  | .subgraphEnd, .subgraphEnd => True
  | .classDef name properties, .classDef name' properties' => name = name' ∧
      trimProperties properties = trimProperties properties'
  | .classUse ids className, .classUse ids' className' => ids = ids' ∧ className = className'
  | .linkStyle indices properties, .linkStyle indices' properties' => indices = indices' ∧
      properties = properties'
  | .unrecognized text, .unrecognized text' => text = text'
  | _, _ => False

theorem dropEnd_dropEnd_of_imp {p q : Char → Bool} (h : ∀ c, p c = true → q c = true) (t : Text) :
    dropEnd q (dropEnd p t) = dropEnd q t := by
  have hend : ∀ c ∈ (t.rtakeWhile p).reverse, q c = true := fun c hc =>
    h c (List.mem_rtakeWhile_imp (List.mem_reverse.mp hc))
  calc dropEnd q (dropEnd p t)
    _ = ((dropEnd p t).reverse.dropWhile q).reverse := rfl
    _ = (((t.rtakeWhile p).reverse ++ (dropEnd p t).reverse).dropWhile q).reverse := by
      rw [List.dropWhile_append_of_pos hend]
    _ = dropEnd q (t.rdropWhile p ++ t.rtakeWhile p) := by
      rw [← List.reverse_append]
      rfl
    _ = dropEnd q t := by rw [List.rdropWhile_append_rtakeWhile]

theorem trimProperties_trimEnd (properties : Text) :
    trimProperties (trimEnd (dropEnd (· == ';') properties)) = trimProperties properties := by
  rw [trimProperties, trimEnd, dropEnd_dropEnd_of_imp (by simp +contextual),
    dropEnd_dropEnd_of_imp (by simp +contextual), trimProperties]

/-- A label that is read back is the same but for quotes and blanks around it. -/
theorem trim_unquote_requoted (label : Text) :
    trim (unquote (trim (requoted label))) = trim (unquote label) := by
  rw [unquote_trim_requoted]
  split
  · rfl
  · exact trim_trim _

/-- An element corresponds to what its canonical line reads as. -/
theorem Element.corresponds_reread {e : Element}
    (h : ∀ name properties, e = .classDef name properties → dropEnd (· == ';') properties ≠ []) :
    e.Corresponds e.reread := by
  cases e with
  | node n =>
    obtain ⟨id, label, shape⟩ := n
    cases label with
    | none => exact ⟨rfl, rfl, fun h => absurd rfl h⟩
    | some l => exact ⟨rfl, congrArg some (unquote_requoted l).symm, fun _ => rfl⟩
  | subgraphStart id label =>
    refine ⟨rfl, ?_⟩
    cases label with
    | none => rfl
    | some l => exact congrArg some (trim_unquote_requoted l).symm
  | classDef name properties =>
    rw [reread, if_neg (h name properties rfl)]
    exact ⟨rfl, (trimProperties_trimEnd properties).symm⟩
  | classUse | linkStyle => exact ⟨rfl, rfl⟩
  | subgraphEnd => trivial
  | declaration | comment | connection | unrecognized => rfl

/-! ## Tidied texts -/

/-- Content is read back as content and styles as styles, if no class definition loses all
properties. -/
theorem isContent_reread {e : Element}
    (h : ∀ name properties, e = .classDef name properties → dropEnd (· == ';') properties ≠ []) :
    e.reread.isContent = e.isContent := by
  cases e with
  | classDef name properties =>
    rw [Element.reread, if_neg (h name properties rfl)]
    rfl
  | _ => rfl

theorem filter_isContent_map_reread {es : List Element}
    (h : ∀ name properties, .classDef name properties ∈ es → dropEnd (· == ';') properties ≠ []) :
    (es.map Element.reread).filter Element.isContent =
      (es.filter Element.isContent).map Element.reread := by
  rw [List.filter_map]
  refine congrArg (List.map _) (List.filter_congr fun e he => ?_)
  exact isContent_reread fun name properties heq => h name properties (heq ▸ he)

theorem forall₂_corresponds_map_reread {es : List Element}
    (h : ∀ name properties, .classDef name properties ∈ es → dropEnd (· == ';') properties ≠ []) :
    List.Forall₂ Element.Corresponds es (es.map Element.reread) := by
  rw [List.forall₂_map_right_iff]
  refine List.forall₂_same.mpr fun e he => ?_
  exact Element.corresponds_reread fun name properties heq => h name properties (heq ▸ he)

/-- A tidied diagram is its canonical text. -/
theorem ok_of_tidy {style : Style} {t : Text} {o : Tidied} (h : tidy style t = .ok o) :
    o.formatted = (Diagram.parse t).format style ∧
      o.changed = decide (trim ((Diagram.parse t).format style) ≠ trim t) := by
  rw [tidy] at h
  split at h
  · contradiction
  · obtain rfl := Except.ok.inj h
    exact ⟨rfl, rfl⟩

section
variable {style : Style} (hstyle : style.Standard) {t : Text} {o : Tidied}
  (hfind : InitBlock.find? ((Diagram.parse t).format style) = none) (h : tidy style t = .ok o)
include hstyle hfind h

/-- Nothing is lost by tidying. -/
theorem isLost_of_ok : ∀ e ∈ (Diagram.parse t).elements, e.isLost = false := by
  rw [tidy_of_find? hstyle hfind] at h
  split at h
  · next hzero =>
    intro e he
    cases e with
    | node n =>
      have hn : n ∈ (Diagram.parse t).nodes := List.mem_filterMap.mpr ⟨.node n, he, rfl⟩
      have hlost := List.countP_eq_zero.mp hzero n hn
      rwa [Bool.not_eq_true] at hlost
    | _ => rfl
  · contradiction

/-- A tidied text is read as what was written, reread. -/
theorem parse_formatted_of_ok
    (hsize : style.enforce = true → (Diagram.parse t).connections.length ≤ Nat.pow 2 64) :
    (Diagram.parse o.formatted).init = none ∧
      (Diagram.parse o.formatted).declaration = some ((Diagram.parse t).declaration.getD {}) ∧
      (Diagram.parse o.formatted).elements =
        (style.written (Diagram.parse t).elements).map Element.reread := by
  have hread : ∀ e ∈ (Diagram.parse t).elements, e.ReadFrom (InitSettings.extract t).2 :=
    fun e he => readFrom_of_mem_parse he
  have hlost := isLost_of_ok hstyle hfind h
  rw [(ok_of_tidy h).1]
  rw [format_eq_sheet hstyle] at hfind ⊢
  exact parse_sheet hstyle.indentsBlank
    (readable_written hstyle (fun e he => (hread e he).readable) hsize)
    (isLost_written hstyle hlost) (declaration?_written hstyle fun e he => (hread e he).body)
    (newline_written hstyle fun e he => (hread e he).line) hfind

end

theorem exists_ok_of_toBool {ε α : Type} {x : Except ε α} (h : x.toBool = true) :
    ∃ a, x = .ok a := by
  cases x with
  | error => contradiction
  | ok a => exact ⟨a, rfl⟩

/-- Tidying loses, adds and reorders nothing but styles, and nothing at all without enforced
styling. Class definitions whose properties are semicolons alone are left out, and so are diagrams
with more connections than there are positions, which no text in memory has. -/
theorem tidy_keeps_elements {style : Style} (hstyle : style.Standard) {t : Text} {o : Tidied}
    (hmark : holds (InitSettings.extract t).2 InitBlock.openingMark = false)
    (hsize : style.enforce = true → (Diagram.parse t).connections.length ≤ Nat.pow 2 64)
    (hclass : style.enforce = false → ∀ name properties,
      .classDef name properties ∈ (Diagram.parse t).elements → ∃ c ∈ properties, c ≠ ';')
    (h : tidy style t = .ok o) :
    (Diagram.parse o.formatted).declaration = some ((Diagram.parse t).declaration.getD {}) ∧
    List.Forall₂ Element.Corresponds ((Diagram.parse t).elements.filter Element.isContent)
      ((Diagram.parse o.formatted).elements.filter Element.isContent) ∧
    (style.enforce = false → List.Forall₂ Element.Corresponds (Diagram.parse t).elements
      (Diagram.parse o.formatted).elements) := by
  have hfind := find?_format_parse hstyle hmark
  obtain ⟨-, hdeclaration, helements⟩ := parse_formatted_of_ok hstyle hfind h hsize
  have hwritten : ∀ name properties, .classDef name properties ∈
      style.written (Diagram.parse t).elements → dropEnd (· == ';') properties ≠ [] := by
    intro name properties hmem
    rcases mem_written hstyle hmem with ⟨hmem, hcontent⟩ | ⟨-, kind, hcanonical⟩
    · cases henforce : style.enforce with
      | true => exact absurd (hcontent henforce) (by simp [Element.isContent, Element.styleKind?])
      | false =>
        obtain ⟨c, hc, hne⟩ := hclass henforce name properties hmem
        intro hnil
        exact hne (beq_iff_eq.mp (List.rdropWhile_eq_nil_iff.mp hnil c hc))
    · cases hcanonical with
      | classDef hname hproperties =>
        obtain ⟨hne, -, hlast, -⟩ := defaultTexts (List.mem_append_left _ hproperties)
        rwa [dropEnd_of_getLast?_ne hlast]
  rw [helements]
  refine ⟨hdeclaration, ?_, fun henforce => ?_⟩
  · rw [filter_isContent_map_reread hwritten, content_written hstyle]
    exact forall₂_corresponds_map_reread fun name properties hmem =>
      absurd (List.of_mem_filter hmem) (by simp [Element.isContent, Element.styleKind?])
  · rw [written_of_not_enforce henforce] at hwritten ⊢
    exact forall₂_corresponds_map_reread hwritten

/-- The label of a subgraph without its blanks, and content of several forms. A class use is not
content. -/
theorem tidy_keeps_elements_subgraph :
    let t := "graph LR\n%% note\nsubgraph s[ y ]\nA --> B\nend\nA[\"x\"]\nclass A b".toList
    ∃ o, tidy .default t = .ok o ∧
      (Diagram.parse o.formatted).declaration = some ⟨.graph, .leftRight⟩ ∧
      List.Forall₂ Element.Corresponds
        [.comment "note".toList, .subgraphStart ['s'] (some ['y']),
          .connection ⟨['A'], ['B'], .solid, none⟩, .subgraphEnd,
          .node ⟨['A'], some ['x'], .rectangle⟩]
        ((Diagram.parse o.formatted).elements.filter Element.isContent) := by
  intro t
  have hok : (tidy .default t).toBool = true := by decide +kernel
  have hdeclaration : (Diagram.parse t).declaration.getD {} = ⟨.graph, .leftRight⟩ := by
    decide +kernel
  have helements : (Diagram.parse t).elements.filter Element.isContent =
      [.comment "note".toList, .subgraphStart ['s'] (some ['y']),
        .connection ⟨['A'], ['B'], .solid, none⟩, .subgraphEnd,
        .node ⟨['A'], some ['x'], .rectangle⟩] := by decide +kernel
  obtain ⟨o, ho⟩ := exists_ok_of_toBool hok
  have hmark : holds (InitSettings.extract t).2 InitBlock.openingMark = false := by decide +kernel
  have hsize : (Diagram.parse t).connections.length ≤ Nat.pow 2 64 := by decide +kernel
  have hkeeps := tidy_keeps_elements Style.standard_default hmark (fun _ => hsize)
    (fun h => nomatch h) ho
  rw [hdeclaration, helements] at hkeeps
  exact ⟨o, ho, hkeeps.1, hkeeps.2.1⟩

end FlowTidy
