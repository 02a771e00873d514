import FlowTidy.Proofs.Style.Nodes
import FlowTidy.Proofs.Tidy.Preservation

/-!
Enforced styling is right for the text that it is written into. The canonical styles are made for a
diagram before it is written, but they are read in the text that was written. There the link styles
name each connection once and give it the style of its category, and the class uses name each node
once under its class, because writing and reading back keeps the connections and the classes of
nodes.
-/

namespace FlowTidy

open Text

/-! ## Positions and classes -/

theorem mem_linkPositions_iff {category : LinkCategory} {connections : List Connection} {k : Nat} :
    k ∈ linkPositions category connections ↔
      ∃ c, connections[k]? = some c ∧ c.category = category := by
  simp only [linkPositions, List.mem_map, List.mem_filter, List.mem_zipIdx_iff_getElem?,
    decide_eq_true_eq]
  constructor
  · rintro ⟨⟨c, j⟩, ⟨hc, hcategory⟩, rfl⟩
    exact ⟨c, hc, hcategory⟩
  · rintro ⟨c, hc, hcategory⟩
    exact ⟨(c, k), ⟨hc, hcategory⟩, rfl⟩

theorem nodup_linkPositions (category : LinkCategory) (connections : List Connection) :
    (linkPositions category connections).Nodup := by
  have hall : (connections.zipIdx.map Prod.snd).Nodup := by
    rw [List.zipIdx_map_snd]
    exact List.nodup_range'
  exact hall.sublist (List.filter_sublist.map Prod.snd)

theorem disjoint_linkPositions {a b : LinkCategory} (hne : a ≠ b) {connections : List Connection} :
    ∀ i ∈ linkPositions a connections, ∀ j ∈ linkPositions b connections, i ≠ j := by
  rintro i hi j hj rfl
  obtain ⟨c, hc, rfl⟩ := mem_linkPositions_iff.mp hi
  obtain ⟨c', hc', rfl⟩ := mem_linkPositions_iff.mp hj
  rw [hc] at hc'
  exact hne (congrArg Connection.category (Option.some.inj hc'))

/-- Each connection has a position in exactly one category. -/
theorem perm_linkPositions (connections : List Connection) :
    (linkPositions .main connections ++ (linkPositions .workflow connections ++
      linkPositions .crossReference connections)).Perm (List.range connections.length) := by
  have hdotted : (linkPositions .workflow connections ++
      linkPositions .crossReference connections).Nodup :=
    List.nodup_append.mpr ⟨nodup_linkPositions _ _, nodup_linkPositions _ _,
      disjoint_linkPositions (by decide)⟩
  have hnodup : (linkPositions .main connections ++ (linkPositions .workflow connections ++
      linkPositions .crossReference connections)).Nodup := by
    refine List.nodup_append.mpr ⟨nodup_linkPositions _ _, hdotted, fun i hi j hj => ?_⟩
    rcases List.mem_append.mp hj with hj | hj
    · exact disjoint_linkPositions (by decide) i hi j hj
    · exact disjoint_linkPositions (by decide) i hi j hj
  refine (List.perm_ext_iff_of_nodup hnodup List.nodup_range).mpr fun k => ?_
  simp only [List.mem_append, mem_linkPositions_iff, List.mem_range]
  constructor
  · rintro (⟨c, hc, -⟩ | ⟨c, hc, -⟩ | ⟨c, hc, -⟩) <;> exact (List.getElem?_eq_some_iff.mp hc).1
  · intro hk
    have hc : connections[k]? = some connections[k] := List.getElem?_eq_getElem hk
    cases hcategory : connections[k].category with
    | main => exact .inl ⟨_, hc, hcategory⟩
    | workflow => exact .inr (.inl ⟨_, hc, hcategory⟩)
    | crossReference => exact .inr (.inr ⟨_, hc, hcategory⟩)

/-! ## Styles of a diagram -/

def Element.linkStyle? : Element → Option (List Nat × Text)
  | .linkStyle positions properties => some (positions, properties)
  | _ => none

def Element.classUse? : Element → Option (List Text × Text)
  | .classUse ids name => some (ids, name)
  | _ => none

def Element.classDef? : Element → Option (Text × Text)
  | .classDef name properties => some (name, properties)
  | _ => none

/-- The properties that a style has for the connections of a category. -/
def Style.linkProperties (style : Style) : LinkCategory → Text
  | .main => style.mainLink
  | .workflow => style.workflowLink
  | .crossReference => style.crossReferenceLink

namespace Diagram

/-- The positions and properties of each link style. -/
def linkStyles (d : Diagram) : List (List Nat × Text) := d.elements.filterMap Element.linkStyle?

/-- The identifiers and the class of each class use. -/
def classUses (d : Diagram) : List (List Text × Text) := d.elements.filterMap Element.classUse?

/-- The name and properties of each class definition. -/
def classDefs (d : Diagram) : List (Text × Text) := d.elements.filterMap Element.classDef?

/-- Each identifier that a class use names, with its class. -/
def classPairs (d : Diagram) : List (Text × Text) :=
  d.classUses.flatMap fun u => u.1.map fun id => (id, u.2)

/-- The link styles of a diagram fit its connections. -/
structure LinksStyled (style : Style) (d : Diagram) : Prop where
  /-- Each connection is named once, and nothing else is. -/
  once : (d.linkStyles.flatMap Prod.fst).Perm (List.range d.connections.length)
  /-- No link style names nothing. -/
  named : ∀ s ∈ d.linkStyles, s.1 ≠ []
  category : ∀ s ∈ d.linkStyles, ∀ k ∈ s.1, ∃ c, d.connections[k]? = some c ∧
    s.2 = style.linkProperties c.category ++ [';']

end Diagram

theorem filterMap_filter_styleKind {β : Type} {f : Element → Option β} {kind : StyleKind}
    (hf : ∀ e, (f e).isSome = decide (e.styleKind? = some kind)) (es : List Element) :
    (es.filter fun e => e.styleKind? = some kind).filterMap f = es.filterMap f := by
  rw [List.filterMap_filter]
  refine List.filterMap_congr fun e _ => ?_
  split
  · rfl
  · next hkind =>
    rw [← hf e, Bool.not_eq_true, Option.isSome_eq_false_iff, Option.isNone_iff_eq_none] at hkind
    exact hkind.symm

theorem Element.isSome_linkStyle? (e : Element) :
    e.linkStyle?.isSome = decide (e.styleKind? = some .linkStyle) := by
  cases e <;> rfl

theorem Element.isSome_classUse? (e : Element) :
    e.classUse?.isSome = decide (e.styleKind? = some .classUse) := by
  cases e <;> rfl

theorem Element.isSome_classDef? (e : Element) :
    e.classDef?.isSome = decide (e.styleKind? = some .classDef) := by
  cases e <;> rfl

theorem filterMap_eq_nil_iff_styleKind {β : Type} {f : Element → Option β} {kind : StyleKind}
    (hf : ∀ e, (f e).isSome = decide (e.styleKind? = some kind)) (es : List Element) :
    es.filterMap f = [] ↔ ¬ ∃ e ∈ es, e.styleKind? = some kind := by
  simp only [List.filterMap_eq_nil_iff, not_exists, not_and]
  refine forall₂_congr fun e _ => ?_
  rw [← Option.isNone_iff_eq_none, ← Option.isSome_eq_false_iff, hf e, decide_eq_false_iff_not]

/-! ## Canonical styles of a kind -/

/-- A pair of some names and a value, if there are names. -/
def named? {α : Type} (names : List α) (value : Text) : Option (List α × Text) :=
  if names = [] then none else some (names, value)

section
variable {α ι : Type} {names : ι → List α} {value : ι → Text} {is : List ι}

theorem mem_filterMap_named? {s : List α × Text} :
    s ∈ is.filterMap (fun i => named? (names i) (value i)) ↔
      ∃ i ∈ is, names i ≠ [] ∧ s = (names i, value i) := by
  rw [List.mem_filterMap]
  refine exists_congr fun i => and_congr_right fun _ => ?_
  rw [named?]
  split
  · next h => simp [h]
  · next h => simp [h, eq_comm]

/-- What is left out has no names to add. -/
theorem flatMap_filterMap_named? {γ : Type} {f : List α × Text → List γ}
    (hf : ∀ v, f ([], v) = []) :
    (is.filterMap fun i => named? (names i) (value i)).flatMap f =
      is.flatMap fun i => f (names i, value i) := by
  induction is with
  | nil => rfl
  | cons i is ih =>
    rw [List.filterMap_cons, List.flatMap_cons, named?]
    by_cases hnil : names i = []
    · simp only [hnil, if_pos, hf, List.nil_append, ih]
    · simp only [hnil, if_false, List.flatMap_cons, ih]

end

section
variable (style : Style) (es : List Element)

/-- The canonical link styles: one for each category that has connections. -/
theorem linkStyles_canonicalElements :
    (style.canonicalElements es .linkStyle).filterMap Element.linkStyle? =
      [LinkCategory.main, .workflow, .crossReference].filterMap fun category =>
        named? (linkPositions category (es.filterMap Element.connection?))
          (style.linkProperties category ++ [';']) := by
  have hcategories : [(LinkCategory.main, style.mainLink), (.workflow, style.workflowLink),
      (.crossReference, style.crossReferenceLink)] =
        [LinkCategory.main, .workflow, .crossReference].map fun category =>
          (category, style.linkProperties category) := rfl
  rw [Style.canonicalElements, hcategories, List.filterMap_map, List.filterMap_filterMap]
  refine List.filterMap_congr fun category _ => ?_
  dsimp only [Function.comp_apply, named?]
  split <;> rfl

/-- The canonical class uses: one for each class that has nodes. -/
theorem classUses_canonicalElements :
    (style.canonicalElements es .classUse).filterMap Element.classUse? =
      [((NodeClasses.of es).content, style.contentClass),
        ((NodeClasses.of es).workflow, style.workflowClass)].filterMap fun c => named? c.1 c.2 := by
  rw [Style.canonicalElements, List.filterMap_filterMap]
  refine List.filterMap_congr fun c _ => ?_
  dsimp only [named?]
  split <;> rfl

end

/-! ## Tidied texts -/

section
variable {style : Style} (hstyle : style.Standard) (henforce : style.enforce = true)
  (kind : StyleKind) (es : List Element)
include hstyle henforce

/-- Link styles are written whether there are any before or not. -/
theorem filter_styleKind_written :
    (style.written es).filter (fun e => e.styleKind? = some kind) =
      if kind = .linkStyle ∨ ∃ e ∈ es, e.styleKind? = some kind then style.canonicalElements es kind
      else [] := by
  rw [written_of_enforce henforce,
    filter_styleKind_enforced (styleKind_of_mem_canonicalElements hstyle es)]
  refine if_congr ?_ rfl rfl
  simp only [List.not_mem_nil, not_false_eq_true, true_and, List.mem_append, List.mem_singleton,
    or_and_right, exists_or, exists_eq_left, Element.styleKind?, Option.some.injEq]
  rw [or_comm, eq_comm (a := kind)]

theorem styleKind?_reread_written {e : Element} (he : e ∈ style.written es) :
    e.reread.styleKind? = e.styleKind? := by
  rcases mem_written hstyle he with ⟨-, hcontent⟩ | ⟨-, other, hcanonical⟩
  · have hnone : e.styleKind? = none := by simpa [Element.isContent] using hcontent henforce
    rw [hnone, Element.styleKind?_reread hnone]
  · rw [hcanonical.reread]

/-- The styles of a kind that are read back are the canonical ones for what is read back. -/
theorem filter_styleKind_map_reread :
    ((style.written es).map Element.reread).filter (fun e => e.styleKind? = some kind) =
      if kind = .linkStyle ∨ ∃ e ∈ es, e.styleKind? = some kind then
        style.canonicalElements ((style.written es).map Element.reread) kind
      else [] := by
  have hsame : (style.written es).filter
      ((fun e => decide (e.styleKind? = some kind)) ∘ Element.reread) =
        (style.written es).filter (fun e => e.styleKind? = some kind) := by
    refine List.filter_congr fun e he => ?_
    rw [Function.comp_apply, styleKind?_reread_written hstyle henforce es he]
  rw [List.filter_map, hsame, filter_styleKind_written hstyle henforce,
    canonicalElements_written hstyle]
  split
  · exact map_reread_canonicalElements hstyle es kind
  · rfl

end

/-- A diagram of which the link styles are the canonical ones has its links styled. -/
theorem linksStyled_of_linkStyles {style : Style} {d : Diagram}
    (h : d.linkStyles = (style.canonicalElements d.elements .linkStyle).filterMap
      Element.linkStyle?) : d.LinksStyled style := by
  rw [linkStyles_canonicalElements] at h
  refine ⟨?_, fun s hs => ?_, fun s hs k hk => ?_⟩
  · rw [h, flatMap_filterMap_named? fun _ => rfl]
    simpa [Diagram.connections] using perm_linkPositions d.connections
  · rw [h] at hs
    obtain ⟨category, -, hne, rfl⟩ := mem_filterMap_named?.mp hs
    exact hne
  · rw [h] at hs
    obtain ⟨category, -, -, rfl⟩ := mem_filterMap_named?.mp hs
    obtain ⟨c, hc, rfl⟩ := mem_linkPositions_iff.mp hk
    exact ⟨c, hc, rfl⟩

/-- A diagram of which the class uses are the canonical ones has each node under its class. -/
theorem classPairs_of_classUses {style : Style} {d : Diagram}
    (h : d.classUses = (style.canonicalElements d.elements .classUse).filterMap Element.classUse?) :
    d.classPairs =
      (NodeClasses.of d.elements).content.map (fun id => (id, style.contentClass)) ++
      (NodeClasses.of d.elements).workflow.map (fun id => (id, style.workflowClass)) := by
  rw [Diagram.classPairs, h, classUses_canonicalElements, flatMap_filterMap_named? fun _ => rfl]
  simp

/-- Enforced styles are right for the text that they are written into. Diagrams with more
connections than there are positions are left out, which no text in memory has. -/
theorem tidy_styles_fit {style : Style} (hstyle : style.Standard) (henforce : style.enforce = true)
    {t : Text} {o : Tidied}
    (hmark : holds (InitSettings.extract t).2 InitBlock.openingMark = false)
    (hsize : (Diagram.parse t).connections.length ≤ Nat.pow 2 64) (h : tidy style t = .ok o) :
    let before := Diagram.parse t
    let after := Diagram.parse o.formatted
    let classes := NodeClasses.of after.elements
    classes = NodeClasses.of before.elements ∧
    after.LinksStyled style ∧
    (classes.content ++ classes.workflow).Nodup ∧
    (before.classUses ≠ [] → after.classPairs =
      classes.content.map (fun id => (id, style.contentClass)) ++
      classes.workflow.map (fun id => (id, style.workflowClass))) ∧
    (before.classUses = [] → after.classUses = []) ∧
    (before.classDefs ≠ [] → after.classDefs =
      [(style.contentClass, style.contentProperties),
        (style.workflowClass, style.workflowProperties)]) ∧
    (before.classDefs = [] → after.classDefs = []) := by
  intro before after classes
  have helements : after.elements = (style.written before.elements).map Element.reread :=
    (parse_formatted_of_ok hstyle (find?_format_parse hstyle hmark) h fun _ => hsize).2.2
  have hkind : ∀ kind, after.elements.filter (fun e => e.styleKind? = some kind) =
      if kind = .linkStyle ∨ ∃ e ∈ before.elements, e.styleKind? = some kind then
        style.canonicalElements after.elements kind else [] := by
    intro kind
    rw [helements]
    exact filter_styleKind_map_reread hstyle henforce kind before.elements
  have huses := filterMap_eq_nil_iff_styleKind Element.isSome_classUse? before.elements
  have hdefs := filterMap_eq_nil_iff_styleKind Element.isSome_classDef? before.elements
  refine ⟨?_, linksStyled_of_linkStyles ?_, nodup_classes _, fun hsome =>
    classPairs_of_classUses ?_, fun hnone => ?_, fun hsome => ?_, fun hnone => ?_⟩
  · rw [← classes_written hstyle before.elements, ← helements]
  · rw [Diagram.linkStyles, ← filterMap_filter_styleKind Element.isSome_linkStyle?, hkind,
      if_pos (.inl rfl)]
  · rw [Diagram.classUses, ← filterMap_filter_styleKind Element.isSome_classUse?, hkind,
      if_pos (.inr (not_not.mp (mt huses.mpr hsome)))]
  · rw [Diagram.classUses, ← filterMap_filter_styleKind Element.isSome_classUse?, hkind,
      if_neg (not_or.mpr ⟨by decide, huses.mp hnone⟩), List.filterMap_nil]
  · rw [Diagram.classDefs, ← filterMap_filter_styleKind Element.isSome_classDef?, hkind,
      if_pos (.inr (not_not.mp (mt hdefs.mpr hsome)))]
    rfl
  · rw [Diagram.classDefs, ← filterMap_filter_styleKind Element.isSome_classDef?, hkind,
      if_neg (not_or.mpr ⟨by decide, hdefs.mp hnone⟩), List.filterMap_nil]

/-- The line `C -. y .-> A` is no connection, so the link after it is the second. The classes that
were given are replaced. -/
theorem tidy_styles_fit_links :
    let t :=
      "graph LR\nA -.-> W1\nclass A b\nsubgraph s\nC -. y .-> A\nend\nclass C a\nA --> C".toList
    ∃ o, tidy .default t = .ok o ∧
      (Diagram.parse o.formatted).LinksStyled .default ∧
      (Diagram.parse o.formatted).classPairs = [("A".toList, "chapter".toList),
        ("C".toList, "chapter".toList), ("W1".toList, "workflowNode".toList)] ∧
      (Diagram.parse o.formatted).classDefs = [] := by
  intro t
  have hok : (tidy .default t).toBool = true := by decide +kernel
  have hmark : holds (InitSettings.extract t).2 InitBlock.openingMark = false := by decide +kernel
  have hsize : (Diagram.parse t).connections.length ≤ Nat.pow 2 64 := by decide +kernel
  have huses : (Diagram.parse t).classUses ≠ [] := by decide +kernel
  have hdefs : (Diagram.parse t).classDefs = [] := by decide +kernel
  have hclasses : NodeClasses.of (Diagram.parse t).elements =
      ⟨["A".toList, "C".toList], ["W1".toList]⟩ := by decide +kernel
  obtain ⟨o, ho⟩ := exists_ok_of_toBool hok
  obtain ⟨hsame, hlinks, -, hpairs, -, -, hnone⟩ :=
    tidy_styles_fit Style.standard_default rfl hmark hsize ho
  rw [hsame, hclasses] at hpairs
  exact ⟨o, ho, hlinks, hpairs huses, hnone hdefs⟩

end FlowTidy
