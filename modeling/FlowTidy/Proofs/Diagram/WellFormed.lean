import FlowTidy.Proofs.Diagram.Reparsing

/-!
Well-formed diagrams, and that reading undoes formatting on them. The conditions are those under
which each element has a canonical line of its own; they can be checked by evaluation.
-/

namespace FlowTidy

open Text LineForm

instance (t : Text) : Decidable t.IsIdent :=
  decidable_of_iff (t ≠ [] ∧ ∀ c ∈ t, isWord c = true) ⟨fun h => ⟨h.1, h.2⟩, fun h => ⟨h.1, h.2⟩⟩

/-- A node with a label that its shape can hold, or a bare node that is no reserved word. -/
def Node.WellFormed (n : Node) : Prop :=
  n.id.IsIdent ∧
    match n.label, n.shape with
    | none, shape => shape = .rectangle ∧ isReserved n.id = false
    | some l, .rectangle => l ≠ [] ∧ '"' ∉ l
    | some l, .stadium => l ≠ [] ∧ '"' ∉ l ∧ trim l = l ∧ ']' ∉ l
    | some l, .forwardTrapezoid | some l, .reverseTrapezoid => l ≠ [] ∧ '"' ∉ l ∧ trim l = l

/-- A connection whose label can stand on its arrow. A dotted line with two halves has a label. -/
def Connection.WellFormed (c : Connection) : Prop :=
  c.source.IsIdent ∧ c.target.IsIdent ∧
    match c.label with
    | none => c.arrow ≠ .dottedInline
    | some l => l ≠ [] ∧ trim l = l ∧ '"' ∉ l ∧ (c.arrow ≠ .dottedInline → '|' ∉ l)

/-- An element that its canonical line shows as it is. -/
def Element.WellFormed : Element → Prop
  | .declaration _ => False
  | .comment text => trim text = text
  | .node n => n.WellFormed
  | .connection c => c.WellFormed
  | .subgraphStart id none => id.IsIdent
  | .subgraphStart id (some l) => id.IsIdent ∧ l ≠ [] ∧ trim l = l ∧ '"' ∉ l
  | .subgraphEnd => True
  | .classDef name properties => name.IsIdent ∧ properties ≠ [] ∧ trim properties = properties ∧
      properties.getLast? ≠ some ';'
  | .classUse ids className => ids ≠ [] ∧ (∀ id ∈ ids, IsIdent id) ∧ className.IsIdent
  | .linkStyle indices properties => (∀ i ∈ indices, i < Nat.pow 2 64) ∧ properties ≠ [] ∧
      trim properties = properties ∧ properties.head? ≠ some ','
  | .unrecognized text => text ≠ [] ∧ trim text = text ∧ classify? text = none

/-- A diagram of well-formed elements, none of which has a newline or the mark of an init block in
its text. -/
structure Diagram.WellFormed (d : Diagram) : Prop where
  elements : ∀ e ∈ d.elements, e.WellFormed
  newline : ∀ e ∈ d.elements, '\n' ∉ e.freeText
  mark : ∀ e ∈ d.elements, holds e.freeText InitBlock.openingMark = false

instance : DecidablePred Node.WellFormed
  | ⟨id, none, shape⟩ =>
    inferInstanceAs (Decidable (id.IsIdent ∧ shape = .rectangle ∧ isReserved id = false))
  | ⟨id, some l, .rectangle⟩ => inferInstanceAs (Decidable (id.IsIdent ∧ l ≠ [] ∧ '"' ∉ l))
  | ⟨id, some l, .stadium⟩ =>
    inferInstanceAs (Decidable (id.IsIdent ∧ l ≠ [] ∧ '"' ∉ l ∧ trim l = l ∧ ']' ∉ l))
  | ⟨id, some l, .forwardTrapezoid⟩ | ⟨id, some l, .reverseTrapezoid⟩ =>
    inferInstanceAs (Decidable (id.IsIdent ∧ l ≠ [] ∧ '"' ∉ l ∧ trim l = l))

instance : DecidablePred Connection.WellFormed
  | ⟨source, target, arrow, none⟩ =>
    inferInstanceAs (Decidable (source.IsIdent ∧ target.IsIdent ∧ arrow ≠ .dottedInline))
  | ⟨source, target, arrow, some l⟩ =>
    inferInstanceAs (Decidable (source.IsIdent ∧ target.IsIdent ∧ l ≠ [] ∧ trim l = l ∧ '"' ∉ l ∧
      (arrow ≠ .dottedInline → '|' ∉ l)))

instance : DecidablePred Element.WellFormed
  | .declaration _ => inferInstanceAs (Decidable False)
  | .comment text => inferInstanceAs (Decidable (trim text = text))
  | .node n => inferInstanceAs (Decidable n.WellFormed)
  | .connection c => inferInstanceAs (Decidable c.WellFormed)
  | .subgraphStart id none => inferInstanceAs (Decidable id.IsIdent)
  | .subgraphStart id (some l) =>
    inferInstanceAs (Decidable (id.IsIdent ∧ l ≠ [] ∧ trim l = l ∧ '"' ∉ l))
  | .subgraphEnd => inferInstanceAs (Decidable True)
  | .classDef name properties =>
    inferInstanceAs (Decidable (name.IsIdent ∧ properties ≠ [] ∧ trim properties = properties ∧
      properties.getLast? ≠ some ';'))
  | .classUse ids className =>
    inferInstanceAs (Decidable (ids ≠ [] ∧ (∀ id ∈ ids, IsIdent id) ∧ className.IsIdent))
  | .linkStyle indices properties =>
    inferInstanceAs (Decidable ((∀ i ∈ indices, i < Nat.pow 2 64) ∧ properties ≠ [] ∧
      trim properties = properties ∧ properties.head? ≠ some ','))
  | .unrecognized text =>
    inferInstanceAs (Decidable (text ≠ [] ∧ trim text = text ∧ classify? text = none))

instance (d : Diagram) : Decidable d.WellFormed :=
  decidable_of_iff ((∀ e ∈ d.elements, e.WellFormed) ∧ (∀ e ∈ d.elements, '\n' ∉ e.freeText) ∧
      ∀ e ∈ d.elements, holds e.freeText InitBlock.openingMark = false)
    ⟨fun h => ⟨h.1, h.2.1, h.2.2⟩, fun h => ⟨h.elements, h.newline, h.mark⟩⟩

theorem Node.WellFormed.readable {n : Node} (h : n.WellFormed) : n.Readable := by
  obtain ⟨id, label, shape⟩ := n
  obtain ⟨hid, hlabel⟩ := h
  cases label with
  | none => exact .intro hid (by simp)
  | some l =>
    have hfits : l ≠ [] ∧ '"' ∉ l ∧ shape.Fits l := by
      cases shape with
      | rectangle => exact ⟨hlabel.1, hlabel.2, .inl hlabel.2⟩
      | stadium =>
        obtain ⟨hne, hquote, htrim, hbracket⟩ := hlabel
        exact ⟨hne, hquote, htrim, hquote, hbracket⟩
      | forwardTrapezoid | reverseTrapezoid =>
        obtain ⟨hne, hquote, htrim⟩ := hlabel
        exact ⟨hne, hquote, htrim, hquote⟩
    refine .intro hid fun l' hl' => ?_
    obtain rfl := Option.some.inj hl'
    exact ⟨(unquote_of_not_mem hfits.2.1).symm ▸ hfits.1, hfits.2.2⟩

theorem Connection.WellFormed.readable {c : Connection} (h : c.WellFormed) : c.Readable := by
  obtain ⟨source, target, arrow, label⟩ := c
  obtain ⟨hsource, htarget, hlabel⟩ := h
  cases label with
  | none => exact .intro hsource htarget (by simp) fun harrow => absurd harrow hlabel
  | some l =>
    refine .intro hsource htarget (fun l' hl' => ?_) fun _ => by simp
    obtain rfl := Option.some.inj hl'
    exact hlabel

namespace Element.WellFormed

variable {e : Element} (h : e.WellFormed)
include h

theorem declaration? : e.declaration? = none := by
  cases e with
  | declaration => exact h.elim
  | _ => rfl

theorem isLost : e.isLost = false := by
  cases e with
  | node n =>
    obtain ⟨id, label, shape⟩ := n
    cases label with
    | none => exact h.2.2
    | some l => rfl
  | _ => rfl

theorem readable : e.Readable := by
  cases e with
  | declaration | subgraphEnd => trivial
  | comment => exact h
  | node n => exact Node.WellFormed.readable h
  | connection c => exact Connection.WellFormed.readable h
  | subgraphStart id label =>
    cases label with
    | none => exact .subgraphStart h (by simp)
    | some l =>
      obtain ⟨hid, hne, htrim, hquote⟩ := h
      refine .subgraphStart hid fun l' hl' => ?_
      obtain rfl := Option.some.inj hl'
      exact ⟨(unquote_of_not_mem hquote).symm ▸ htrim.symm ▸ hne, .inl hquote⟩
  | classDef => exact ⟨h.1, h.2.1, h.2.2.1⟩
  | classUse => exact h
  | linkStyle indices properties =>
    obtain ⟨hlt, hne, htrim, hcomma⟩ := h
    exact ⟨hlt, hne, htrim, fun _ =>
      Scanner.afterComma_of_head (trim_eq_self_iff.mp htrim).1 hcomma⟩
  | unrecognized => exact ⟨h.2.1, h.1, h.2.2⟩

/-- A well-formed element is read back as it is. -/
theorem reread : e.reread = e := by
  cases e with
  | node n =>
    obtain ⟨id, label, shape⟩ := n
    cases label with
    | none =>
      obtain ⟨-, rfl, -⟩ := h
      rfl
    | some l =>
      have hquote : '"' ∉ l := by
        cases shape with
        | rectangle => exact h.2.2
        | stadium | forwardTrapezoid | reverseTrapezoid => exact h.2.2.1
      simp [Element.reread, Node.reread, requoted_of_not_mem hquote]
  | subgraphStart id label =>
    cases label with
    | none => rfl
    | some l =>
      obtain ⟨-, -, htrim, hquote⟩ := h
      simp [Element.reread, requoted_of_not_mem hquote, htrim]
  | classDef name properties =>
    obtain ⟨-, hne, htrim, hlast⟩ := h
    have hend : trimEnd properties = properties :=
      dropEnd_eq_self_iff.mpr (trim_eq_self_iff.mp htrim).2
    rw [Element.reread, dropEnd_of_getLast?_ne hlast, if_neg hne, hend]
  | _ => rfl

end Element.WellFormed

/-- Reading undoes formatting: what is read is what was written, which without enforced styling is
the diagram itself and with it differs in nothing but styles. Formatting it again gives the same
text. Positions of connections are numbers below 2 ^ 64, so that a diagram with more connections,
which no memory holds, is left out where styling is enforced. -/
theorem parse_format {style : Style} (hstyle : style.Standard) {d : Diagram} (hd : d.WellFormed)
    (hsize : style.enforce = true → d.connections.length ≤ Nat.pow 2 64) :
    let read := Diagram.parse (d.format style)
    read.init = none ∧ read.declaration = some (d.declaration.getD {}) ∧
      read.elements = style.written d.elements ∧
      (style.enforce = false → read.elements = d.elements) ∧
      read.elements.filter Element.isContent = d.elements.filter Element.isContent ∧
      read.format style = d.format style := by
  have hreadable : ∀ e ∈ d.elements, e.Readable := fun e he => (hd.elements e he).readable
  have hneat : ∀ e ∈ d.elements, e.Neat := fun e he => (hreadable e he).neat
  have hmark : ∀ e ∈ d.elements, ¬ InitBlock.openingMark <:+: e.freeText :=
    fun e he => not_infix_of_holds (hd.mark e he)
  have hreread : (style.written d.elements).map Element.reread = style.written d.elements := by
    refine (List.map_congr_left fun e he => ?_).trans (List.map_id _)
    exact forall_written hstyle (fun e he => (hd.elements e he).reread)
      (fun _ _ _ h => h.reread) e he
  obtain ⟨hinit, hdeclaration, helements⟩ := parse_sheet (d := d.declaration.getD {})
    hstyle.indentsBlank (readable_written hstyle hreadable hsize)
    (isLost_written hstyle fun e he => (hd.elements e he).isLost)
    (declaration?_written hstyle fun e he => (hd.elements e he).declaration?)
    (newline_written hstyle hd.newline) (find?_sheet_written hstyle hneat hmark _)
  rw [hreread] at helements
  rw [format_eq_sheet hstyle]
  refine ⟨hinit, hdeclaration, helements, fun henforce => ?_, ?_, ?_⟩
  · rw [helements, written_of_not_enforce henforce]
  · rw [helements, content_written hstyle]
  · have hagain := written_map_reread hstyle d.elements
    rw [hreread] at hagain
    rw [format_eq_sheet hstyle, hdeclaration, helements, hagain]
    rfl

/-- A dotted connection with its label in a subgraph, a class use and a line of no form. -/
theorem parse_format_dotted :
    let d : Diagram := { statements := [
      { element := .subgraphStart ['s'] (some "Side notes".toList) },
      { element := .connection ⟨['A'], ['B'], .dottedInline, some "see".toList⟩ },
      { element := .subgraphEnd },
      { element := .classUse [['A'], ['B']] ['c'] },
      { element := .unrecognized "click A".toList }] }
    let read := Diagram.parse (d.format .default)
    d.WellFormed ∧ read.elements.filter Element.isContent = d.elements.filter Element.isContent ∧
      read.format .default = d.format .default := by
  intro d read
  have hd : d.WellFormed := by decide +kernel
  obtain ⟨-, -, -, -, hcontent, hagain⟩ :=
    parse_format Style.standard_default hd fun _ => by decide
  exact ⟨hd, hcontent, hagain⟩

end FlowTidy
