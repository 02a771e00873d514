import FlowTidy.Diagram.Basic
import FlowTidy.Proofs.Line.Lead

/-!
Readable elements: what is known of an element because it was read from a line. Reading a trimmed
line gives a readable element (`Element.readable_ofLine`), and the one free text of the element, its
label, properties or comment, is a piece of the line (`Element.freeText_ofLine`).
-/

namespace FlowTidy

open Text Scanner

/-! ## Labels -/

namespace LineForm

/-- A label is trimmed, and has more than quotes and blanks. -/
theorem label?_eq_some_iff {piece label : Text} :
    label? piece = some label ↔ label = trim piece ∧ trim (unquote label) ≠ [] := by
  rw [label?]
  constructor
  · intro h
    split at h
    · contradiction
    · next hne =>
      obtain rfl := Option.some.inj h
      exact ⟨rfl, hne⟩
  · rintro ⟨rfl, hne⟩
    rw [if_neg hne]

theorem label?_of_not_mem {piece : Text} (hquote : '"' ∉ trim piece) (hne : trim piece ≠ []) :
    label? piece = some (trim piece) := by
  rw [label?_eq_some_iff, unquote_of_not_mem hquote, trim_trim]
  exact ⟨rfl, hne⟩

theorem label?_isInfix {piece label : Text} (h : label ∈ label? piece) : label <:+: piece := by
  obtain ⟨rfl, -⟩ := label?_eq_some_iff.mp h
  exact trim_isInfix piece

end LineForm

open LineForm

theorem unquote_ne_nil_of_trim {label : Text} (h : trim (unquote label) ≠ []) :
    unquote label ≠ [] := by
  intro hnil
  rw [hnil] at h
  exact h rfl

/-! ## Readable elements -/

/-- The labels that can stand between the brackets of a shape. -/
def Shape.Fits : Shape → Text → Prop
  | .rectangle, label => '"' ∉ label ∨ ']' ∉ label
  | .stadium, label => trim label = label ∧ '"' ∉ label ∧ ']' ∉ label
  | .forwardTrapezoid, label | .reverseTrapezoid, label => trim label = label ∧ '"' ∉ label

structure Node.Readable (n : Node) : Prop where
  id : n.id.IsIdent
  label : ∀ l ∈ n.label, unquote l ≠ [] ∧ n.shape.Fits l

theorem Node.Readable.intro {id : Text} {label : Option Text} {shape : Shape} (hid : id.IsIdent)
    (hlabel : ∀ l ∈ label, unquote l ≠ [] ∧ shape.Fits l) :
    (⟨id, label, shape⟩ : Node).Readable := ⟨hid, hlabel⟩

structure Connection.Readable (c : Connection) : Prop where
  source : c.source.IsIdent
  target : c.target.IsIdent
  label : ∀ l ∈ c.label, l ≠ [] ∧ trim l = l ∧ '"' ∉ l ∧ (c.arrow ≠ .dottedInline → '|' ∉ l)
  inline : c.arrow = .dottedInline → c.label ≠ none

theorem Connection.Readable.intro {source target : Text} {arrow : Arrow} {label : Option Text}
    (hsource : source.IsIdent) (htarget : target.IsIdent)
    (hlabel : ∀ l ∈ label, l ≠ [] ∧ trim l = l ∧ '"' ∉ l ∧ (arrow ≠ .dottedInline → '|' ∉ l))
    (hinline : arrow = .dottedInline → label ≠ none) :
    (⟨source, target, arrow, label⟩ : Connection).Readable := ⟨hsource, htarget, hlabel, hinline⟩

/-- What reading a line guarantees of the element on it. -/
def Element.Readable : Element → Prop
  | .declaration _ => True
  | .comment text => trim text = text
  | .node n => n.Readable
  | .connection c => c.Readable
  | .subgraphStart id label =>
    id.IsIdent ∧ ∀ l ∈ label, trim (unquote l) ≠ [] ∧ ('"' ∉ l ∨ ']' ∉ l)
  | .subgraphEnd => True
  | .classDef name properties => name.IsIdent ∧ properties ≠ [] ∧ trim properties = properties
  | .classUse ids className => ids ≠ [] ∧ (∀ id ∈ ids, IsIdent id) ∧ className.IsIdent
  | .linkStyle indices properties =>
    (∀ i ∈ indices, i < Nat.pow 2 64) ∧ properties ≠ [] ∧ trim properties = properties ∧
      (indices ≠ [] → (do comma; index : Scanner Nat) properties = none)
  | .unrecognized text => trim text = text ∧ text ≠ [] ∧ classify? text = none

theorem Element.Readable.subgraphStart {id : Text} {label : Option Text} (hid : id.IsIdent)
    (hlabel : ∀ l ∈ label, trim (unquote l) ≠ [] ∧ ('"' ∉ l ∨ ']' ∉ l)) :
    (Element.subgraphStart id label).Readable := ⟨hid, hlabel⟩

/-- The text of an element that is not made of identifiers, numbers and fixed marks. -/
def Element.freeText : Element → Text
  | .comment text | .unrecognized text => text
  | .node n => n.label.getD []
  | .connection c => c.label.getD []
  | .subgraphStart _ label => label.getD []
  | .classDef _ properties | .linkStyle _ properties => properties
  | .declaration _ | .subgraphEnd | .classUse _ _ => []

theorem Element.freeText_node (id : Text) (label : Option Text) (shape : Shape) :
    (Element.node ⟨id, label, shape⟩).freeText = label.getD [] := rfl

theorem Element.freeText_connection (source target : Text) (arrow : Arrow) (label : Option Text) :
    (Element.connection ⟨source, target, arrow, label⟩).freeText = label.getD [] := rfl

/-- The end of a trimmed line is trimmed too. -/
theorem trim_of_append {w r : Text} (h : trim (w ++ r) = w ++ r) (hr : Stops isBlank r) :
    trim r = r := by
  refine trim_eq_self_iff.mpr ⟨hr, fun c hc => (trim_eq_self_iff.mp h).2 c ?_⟩
  cases r with
  | nil => simp at hc
  | cons d r => rwa [List.getLast?_append_cons]

theorem classProperties_isPrefix (text : Text) : classProperties text <+: text :=
  dropEnd_isPrefix.trans (dropEnd_isPrefix.trans dropEnd_isPrefix)

theorem trim_classProperties {text : Text} (h : Stops isBlank text) :
    trim (classProperties text) = classProperties text :=
  trim_eq_self_iff.mpr ⟨h.of_isPrefix (classProperties_isPrefix text), fun _ => getLast?_dropEnd⟩

namespace LineForm

theorem Enclosed.readable {shape : Shape} {id text line : Text} (h : Enclosed shape id text line)
    (hfits : ∀ l ∈ label? text, shape.Fits l) : (⟨id, label? text, shape⟩ : Node).Readable :=
  .intro h.ident fun l hl =>
    ⟨unquote_ne_nil_of_trim (label?_eq_some_iff.mp hl).2, hfits l hl⟩

theorem Enclosed.text_isInfix {shape : Shape} {id text line : Text}
    (h : Enclosed shape id text line) : text <:+: line := by
  obtain ⟨-, b₁, b₂, q₁, q₂, b₃, -, -, -, -, -, rfl⟩ := h
  exact ⟨id ++ b₁ ++ shape.opening ++ b₂ ++ q₁, q₂ ++ b₃ ++ shape.closing, by simp⟩

theorem label?_not_mem {piece label : Text} {c : Char} (h : label ∈ label? piece) (hc : c ∉ piece) :
    c ∉ label := fun hm => hc ((label?_isInfix h).subset hm)

theorem label?_getD_isInfix (text : Text) : (label? text).getD [] <:+: text := by
  cases h : label? text with
  | none => exact List.nil_infix
  | some label => exact label?_isInfix h

/-- The element on a trimmed line is readable. -/
theorem Spelled.readable {form : LineForm} {e : Element} {line : Text} (h : Spelled form e line)
    (hline : trim line = line) : e.Readable := by
  have htrim : ∀ {piece label : Text}, label ∈ label? piece → trim label = label := by
    intro piece label h
    rw [(label?_eq_some_iff.mp h).1, trim_trim]
  cases h with
  | declaration | subgraphEnd => trivial
  | @comment b text hb htext => exact trim_of_append (w := '%' :: '%' :: b) hline htext
  | subgraphStart _ _ _ hid => exact ⟨hid, by simp⟩
  | labeledSubgraphStart _ _ _ hid _ hinner =>
    refine .subgraphStart hid fun l hl => ⟨(label?_eq_some_iff.mp hl).2, ?_⟩
    rcases hinner with ⟨-, hquote⟩ | ⟨-, hbracket⟩
    · exact .inl (label?_not_mem hl hquote)
    · exact .inr (label?_not_mem hl hbracket)
  | classDef _ _ _ hname _ _ htext hprops => exact ⟨hname, hprops, trim_classProperties htext⟩
  | classUse _ _ _ hid hids hname =>
    refine ⟨by simp, fun i hi => ?_, hname⟩
    rcases List.mem_cons.mp hi with rfl | hi
    · exact hid
    · exact hids i hi
  | @linkStyle w b₁ first r b₂ text indices _ _ _ _ hindices hend _ _ htext hprops =>
    have hlast : trim text = text :=
      trim_of_append (w := w ++ (b₁ ++ (first ++ (r ++ b₂)))) (by simpa using hline) htext
    exact ⟨hindices, hprops, trim_trim text, hlast.symm ▸ hend⟩
  | labeledPipe hs _ ha _ _ hquote hpipe _ _ ht =>
    refine Connection.Readable.intro hs ht (fun l hl => ?_) fun harrow => ?_
    · refine ⟨?_, htrim hl, label?_not_mem hl hquote, fun _ => label?_not_mem hl hpipe⟩
      rintro rfl
      exact (label?_eq_some_iff.mp hl).2 rfl
    · rw [harrow] at ha
      exact absurd ha (by decide)
  | dottedInline hs _ _ _ hquote hlabel _ _ _ _ ht =>
    refine Connection.Readable.intro hs ht (fun l hl => ?_) fun _ => by simp
    obtain rfl := Option.some.inj hl
    refine ⟨?_, htrim hlabel, label?_not_mem hlabel hquote, fun h => absurd rfl h⟩
    rintro rfl
    exact (label?_eq_some_iff.mp hlabel).2 rfl
  | unlabeled hs _ ha _ ht =>
    refine Connection.Readable.intro hs ht (by simp) fun harrow => ?_
    rw [harrow] at ha
    exact absurd ha (by decide)
  | stadium h hquote hbracket =>
    exact h.readable fun l hl =>
      ⟨htrim hl, label?_not_mem hl hquote, label?_not_mem hl hbracket⟩
  | forwardTrapezoid h hquote | reverseTrapezoid h hquote =>
    exact h.readable fun l hl => ⟨htrim hl, label?_not_mem hl hquote⟩
  | @quotedRectangle id text _ h hquote =>
    refine Node.Readable.intro h.ident fun l hl => ?_
    split at hl
    · contradiction
    · next hne =>
      obtain rfl := Option.some.inj hl
      exact ⟨by rwa [unquote_of_not_mem hquote], .inl hquote⟩
  | unquotedRectangle h hbracket =>
    exact h.readable fun l hl => .inr (label?_not_mem hl hbracket)
  | bareNode hid => exact Node.Readable.intro hid (by simp)

/-- The free text of an element is a piece of its line. -/
theorem Spelled.freeText_isInfix {form : LineForm} {e : Element} {line : Text}
    (h : Spelled form e line) : e.freeText <:+: line := by
  cases h with
  | declaration | subgraphStart | subgraphEnd | classUse | unlabeled | bareNode =>
    exact List.nil_infix
  | @comment b text => exact ⟨'%' :: '%' :: b, [], by simp [Element.freeText]⟩
  | @labeledSubgraphStart w b₁ id b₂ inner text b₃ _ _ _ _ _ hinner =>
    have hin : text <:+: inner := by
      rcases hinner with ⟨rfl, -⟩ | ⟨rfl, -⟩
      · exact ⟨['"'], ['"'], by simp⟩
      · exact List.infix_rfl
    rw [Element.freeText]
    refine (label?_getD_isInfix text).trans (hin.trans ?_)
    exact ⟨w ++ (b₁ ++ (id ++ (b₂ ++ ['[']))), ']' :: b₃, by simp⟩
  | @classDef w b₁ name b₂ text =>
    exact (classProperties_isPrefix text).isInfix.trans ⟨w ++ (b₁ ++ (name ++ b₂)), [], by simp⟩
  | @linkStyle w b₁ first r b₂ text =>
    exact (trim_isInfix text).trans ⟨w ++ (b₁ ++ (first ++ (r ++ b₂))), [], by simp⟩
  | @labeledPipe s b₁ b₂ q₁ text q₂ b₃ t a =>
    rw [Element.freeText_connection]
    refine (label?_getD_isInfix text).trans ?_
    exact ⟨s ++ (b₁ ++ (a.glyph ++ (b₂ ++ '|' :: q₁))), q₂ ++ '|' :: (b₃ ++ t), by simp⟩
  | @dottedInline s b₁ b₂ q₁ text q₂ b₃ closing b₄ t label _ _ _ _ _ hlabel =>
    refine (label?_isInfix hlabel).trans ?_
    exact ⟨s ++ (b₁ ++ '-' :: '.' :: (b₂ ++ q₁)), q₂ ++ (b₃ ++ (closing ++ (b₄ ++ t))), by simp⟩
  | @stadium _ text _ h | @forwardTrapezoid _ text _ h | @reverseTrapezoid _ text _ h
  | @unquotedRectangle _ text _ h =>
    rw [Element.freeText_node]
    exact (label?_getD_isInfix text).trans h.text_isInfix
  | @quotedRectangle id text _ h =>
    refine List.IsInfix.trans ?_ h.text_isInfix
    rw [Element.freeText_node]
    split
    · exact List.nil_infix
    · exact List.infix_rfl

theorem recognize_of_classify? {line : Text} {form : LineForm} {e : Element}
    (h : classify? line = some (form, e)) : form.recognize line = some e := by
  obtain ⟨form', -, hform⟩ := List.exists_of_findSome?_eq_some h
  obtain ⟨e', he', heq⟩ := Option.map_eq_some_iff.mp hform
  obtain ⟨rfl, rfl⟩ := Prod.mk.inj heq
  exact he'

end LineForm

/-! ## Reading a line -/

namespace Element

/-- What a trimmed line is read as is readable. -/
theorem readable_ofLine {line : Text} (hline : trim line = line) (hne : line ≠ []) :
    (ofLine line).Readable := by
  rw [ofLine]
  split
  · next form e h => exact (Spelled.of_recognize (recognize_of_classify? h)).readable hline
  · next h => exact ⟨hline, hne, h⟩

/-- A line whose first word is followed by another word is no node and no connection. -/
theorem ofLine_of_word {line : Text} (h : Lead.of line = .word) :
    (ofLine line).node? = none ∧ (ofLine line).connection? = none := by
  rw [ofLine]
  split
  · next form e hform =>
    have hspelled := Spelled.of_recognize (recognize_of_classify? hform)
    have hlead := hspelled.lead_mem
    rw [h] at hlead
    cases hspelled with
    | declaration | comment | subgraphStart | labeledSubgraphStart | subgraphEnd | classDef
    | classUse | linkStyle => exact ⟨rfl, rfl⟩
    | _ => simp [leads] at hlead
  · exact ⟨rfl, rfl⟩

/-- The free text of an element is on its line. -/
theorem freeText_ofLine (line : Text) : (ofLine line).freeText <:+: line := by
  rw [ofLine]
  split
  · next form e h => exact (Spelled.of_recognize (recognize_of_classify? h)).freeText_isInfix
  · exact List.infix_rfl

end Element

end FlowTidy
