import FlowTidy.Line.Form
import FlowTidy.Proofs.Scanner

/-!
How the lines of each form are spelled. `Spelled form e line` says which pieces `line` is put
together from when its form is `form` and the element on it is `e`; every line that a form
recognizes is spelled so (`Spelled.of_recognize`). What is proved about read elements is proved from
the spelling, one case per form, and never from the scanners.
-/

namespace FlowTidy

open Text Scanner

namespace LineForm

/-- A double quote that may be missing. -/
def IsQuote (q : Text) : Prop := q = [] ∨ q = ['"']

/-- A text between the brackets of a shape after an identifier, with or without quotes around it. -/
structure Enclosed (shape : Shape) (id text line : Text) : Prop where
  ident : id.IsIdent
  pieces : ∃ b₁ b₂ q₁ q₂ b₃ : Text, b₁.Blank ∧ b₂.Blank ∧ IsQuote q₁ ∧ IsQuote q₂ ∧ b₃.Blank ∧
    line = id ++ (b₁ ++ (shape.opening ++ (b₂ ++ (q₁ ++ (text ++ (q₂ ++ (b₃ ++ shape.closing)))))))

/-- The characters of a list of names: words, blanks and the marks between names. -/
def isListed (c : Char) : Bool := isWord c || isBlank c || c == ',' || c == ';'

/-- The spelling of a line of each form. -/
inductive Spelled : LineForm → Element → Text → Prop where
  | declaration {k : Kind} {d : Direction} {w b₁ v b₂ : Text} (hw : sameLetters w k.keyword = true)
      (hb₁ : b₁.Blank) (hv : v = [] ∧ d = .topBottom ∨ sameLetters v d.keyword = true)
      (hb₂ : b₂.Blank) :
      Spelled .declaration (.declaration ⟨k, d⟩) (w ++ (b₁ ++ (v ++ b₂)))
  | comment {b₁ text : Text} (hb₁ : b₁.Blank) (htext : Stops isBlank text) :
      Spelled .comment (.comment text) ('%' :: '%' :: (b₁ ++ text))
  | subgraphStart {w b₁ id b₂ : Text}
      (hw : sameLetters w ['s', 'u', 'b', 'g', 'r', 'a', 'p', 'h'] = true)
      (hne : b₁ ≠ []) (hb₁ : b₁.Blank) (hid : id.IsIdent) (hb₂ : b₂.Blank) :
      Spelled .subgraphStart (.subgraphStart id none) (w ++ (b₁ ++ (id ++ b₂)))
  | labeledSubgraphStart {w b₁ id b₂ inner text b₃ : Text}
      (hw : sameLetters w ['s', 'u', 'b', 'g', 'r', 'a', 'p', 'h'] = true)
      (hne : b₁ ≠ []) (hb₁ : b₁.Blank) (hid : id.IsIdent) (hb₂ : b₂.Blank)
      (hinner : inner = '"' :: (text ++ ['"']) ∧ '"' ∉ text ∨ inner = text ∧ ']' ∉ text)
      (hb₃ : b₃.Blank) :
      Spelled .subgraphStart (.subgraphStart id (label? text))
        (w ++ (b₁ ++ (id ++ (b₂ ++ '[' :: (inner ++ ']' :: b₃)))))
  | subgraphEnd {w : Text} (hw : sameLetters w ['e', 'n', 'd'] = true) :
      Spelled .subgraphEnd .subgraphEnd w
  | classDef {w b₁ name b₂ text : Text}
      (hw : sameLetters w ['c', 'l', 'a', 's', 's', 'D', 'e', 'f'] = true)
      (hne : b₁ ≠ []) (hb₁ : b₁.Blank) (hname : name.IsIdent) (hne' : b₂ ≠ []) (hb₂ : b₂.Blank)
      (htext : Stops isBlank text) (hprops : classProperties text ≠ []) :
      Spelled .classDef (.classDef name (classProperties text))
        (w ++ (b₁ ++ (name ++ (b₂ ++ text))))
  | classUse {w b₁ id r name : Text} {ids : List Text}
      (hw : sameLetters w ['c', 'l', 'a', 's', 's'] = true) (hne : b₁ ≠ []) (hb₁ : b₁.Blank)
      (hid : id.IsIdent) (hids : ∀ i ∈ ids, IsIdent i) (hname : name.IsIdent)
      (hr : ∀ c ∈ r, isListed c = true) :
      Spelled .classUse (.classUse (id :: ids) name) (w ++ (b₁ ++ (id ++ r)))
  | linkStyle {w b₁ first r b₂ text : Text} {indices : List Nat}
      (hw : sameLetters w ['l', 'i', 'n', 'k', 'S', 't', 'y', 'l', 'e'] = true)
      (hne : b₁ ≠ []) (hb₁ : b₁.Blank) (hfirst : first.IsIdent)
      (hindices : ∀ i ∈ indices, i < Nat.pow 2 64)
      (hend : indices ≠ [] → (do comma; index : Scanner Nat) text = none)
      (hne' : b₂ ≠ []) (hb₂ : b₂.Blank) (htext : Stops isBlank text) (hprops : trim text ≠ [])
      (hr : ∀ c ∈ r, isListed c = true) :
      Spelled .linkStyle (.linkStyle indices (trim text))
        (w ++ (b₁ ++ (first ++ (r ++ (b₂ ++ text)))))
  | labeledPipe {s b₁ b₂ q₁ text q₂ b₃ t : Text} {a : Arrow} (hs : s.IsIdent) (hb₁ : b₁.Blank)
      (ha : a ∈ Arrow.glyphOrder) (hb₂ : b₂.Blank) (hq₁ : IsQuote q₁) (hquote : '"' ∉ text)
      (hpipe : '|' ∉ text) (hq₂ : IsQuote q₂) (hb₃ : b₃.Blank) (ht : t.IsIdent) :
      Spelled .labeledPipe (.connection ⟨s, t, a, label? text⟩)
        (s ++ (b₁ ++ (a.glyph ++ (b₂ ++ '|' :: (q₁ ++ (text ++ (q₂ ++ '|' :: (b₃ ++ t))))))))
  | dottedInline {s b₁ b₂ q₁ text q₂ b₃ closing b₄ t label : Text} (hs : s.IsIdent) (hb₁ : b₁.Blank)
      (hb₂ : b₂.Blank) (hq₁ : IsQuote q₁) (hquote : '"' ∉ text) (hlabel : label? text = some label)
      (hq₂ : IsQuote q₂) (hb₃ : b₃.Blank)
      (hclosing : closing = ['.', '-'] ∨ closing = ['-', '.', '-', '>']) (hb₄ : b₄.Blank)
      (ht : t.IsIdent) :
      Spelled .dottedInline (.connection ⟨s, t, .dottedInline, some label⟩)
        (s ++ (b₁ ++ '-' :: '.' :: (b₂ ++
          (q₁ ++ (text ++ (q₂ ++ (b₃ ++ (closing ++ (b₄ ++ t)))))))))
  | unlabeled {s b₁ b₂ t : Text} {a : Arrow} (hs : s.IsIdent) (hb₁ : b₁.Blank)
      (ha : a ∈ Arrow.glyphOrder) (hb₂ : b₂.Blank) (ht : t.IsIdent) :
      Spelled .unlabeled (.connection ⟨s, t, a, none⟩) (s ++ (b₁ ++ (a.glyph ++ (b₂ ++ t))))
  | stadium {id text line : Text} (h : Enclosed .stadium id text line) (hquote : '"' ∉ text)
      (hbracket : ']' ∉ text) :
      Spelled .stadium (.node ⟨id, label? text, .stadium⟩) line
  | forwardTrapezoid {id text line : Text} (h : Enclosed .forwardTrapezoid id text line)
      (hquote : '"' ∉ text) :
      Spelled .forwardTrapezoid (.node ⟨id, label? text, .forwardTrapezoid⟩) line
  | reverseTrapezoid {id text line : Text} (h : Enclosed .reverseTrapezoid id text line)
      (hquote : '"' ∉ text) :
      Spelled .reverseTrapezoid (.node ⟨id, label? text, .reverseTrapezoid⟩) line
  | quotedRectangle {id text line : Text} (h : Enclosed .rectangle id text line)
      (hquote : '"' ∉ text) :
      Spelled .quotedRectangle
        (.node ⟨id, if text = [] then none else some text, .rectangle⟩) line
  | unquotedRectangle {id text line : Text} (h : Enclosed .rectangle id text line)
      (hbracket : ']' ∉ text) :
      Spelled .unquotedRectangle (.node ⟨id, label? text, .rectangle⟩) line
  | bareNode {id : Text} (hid : id.IsIdent) : Spelled .bareNode (.node ⟨id, none, .rectangle⟩) id

/-! ## Parts of lines -/

theorem isQuote_of_quote? {t r : Text} {u : Unit} (h : quote? t = some (u, r)) :
    ∃ q, IsQuote q ∧ t = q ++ r := by
  rcases quote?_eq_some h with rfl | rfl
  · exact ⟨[], .inl rfl, rfl⟩
  · exact ⟨['"'], .inr rfl, rfl⟩

theorem direction_eq_some {t r : Text} {d : Direction} (h : direction t = some (d, r)) :
    ∃ v, t = v ++ r ∧ sameLetters v d.keyword = true := by
  obtain ⟨p, hp, hpt⟩ := firstOf_eq_some h
  obtain ⟨d', -, rfl⟩ := List.mem_map.mp hp
  simp only [bind_eq_some_iff, keyword_eq_some_iff, pure_eq_some_iff, Prod.mk.injEq] at hpt
  obtain ⟨-, _, ⟨v, rfl, hv⟩, rfl, rfl⟩ := hpt
  exact ⟨v, rfl, hv⟩

theorem kind_eq_some {t r : Text} {k : Kind}
    (h : firstOf (Kind.all.map fun k => do keyword k.keyword; return k) t = some (k, r)) :
    ∃ w, t = w ++ r ∧ sameLetters w k.keyword = true := by
  obtain ⟨p, hp, hpt⟩ := firstOf_eq_some h
  obtain ⟨k', -, rfl⟩ := List.mem_map.mp hp
  simp only [bind_eq_some_iff, keyword_eq_some_iff, pure_eq_some_iff, Prod.mk.injEq] at hpt
  obtain ⟨-, _, ⟨w, rfl, hw⟩, rfl, rfl⟩ := hpt
  exact ⟨w, rfl, hw⟩

theorem arrow_eq_some {t r : Text} {a : Arrow} (h : arrow t = some (a, r)) :
    a ∈ Arrow.glyphOrder ∧ t = a.glyph ++ r := by
  obtain ⟨p, hp, hpt⟩ := firstOf_eq_some h
  obtain ⟨a', ha, rfl⟩ := List.mem_map.mp hp
  simp only [bind_eq_some_iff, mark_eq_some_iff, pure_eq_some_iff, Prod.mk.injEq] at hpt
  obtain ⟨-, _, rfl, rfl, rfl⟩ := hpt
  exact ⟨ha, rfl⟩

theorem index_eq_some {t r : Text} {n : Nat} (h : index t = some (n, r)) :
    n < Nat.pow 2 64 ∧ ∃ w, w.IsIdent ∧ t = w ++ r := by
  simp only [index, bind_eq_some_iff, run1_eq_some_iff] at h
  obtain ⟨w, left, ⟨rfl, hne, hdigits, -⟩, h⟩ := h
  split at h
  · next hn =>
    obtain ⟨rfl, rfl⟩ := Prod.mk.inj (pure_eq_some_iff.mp h)
    exact ⟨hn, w, ⟨hne, fun c hc => isWord_of_isDigit (hdigits c hc)⟩, rfl⟩
  · contradiction

theorem consumes_index : Consumes index := fun h => by
  obtain ⟨-, w, hw, rfl⟩ := index_eq_some h
  exact ⟨w, hw.ne_nil, rfl⟩

/-- Positions are below the limit, and no further one follows them. -/
theorem indices_eq_some {t r : Text} {is : List Nat} (h : indices t = some (is, r)) :
    (∀ i ∈ is, i < Nat.pow 2 64) ∧
      (is ≠ [] → (do comma; index : Scanner Nat) r = none) ∧
      ∃ first left, first.IsIdent ∧ t = first ++ (left ++ r) := by
  rw [indices, orElse_eq_some_iff] at h
  rcases h with h | ⟨-, h⟩
  · simp only [bind_eq_some_iff, keyword_eq_some_iff, pure_eq_some_iff, Prod.mk.injEq] at h
    obtain ⟨-, _, ⟨w, rfl, hw⟩, rfl, rfl⟩ := h
    refine ⟨by simp, by simp, w, [], isIdent_of_sameLetters hw ⟨by simp, by decide⟩, by simp⟩
  · obtain ⟨i, is', left, rfl, hi, ⟨skipped, rfl⟩, hend, hall⟩ :=
      commaList_eq_some consumes_index h
    obtain ⟨-, first, hfirst, rfl⟩ := index_eq_some hi
    refine ⟨fun j hj => ?_, fun _ => hend, first, skipped, hfirst, by simp⟩
    obtain ⟨_, _, hj⟩ := hall j hj
    exact (index_eq_some hj).1

theorem isListed_of_isWord {c : Char} (h : isWord c = true) : isListed c = true := by
  simp [isListed, h]

theorem isListed_of_isBlank {c : Char} (h : isBlank c = true) : isListed c = true := by
  simp [isListed, h]

theorem takes_blanks1 : Takes isListed blanks1 :=
  (takes_run1 fun _ => isListed_of_isBlank).bind fun _ => takes_pure _

theorem takes_ident : Takes isListed ident := takes_run1 fun _ => isListed_of_isWord

theorem takes_indices : Takes isListed indices := by
  have hindex : Takes isListed index := fun _ _ _ h => by
    obtain ⟨-, w, hw, rfl⟩ := index_eq_some h
    exact ⟨w, rfl, fun c hc => isListed_of_isWord (hw.word c hc)⟩
  have hdefault : Takes isListed (keyword ['d', 'e', 'f', 'a', 'u', 'l', 't']) :=
    takes_keyword (fun _ => isListed_of_isWord) (by decide)
  exact (hdefault.bind fun _ => takes_pure _).orElse
    (hindex.commaList (fun _ => isListed_of_isBlank) rfl)

theorem takes_classUseLine : Takes isListed classUseLine := by
  have hclass : Takes isListed (keyword ['c', 'l', 'a', 's', 's']) :=
    takes_keyword (fun _ => isListed_of_isWord) (by decide)
  have hids := takes_ident.commaList (fun _ => isListed_of_isBlank) rfl
  have hmark : Takes isListed (mark [';']) := takes_mark (by decide)
  exact hclass.bind fun _ => takes_blanks1.bind fun _ => hids.bind fun _ => takes_blanks1.bind
    fun _ => takes_ident.bind fun _ => hmark.optional.bind fun _ =>
    (takes_blanks fun _ => isListed_of_isBlank).bind fun _ => takes_pure _

/-- The label of a subgraph is between quotes or has no closing bracket. -/
theorem subgraphLabel_eq_some {t r text : Text} (h : subgraphLabel t = some (text, r)) :
    ∃ inner, t = '[' :: (inner ++ ']' :: r) ∧
      (inner = '"' :: (text ++ ['"']) ∧ '"' ∉ text ∨ inner = text ∧ ']' ∉ text) := by
  rw [subgraphLabel, orElse_eq_some_iff] at h
  simp only [bind_eq_some_iff, mark_eq_some_iff, run1_eq_some_iff, pure_eq_some_iff,
    Prod.mk.injEq] at h
  rcases h with h | ⟨-, h⟩
  · obtain ⟨-, _, rfl, _, _, ⟨rfl, -, hquote, -⟩, -, _, rfl, rfl, rfl⟩ := h
    exact ⟨'"' :: (text ++ ['"']), by simp, .inl ⟨rfl, fun hm => by simpa using hquote _ hm⟩⟩
  · obtain ⟨-, _, rfl, _, _, ⟨rfl, -, hbracket, -⟩, -, _, rfl, rfl, rfl⟩ := h
    exact ⟨text, by simp, .inr ⟨rfl, fun hm => by simpa using hbracket _ hm⟩⟩

/-! ## Forms -/

section
variable {line : Text} {e : Element}

theorem Spelled.of_declarationLine (h : declarationLine line = some (e, [])) :
    Spelled .declaration e line := by
  simp only [declarationLine, bind_eq_some_iff, blanks_eq_some_iff, optional_eq_some_iff,
    pure_eq_some_iff, Prod.mk.injEq] at h
  obtain ⟨k, _, hk, -, _, ⟨b₁, rfl, hb₁, -⟩, d, _, hd, -, _, ⟨b₂, rfl, hb₂, -⟩, rfl, rfl⟩ := h
  obtain ⟨w, rfl, hw⟩ := kind_eq_some hk
  rcases hd with ⟨d, rfl, hd⟩ | ⟨rfl, hr, -⟩
  · obtain ⟨v, hv, hvd⟩ := direction_eq_some hd
    rw [List.append_nil] at hv
    rw [hv]
    exact .declaration hw hb₁ (.inr hvd) hb₂
  · rw [List.append_nil] at hr
    rw [← hr]
    exact .declaration (v := []) hw hb₁ (.inl ⟨rfl, rfl⟩) hb₂

theorem Spelled.of_commentLine (h : commentLine line = some (e, [])) : Spelled .comment e line := by
  simp only [commentLine, bind_eq_some_iff, mark_eq_some_iff, blanks_eq_some_iff, rest_eq_some_iff,
    pure_eq_some_iff, Prod.mk.injEq] at h
  obtain ⟨-, _, rfl, -, _, ⟨b, rfl, hb, htext⟩, _, _, ⟨rfl, rfl⟩, rfl, -⟩ := h
  exact .comment hb htext

theorem Spelled.of_subgraphStartLine (h : subgraphStartLine line = some (e, [])) :
    Spelled .subgraphStart e line := by
  simp only [subgraphStartLine, bind_eq_some_iff, keyword_eq_some_iff, blanks1_eq_some_iff,
    ident_eq_some_iff, optional_eq_some_iff, blanks_eq_some_iff, pure_eq_some_iff,
    Prod.mk.injEq] at h
  obtain ⟨-, _, ⟨w, rfl, hw⟩, -, _, ⟨b₁, rfl, hne, hb₁, -⟩, id, _, ⟨rfl, hid, -⟩, text, _, htext,
    -, _, ⟨b₃, rfl, hb₃, -⟩, rfl, rfl⟩ := h
  rcases htext with ⟨text, rfl, -, _, ⟨b₂, rfl, hb₂, -⟩, hlabel⟩ | ⟨rfl, hr, -⟩
  · obtain ⟨inner, rfl, hinner⟩ := subgraphLabel_eq_some hlabel
    rw [List.append_nil]
    exact .labeledSubgraphStart hw hne hb₁ hid hb₂ hinner hb₃
  · rw [← hr, List.append_nil]
    exact .subgraphStart hw hne hb₁ hid hb₃

theorem Spelled.of_subgraphEndLine (h : subgraphEndLine line = some (e, [])) :
    Spelled .subgraphEnd e line := by
  simp only [subgraphEndLine, bind_eq_some_iff, keyword_eq_some_iff, pure_eq_some_iff,
    Prod.mk.injEq] at h
  obtain ⟨-, _, ⟨w, rfl, hw⟩, rfl, rfl⟩ := h
  rw [List.append_nil]
  exact .subgraphEnd hw

theorem Spelled.of_classDefLine (h : classDefLine line = some (e, [])) :
    Spelled .classDef e line := by
  simp only [classDefLine, bind_eq_some_iff, keyword_eq_some_iff, blanks1_eq_some_iff,
    ident_eq_some_iff, rest_eq_some_iff, guarded_eq_some_iff, Prod.mk.injEq] at h
  obtain ⟨-, _, ⟨w, rfl, hw⟩, -, _, ⟨b₁, rfl, hne, hb₁, -⟩, name, _, ⟨rfl, hname, -⟩,
    -, _, ⟨b₂, rfl, hne', hb₂, htext⟩, _, _, ⟨rfl, rfl⟩, hprops, rfl, -⟩ := h
  exact .classDef hw hne hb₁ hname hne' hb₂ htext hprops

theorem Spelled.of_classUseLine (h : classUseLine line = some (e, [])) :
    Spelled .classUse e line := by
  obtain ⟨whole, hwhole, hlisted⟩ := takes_classUseLine h
  simp only [classUseLine, bind_eq_some_iff, keyword_eq_some_iff, blanks1_eq_some_iff,
    ident_eq_some_iff, pure_eq_some_iff, Prod.mk.injEq] at h
  obtain ⟨-, _, ⟨w, rfl, hw⟩, -, _, ⟨b₁, rfl, hne, hb₁, -⟩, ids, _, hids, -, _, -, name, _,
    ⟨-, hname, -⟩, -, -, -, -, -, -, rfl, -⟩ := h
  obtain ⟨id, more, left, rfl, hid, -, -, hall⟩ := commaList_eq_some consumes_ident hids
  obtain ⟨rfl, hid, -⟩ := ident_eq_some_iff.mp hid
  refine .classUse hw hne hb₁ hid (fun i hi => ?_) hname fun c hc => hlisted c ?_
  · obtain ⟨_, _, hi⟩ := hall i (List.mem_cons_of_mem _ hi)
    exact (ident_eq_some_iff.mp hi).2.1
  · rw [← List.append_nil whole, ← hwhole]
    simp [hc]

theorem Spelled.of_linkStyleLine (h : linkStyleLine line = some (e, [])) :
    Spelled .linkStyle e line := by
  simp only [linkStyleLine, bind_eq_some_iff, keyword_eq_some_iff, blanks1_eq_some_iff,
    rest_eq_some_iff, guarded_eq_some_iff, Prod.mk.injEq] at h
  obtain ⟨-, _, ⟨w, rfl, hw⟩, -, _, ⟨b₁, rfl, hne, hb₁, -⟩, is, _, his,
    -, _, ⟨b₂, rfl, hne', hb₂, htext⟩, _, _, ⟨rfl, rfl⟩, hprops, rfl, -⟩ := h
  obtain ⟨taken, htaken, hlisted⟩ := takes_indices his
  obtain ⟨hsmall, hend, first, r, hfirst, rfl⟩ := indices_eq_some his
  rw [← List.append_assoc, List.append_cancel_right_eq] at htaken
  refine .linkStyle hw hne hb₁ hfirst hsmall (fun his => ?_) hne' hb₂ htext hprops
    fun c hc => hlisted c (htaken ▸ List.mem_append_right _ hc)
  rw [← afterComma_append hb₂ htext]
  exact hend his

theorem Spelled.of_labeledPipeLine (h : labeledPipeLine line = some (e, [])) :
    Spelled .labeledPipe e line := by
  simp only [labeledPipeLine, bind_eq_some_iff, ident_eq_some_iff, blanks_eq_some_iff,
    mark_eq_some_iff, run1_eq_some_iff, pure_eq_some_iff, Prod.mk.injEq] at h
  obtain ⟨s, _, ⟨rfl, hs, -⟩, -, _, ⟨b₁, rfl, hb₁, -⟩, a, _, harrow, -, _, ⟨b₂, rfl, hb₂, -⟩,
    -, _, rfl, _, _, e₁, text, _, ⟨rfl, -, htext, -⟩, _, _, e₂, -, _, rfl, -, _,
    ⟨b₃, rfl, hb₃, -⟩, t, _, ⟨rfl, ht, -⟩, rfl, rfl⟩ := h
  obtain ⟨ha, rfl⟩ := arrow_eq_some harrow
  obtain ⟨q₁, hq₁, rfl⟩ := isQuote_of_quote? e₁
  obtain ⟨q₂, hq₂, rfl⟩ := isQuote_of_quote? e₂
  rw [List.append_nil]
  exact .labeledPipe hs hb₁ ha hb₂ hq₁ (fun hm => by simpa using htext _ hm)
    (fun hm => by simpa using htext _ hm) hq₂ hb₃ ht

/-- The end of a dotted line with its label, by its pieces. -/
theorem inlineTail_eq_some {t r target : Text} (h : inlineTail t = some (target, r)) :
    ∃ b₁ closing b₂ : Text, b₁.Blank ∧
      (closing = ['.', '-'] ∨ closing = ['-', '.', '-', '>']) ∧ b₂.Blank ∧ target.IsIdent ∧
      t = b₁ ++ (closing ++ (b₂ ++ (target ++ r))) := by
  simp only [inlineTail, inlineClosing, bind_eq_some_iff, orElse_eq_some_iff, blanks_eq_some_iff,
    mark_eq_some_iff, ident_eq_some_iff] at h
  obtain ⟨-, _, ⟨b₁, rfl, hb₁, -⟩, -, _, hclosing, -, _, ⟨b₂, rfl, hb₂, -⟩, rfl, ht, -⟩ := h
  rcases hclosing with rfl | ⟨-, rfl⟩
  · exact ⟨b₁, _, b₂, hb₁, .inl rfl, hb₂, ht, rfl⟩
  · exact ⟨b₁, _, b₂, hb₁, .inr rfl, hb₂, ht, rfl⟩

theorem Spelled.of_dottedInlineLine (h : dottedInlineLine line = some (e, [])) :
    Spelled .dottedInline e line := by
  simp only [dottedInlineLine, bind_eq_some_iff, ident_eq_some_iff, blanks_eq_some_iff,
    mark_eq_some_iff] at h
  obtain ⟨s, _, ⟨rfl, hs, -⟩, -, _, ⟨b₁, rfl, hb₁, -⟩, -, _, rfl, -, _, ⟨b₂, rfl, hb₂, -⟩,
    _, _, e₁, text, _, hupTo, _, _, e₂, t, _, htail, h⟩ := h
  obtain ⟨q₁, hq₁, rfl⟩ := isQuote_of_quote? e₁
  obtain ⟨rfl, htext⟩ := upTo_eq_some hupTo
  obtain ⟨q₂, hq₂, rfl⟩ := isQuote_of_quote? e₂
  obtain ⟨b₃, closing, b₄, hb₃, hclosing, hb₄, ht, rfl⟩ := inlineTail_eq_some htail
  cases hlabel : label? text with
  | none => rw [hlabel] at h; contradiction
  | some label =>
    rw [hlabel] at h
    obtain ⟨rfl, rfl⟩ := Prod.mk.inj (pure_eq_some_iff.mp h)
    rw [List.append_nil]
    exact .dottedInline hs hb₁ hb₂ hq₁ (fun hm => by simpa using htext _ hm) hlabel hq₂ hb₃ hclosing
      hb₄ ht

theorem Spelled.of_unlabeledLine (h : unlabeledLine line = some (e, [])) :
    Spelled .unlabeled e line := by
  simp only [unlabeledLine, bind_eq_some_iff, ident_eq_some_iff, blanks_eq_some_iff,
    pure_eq_some_iff, Prod.mk.injEq] at h
  obtain ⟨s, _, ⟨rfl, hs, -⟩, -, _, ⟨b₁, rfl, hb₁, -⟩, a, _, harrow, -, _, ⟨b₂, rfl, hb₂, -⟩, t, _,
    ⟨rfl, ht, -⟩, rfl, rfl⟩ := h
  obtain ⟨ha, rfl⟩ := arrow_eq_some harrow
  rw [List.append_nil]
  exact .unlabeled hs hb₁ ha hb₂ ht

theorem Spelled.of_stadiumLine (h : stadiumLine line = some (e, [])) : Spelled .stadium e line := by
  simp only [stadiumLine, bind_eq_some_iff, ident_eq_some_iff, blanks_eq_some_iff,
    mark_eq_some_iff, run_eq_some_iff, pure_eq_some_iff, Prod.mk.injEq] at h
  obtain ⟨id, _, ⟨rfl, hid, -⟩, -, _, ⟨b₁, rfl, hb₁, -⟩, -, _, rfl, -, _, ⟨b₂, rfl, hb₂, -⟩,
    _, _, e₁, text, _, ⟨rfl, htext, -⟩, _, _, e₂, -, _, ⟨b₃, rfl, hb₃, -⟩, -, _, rfl, rfl, rfl⟩ := h
  obtain ⟨q₁, hq₁, rfl⟩ := isQuote_of_quote? e₁
  obtain ⟨q₂, hq₂, rfl⟩ := isQuote_of_quote? e₂
  exact .stadium ⟨hid, b₁, b₂, q₁, q₂, b₃, hb₁, hb₂, hq₁, hq₂, hb₃, by simp⟩
    (fun hm => by simpa using htext _ hm) (fun hm => by simpa using htext _ hm)

/-- Both trapezoids are spelled in the same way. -/
theorem enclosed_of_bracketedLine {shape : Shape} (h : bracketedLine shape line = some (e, [])) :
    ∃ id text, e = .node ⟨id, label? text, shape⟩ ∧ Enclosed shape id text line ∧ '"' ∉ text := by
  simp only [bracketedLine, bind_eq_some_iff, ident_eq_some_iff, blanks_eq_some_iff,
    mark_eq_some_iff, pure_eq_some_iff, Prod.mk.injEq] at h
  obtain ⟨id, _, ⟨rfl, hid, -⟩, -, _, ⟨b₁, rfl, hb₁, -⟩, -, _, rfl, -, _, ⟨b₂, rfl, hb₂, -⟩,
    _, _, e₁, text, _, hupTo, _, _, e₂, -, _, ⟨b₃, rfl, hb₃, -⟩, -, _, rfl, rfl, rfl⟩ := h
  obtain ⟨q₁, hq₁, rfl⟩ := isQuote_of_quote? e₁
  obtain ⟨rfl, htext⟩ := upTo_eq_some hupTo
  obtain ⟨q₂, hq₂, rfl⟩ := isQuote_of_quote? e₂
  exact ⟨id, text, rfl, ⟨hid, b₁, b₂, q₁, q₂, b₃, hb₁, hb₂, hq₁, hq₂, hb₃, by simp⟩,
    fun hm => by simpa using htext _ hm⟩

theorem Spelled.of_quotedRectangleLine (h : quotedRectangleLine line = some (e, [])) :
    Spelled .quotedRectangle e line := by
  simp only [quotedRectangleLine, bind_eq_some_iff, ident_eq_some_iff, blanks_eq_some_iff,
    mark_eq_some_iff, run_eq_some_iff, pure_eq_some_iff, Prod.mk.injEq] at h
  obtain ⟨id, _, ⟨rfl, hid, -⟩, -, _, ⟨b₁, rfl, hb₁, -⟩, -, _, rfl, -, _, ⟨b₂, rfl, hb₂, -⟩,
    -, _, rfl, text, _, ⟨rfl, htext, -⟩, -, _, rfl, -, _, ⟨b₃, rfl, hb₃, -⟩, -, _, rfl,
    rfl, rfl⟩ := h
  exact .quotedRectangle
    ⟨hid, b₁, b₂, ['"'], ['"'], b₃, hb₁, hb₂, .inr rfl, .inr rfl, hb₃, by simp⟩
    fun hm => by simpa using htext _ hm

theorem Spelled.of_unquotedRectangleLine (h : unquotedRectangleLine line = some (e, [])) :
    Spelled .unquotedRectangle e line := by
  simp only [unquotedRectangleLine, bind_eq_some_iff, ident_eq_some_iff, blanks_eq_some_iff,
    mark_eq_some_iff, run1_eq_some_iff, pure_eq_some_iff, Prod.mk.injEq] at h
  obtain ⟨id, _, ⟨rfl, hid, -⟩, -, _, ⟨b₁, rfl, hb₁, -⟩, -, _, rfl, text, _, ⟨rfl, -, htext, -⟩,
    -, _, rfl, rfl, rfl⟩ := h
  exact .unquotedRectangle
    ⟨hid, b₁, [], [], [], [], hb₁, blank_nil, .inl rfl, .inl rfl, blank_nil, by simp⟩
    fun hm => by simpa using htext _ hm

theorem Spelled.of_bareNodeLine (h : bareNodeLine line = some (e, [])) :
    Spelled .bareNode e line := by
  simp only [bareNodeLine, bind_eq_some_iff, ident_eq_some_iff, pure_eq_some_iff,
    Prod.mk.injEq] at h
  obtain ⟨id, _, ⟨rfl, hid, -⟩, rfl, rfl⟩ := h
  rw [List.append_nil]
  exact .bareNode hid

/-- A line that a form recognizes is spelled as the lines of that form are. -/
theorem Spelled.of_recognize {form : LineForm} (h : form.recognize line = some e) :
    Spelled form e line := by
  replace h := whole?_eq_some_iff.mp h
  cases form with
  | declaration => exact .of_declarationLine h
  | comment => exact .of_commentLine h
  | subgraphStart => exact .of_subgraphStartLine h
  | subgraphEnd => exact .of_subgraphEndLine h
  | classDef => exact .of_classDefLine h
  | classUse => exact .of_classUseLine h
  | linkStyle => exact .of_linkStyleLine h
  | labeledPipe => exact .of_labeledPipeLine h
  | dottedInline => exact .of_dottedInlineLine h
  | unlabeled => exact .of_unlabeledLine h
  | stadium => exact .of_stadiumLine h
  | forwardTrapezoid =>
    obtain ⟨id, text, rfl, henc, hquote⟩ := enclosed_of_bracketedLine h
    exact .forwardTrapezoid henc hquote
  | reverseTrapezoid =>
    obtain ⟨id, text, rfl, henc, hquote⟩ := enclosed_of_bracketedLine h
    exact .reverseTrapezoid henc hquote
  | quotedRectangle => exact .of_quotedRectangleLine h
  | unquotedRectangle => exact .of_unquotedRectangleLine h
  | bareNode => exact .of_bareNodeLine h

end

end LineForm

end FlowTidy
