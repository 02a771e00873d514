import FlowTidy.Line.Render
import FlowTidy.Proofs.Line.Readable

/-!
What a canonical line is made of. It starts and ends without blanks (`Element.trim_render`), and it
is the free text of its element, or a piece of it, in a frame of words and fixed marks
(`Element.framed_render`). So a text that words and marks do not make, such as a newline or the mark
of an init block, is on a canonical line only if it is in the free text.
-/

namespace FlowTidy

open Text LineForm

/-! ## Neat elements -/

/-- An element whose canonical line is a line: identifiers are words, and text that stands at the
end of the line is trimmed. -/
def Element.Neat : Element → Prop
  | .declaration _ | .subgraphEnd => True
  | .comment text => trim text = text
  | .node n => n.id.IsIdent
  | .connection c => c.source.IsIdent ∧ c.target.IsIdent
  | .subgraphStart id _ => id.IsIdent
  | .classDef name _ => name.IsIdent
  | .classUse ids className => (∀ id ∈ ids, IsIdent id) ∧ className.IsIdent
  | .linkStyle _ properties => properties ≠ [] ∧ trim properties = properties
  | .unrecognized text => trim text ≠ []

theorem Element.Readable.neat {e : Element} (h : e.Readable) : e.Neat := by
  cases e with
  | declaration | subgraphEnd => trivial
  | comment => exact h
  | node => exact h.id
  | connection => exact ⟨h.source, h.target⟩
  | subgraphStart | classDef => exact h.1
  | classUse => exact h.2
  | linkStyle => exact ⟨h.2.1, h.2.2.1⟩
  | unrecognized text => exact fun hnil => h.2.1 (h.1.symm.trans hnil)

/-! ## Ends of canonical lines -/

theorem trim_append {a b : Text} (hane : a ≠ []) (ha : Stops isBlank a) (hbne : b ≠ [])
    (hb : ∀ c ∈ b.getLast?, isBlank c = false) : trim (a ++ b) = a ++ b :=
  trim_eq_self_iff.mpr ⟨ha.append hane, fun c hc =>
    hb c (by rwa [List.getLast?_append_of_ne_nil _ hbne] at hc)⟩

theorem trim_append_ident {a id : Text} (hane : a ≠ []) (ha : Stops isBlank a) (hid : id.IsIdent) :
    trim (a ++ id) = a ++ id :=
  trim_append hane ha hid.ne_nil fun _ hc =>
    isBlank_of_isWord (hid.word _ (List.mem_of_getLast? hc))

theorem trim_append_mark {a : Text} {c : Char} (hane : a ≠ []) (ha : Stops isBlank a)
    (hc : isBlank c = false) : trim (a ++ [c]) = a ++ [c] :=
  trim_append hane ha (by simp) (by simpa using hc)

theorem trim_renderClassDef (name properties : Text) :
    trim (renderClassDef name properties) = renderClassDef name properties :=
  trim_append_mark (by simp) (stops_cons.mpr rfl) rfl

theorem Node.trim_render {n : Node} (hid : n.id.IsIdent) : trim n.render = n.render := by
  obtain ⟨id, label, shape⟩ := n
  cases label with
  | none => exact IsIdent.trim hid
  | some l =>
    have hclosing : ∀ c ∈ ('"' :: shape.closing).getLast?, isBlank c = false := by
      cases shape <;> simp [Shape.closing] <;> rfl
    have hline := hid.stops_blank (shape.opening ++ '"' :: unquote l)
    rw [← List.append_assoc] at hline
    exact trim_append (by simp) hline (by simp) hclosing

theorem Connection.trim_render {c : Connection} (hsource : c.source.IsIdent)
    (htarget : c.target.IsIdent) : trim c.render = c.render := by
  obtain ⟨source, target, arrow, label⟩ := c
  have hline : ∀ middle : Text, trim (source ++ middle ++ target) = source ++ middle ++ target :=
    fun middle => trim_append_ident (by simp [hsource.ne_nil]) (hsource.stops_blank middle) htarget
  cases label with
  | none => simpa [render] using hline (' ' :: arrow.glyph ++ [' '])
  | some l =>
    cases arrow with
    | dottedInline =>
      simpa [render] using hline ([' ', '-', '.', ' ', '"'] ++ l ++ ['"', ' ', '.', '-', ' '])
    | _ => simpa [render] using hline (' ' :: Arrow.glyph _ ++ ['|', '"'] ++ l ++ ['"', '|', ' '])

namespace Element

/-- The line of a neat element has no blanks around it. -/
theorem trim_render {e : Element} (h : e.Neat) : trim e.render = e.render := by
  cases e with
  | declaration d =>
    obtain ⟨k, d⟩ := d
    cases k <;> cases d <;> rfl
  | comment text =>
    cases text with
    | nil => rfl
    | cons c text =>
      exact trim_append (a := ['%', '%', ' ']) (by simp) (stops_cons.mpr rfl) (by simp)
        (trim_eq_self_iff.mp h).2
  | node n => exact n.trim_render h
  | connection c => exact c.trim_render h.1 h.2
  | subgraphStart id label =>
    cases label with
    | none => exact trim_append_ident (by simp) (stops_cons.mpr rfl) h
    | some l =>
      exact trim_append (b := ['"', ']']) (by simp) (stops_cons.mpr rfl) (by simp) (by simp; rfl)
  | subgraphEnd => rfl
  | classDef name properties => exact trim_renderClassDef name _
  | classUse ids className => exact trim_append_mark (by simp) (stops_cons.mpr rfl) rfl
  | linkStyle positions properties =>
    obtain ⟨hne, htrim⟩ := h
    have hlast := (trim_eq_self_iff.mp htrim).2
    cases positions with
    | nil => exact trim_append (by simp) (stops_cons.mpr rfl) hne hlast
    | cons i is =>
      exact trim_append (b := [' '] ++ properties) (by simp) (stops_cons.mpr rfl) (by simp)
        (by rwa [List.getLast?_append_of_ne_nil _ hne])
  | unrecognized text => exact trim_trim text

end Element

theorem Element.render_ne_nil {e : Element} (h : e.Neat) : e.render ≠ [] := by
  cases e with
  | comment text => cases text <;> simp [render]
  | node n =>
    have hne : n.id ≠ [] := IsIdent.ne_nil h
    rw [render, Node.render]
    split
    · simp [hne]
    · exact hne
  | connection c =>
    have hne : c.source ≠ [] := h.1.ne_nil
    rw [render, Connection.render]
    split <;> simp [hne]
  | subgraphStart id label => cases label <;> simp [render]
  | linkStyle positions => cases positions <;> simp [render, renderLinkStyle]
  | unrecognized text => exact h
  | declaration d | subgraphEnd | classDef | classUse =>
    simp [render, Declaration.render, renderClassDef, renderClassUse]

/-! ## Frames -/

/-- The characters that canonical lines have outside of free text. -/
def Text.isPlain (c : Char) : Bool :=
  isWord c || [' ', '\t', '"', ';', '%', ',', '[', ']', '(', ')', '/', '\\', '-', '.', '<', '>',
    '|'].contains c

/-- The characters that set off free text from what is around it. -/
def Text.isSeparator (c : Char) : Bool := [' ', '\t', '"', ';'].contains c

/-- A line made of a piece of a free text and plain characters around it, set off by separators. -/
structure Framed (free line : Text) : Prop where
  pieces : ∃ front inner back : Text, line = front ++ (inner ++ back) ∧ inner <:+: free ∧
    (∀ c ∈ front, isPlain c = true) ∧ (∀ c ∈ back, isPlain c = true) ∧
    (inner ≠ [] → (∀ c ∈ front.getLast?, isSeparator c = true) ∧
      ∀ c ∈ back.head?, isSeparator c = true)

theorem isPlain_of_isWord {c : Char} (h : isWord c = true) : isPlain c = true := by
  rw [isPlain, h, Bool.true_or]

theorem Text.IsIdent.plain {id : Text} (h : id.IsIdent) : ∀ c ∈ id, isPlain c = true :=
  fun c hc => isPlain_of_isWord (h.word c hc)

theorem Framed.of_plain {free line : Text} (h : ∀ c ∈ line, isPlain c = true) : Framed free line :=
  ⟨line, [], [], by simp, List.nil_infix, h, by simp, by simp⟩

theorem isPlain_of_isSeparator {c : Char} (h : isSeparator c = true) : isPlain c = true := by
  simp only [isSeparator, List.contains_eq_mem, decide_eq_true_eq, List.mem_cons, List.not_mem_nil,
    or_false] at h
  rcases h with rfl | rfl | rfl | rfl <;> rfl

theorem Framed.ending {free inner w : Text} {c : Char} (hc : isSeparator c = true)
    (hw : ∀ d ∈ w, isPlain d = true) (hinner : inner <:+: free) :
    Framed free (w ++ c :: inner) := by
  refine ⟨w ++ [c], inner, [], by simp, hinner, ?_, by simp, fun _ => ⟨by simpa using hc, by simp⟩⟩
  exact List.forall_mem_append.mpr ⟨hw, by simpa using isPlain_of_isSeparator hc⟩

theorem Framed.enclosed {free inner w v : Text} {c d : Char} (hc : isSeparator c = true)
    (hd : isSeparator d = true) (hw : ∀ e ∈ w, isPlain e = true) (hv : ∀ e ∈ v, isPlain e = true)
    (hinner : inner <:+: free) : Framed free (w ++ c :: (inner ++ d :: v)) := by
  refine ⟨w ++ [c], inner, d :: v, by simp, hinner, ?_, ?_,
    fun _ => ⟨by simpa using hc, by simpa using hd⟩⟩
  · exact List.forall_mem_append.mpr ⟨hw, by simpa using isPlain_of_isSeparator hc⟩
  · exact List.forall_mem_cons.mpr ⟨isPlain_of_isSeparator hd, hv⟩

/-- A text that is not made of words and marks alone, and that no separator is part of. -/
structure Text.Foreign (w : Text) : Prop where
  whole : ∀ c ∈ w, isSeparator c = false
  strange : ∃ c ∈ w, isPlain c = false

theorem Text.Foreign.ne_nil {w : Text} (h : w.Foreign) : w ≠ [] := by
  obtain ⟨c, hc, -⟩ := h.strange
  exact List.ne_nil_of_mem hc

theorem Text.Foreign.not_infix {w t : Text} (h : w.Foreign) (ht : ∀ c ∈ t, isPlain c = true) :
    ¬ w <:+: t := by
  obtain ⟨c, hc, hplain⟩ := h.strange
  refine not_infix_of_mem hc fun hm => ?_
  rw [ht c hm] at hplain
  contradiction

/-- A foreign text on a framed line is in the free text. -/
theorem Framed.infix_free {free line w : Text} (h : Framed free line) (hw : w.Foreign)
    (hin : w <:+: line) : w <:+: free := by
  obtain ⟨front, inner, back, rfl, hinner, hfront, hback, hsep⟩ := h
  by_cases hnil : inner = []
  · subst hnil
    refine absurd hin (hw.not_infix fun c hc => ?_)
    rcases List.mem_append.mp hc with hc | hc
    · exact hfront c hc
    · exact hback c hc
  obtain ⟨hlast, hhead⟩ := hsep hnil
  have hrest : w <:+: inner ++ back := by
    rcases List.eq_nil_or_concat front with rfl | ⟨front, c, rfl⟩
    · exact hin
    · have hc : c ∉ w := fun hm => by
        have := hw.whole c hm
        rw [hlast c (by simp)] at this
        contradiction
      rw [List.concat_eq_append, List.append_assoc, List.singleton_append] at hin
      exact ((infix_append_cons hc).mp hin).resolve_left
        (hw.not_infix fun d hd => hfront d (by simp [hd]))
  refine List.IsInfix.trans ?_ hinner
  cases back with
  | nil => rwa [List.append_nil] at hrest
  | cons c back =>
    have hc : c ∉ w := fun hm => by
      have := hw.whole c hm
      rw [hhead c rfl] at this
      contradiction
    exact ((infix_append_cons hc).mp hrest).resolve_right
      (hw.not_infix fun d hd => hback d (List.mem_cons_of_mem _ hd))

/-- A framed line has no more of a strange character than its free text. -/
theorem Framed.count_le {free line : Text} (h : Framed free line) {c : Char}
    (hc : isPlain c = false) : line.count c ≤ free.count c := by
  obtain ⟨front, inner, back, rfl, hinner, hfront, hback, -⟩ := h
  have hnone : ∀ {t : Text}, (∀ d ∈ t, isPlain d = true) → t.count c = 0 := fun ht =>
    List.count_eq_zero.mpr fun hm => by
      rw [ht c hm] at hc
      contradiction
  rw [List.count_append, List.count_append, hnone hfront, hnone hback, Nat.zero_add, Nat.add_zero]
  exact hinner.sublist.count_le c

namespace Element

theorem plain_joined {pieces : List Text} (h : ∀ piece ∈ pieces, ∀ c ∈ piece, isPlain c = true) :
    ∀ c ∈ joined [','] pieces, isPlain c = true := by
  cases pieces with
  | nil => simp [joined]
  | cons first more =>
    rw [joined_cons]
    refine List.forall_mem_append.mpr ⟨h first List.mem_cons_self, fun c hc => ?_⟩
    obtain ⟨piece, hpiece, hc⟩ := List.mem_flatMap.mp hc
    rcases List.mem_cons.mp hc with rfl | hc
    · rfl
    · exact h piece (List.mem_cons_of_mem _ hpiece) c hc

/-- The line of a node has its label in a frame. -/
theorem framed_render_node {n : Node} (h : n.id.IsIdent) : Framed (n.label.getD []) n.render := by
  obtain ⟨id, label, shape⟩ := n
  cases label with
  | none => exact .of_plain h.plain
  | some l =>
    have hopening : ∀ c ∈ shape.opening, isPlain c = true := by cases shape <;> decide
    have hclosing : ∀ c ∈ shape.closing, isPlain c = true := by cases shape <;> decide
    have hframed : Framed l ((id ++ shape.opening) ++ '"' :: (unquote l ++ '"' :: shape.closing)) :=
      .enclosed rfl rfl (List.forall_mem_append.mpr ⟨h.plain, hopening⟩) hclosing
        (unquote_isInfix l)
    simpa [Node.render] using hframed

/-- The line of a connection has its label in a frame. -/
theorem framed_render_connection {c : Connection} (hsource : c.source.IsIdent)
    (htarget : c.target.IsIdent) : Framed (c.label.getD []) c.render := by
  obtain ⟨source, target, arrow, label⟩ := c
  have hglyph : ∀ c ∈ arrow.glyph, isPlain c = true := by cases arrow <;> decide
  cases label with
  | none =>
    have hframed : Framed [] (source ++ (' ' :: (arrow.glyph ++ ' ' :: target))) := by
      refine .of_plain (List.forall_mem_append.mpr ⟨hsource.plain, ?_⟩)
      exact List.forall_mem_cons.mpr ⟨rfl, List.forall_mem_append.mpr
        ⟨hglyph, List.forall_mem_cons.mpr ⟨rfl, htarget.plain⟩⟩⟩
    simpa [Connection.render] using hframed
  | some l =>
    have hframed : ∀ opening closing : Text, (∀ c ∈ opening, isPlain c = true) →
        (∀ c ∈ closing, isPlain c = true) →
        Framed l ((source ++ opening) ++ '"' :: (l ++ '"' :: (closing ++ target))) :=
      fun opening closing hopening hclosing => .enclosed rfl rfl
        (List.forall_mem_append.mpr ⟨hsource.plain, hopening⟩)
        (List.forall_mem_append.mpr ⟨hclosing, htarget.plain⟩) List.infix_rfl
    have hpipe : ∀ c ∈ ' ' :: (arrow.glyph ++ ['|']), isPlain c = true :=
      List.forall_mem_cons.mpr ⟨rfl, List.forall_mem_append.mpr ⟨hglyph, by decide⟩⟩
    cases arrow with
    | dottedInline =>
      simpa [Connection.render] using
        hframed [' ', '-', '.', ' '] [' ', '.', '-', ' '] (by decide) (by decide)
    | _ => simpa [Connection.render] using hframed _ ['|', ' '] hpipe (by decide)

/-- A canonical line is a piece of the free text of its element in a frame. -/
theorem framed_render {e : Element} (h : e.Neat) : Framed e.freeText e.render := by
  cases e with
  | declaration d =>
    obtain ⟨k, d⟩ := d
    exact .of_plain (by cases k <;> cases d <;> decide)
  | comment text =>
    cases text with
    | nil => exact .of_plain (by decide)
    | cons c text => exact .ending (w := ['%', '%']) rfl (by decide) List.infix_rfl
  | node n => exact framed_render_node h
  | connection c => exact framed_render_connection h.1 h.2
  | subgraphStart id label =>
    have hid : id.IsIdent := h
    have hfront : ∀ c ∈ ['s', 'u', 'b', 'g', 'r', 'a', 'p', 'h', ' '] ++ id, isPlain c = true :=
      List.forall_mem_append.mpr ⟨by decide, hid.plain⟩
    cases label with
    | none => exact .of_plain hfront
    | some l =>
      have hframed : Framed l (['s', 'u', 'b', 'g', 'r', 'a', 'p', 'h', ' '] ++ id ++ ['['] ++
          '"' :: (unquote l ++ '"' :: [']'])) :=
        .enclosed rfl rfl (List.forall_mem_append.mpr ⟨hfront, by decide⟩) (by decide)
          (unquote_isInfix l)
      simpa [render, freeText] using hframed
  | subgraphEnd => exact .of_plain (by decide)
  | classDef name properties =>
    have hname : name.IsIdent := h
    have hfront : ∀ c ∈ ['c', 'l', 'a', 's', 's', 'D', 'e', 'f', ' '] ++ name, isPlain c = true :=
      List.forall_mem_append.mpr ⟨by decide, hname.plain⟩
    have hframed : Framed properties (['c', 'l', 'a', 's', 's', 'D', 'e', 'f', ' '] ++ name ++
        ' ' :: (dropEnd (· == ';') properties ++ ';' :: [])) :=
      .enclosed rfl rfl hfront (by simp) dropEnd_isPrefix.isInfix
    simpa [render, renderClassDef, freeText] using hframed
  | classUse ids className =>
    obtain ⟨hids, hclass⟩ : (∀ id ∈ ids, IsIdent id) ∧ className.IsIdent := h
    have hjoined := plain_joined fun id hid => (hids id hid).plain
    refine .of_plain (List.forall_mem_append.mpr ⟨?_, by decide⟩)
    exact List.forall_mem_append.mpr ⟨List.forall_mem_append.mpr ⟨by decide, hjoined⟩,
      List.forall_mem_cons.mpr ⟨rfl, hclass.plain⟩⟩
  | linkStyle positions properties =>
    cases positions with
    | nil =>
      exact .ending (w := ['l', 'i', 'n', 'k', 'S', 't', 'y', 'l', 'e', ' ', 'd', 'e', 'f', 'a',
        'u', 'l', 't']) rfl (by decide) List.infix_rfl
    | cons i is =>
      have hjoined : ∀ c ∈ joined [','] ((i :: is).map Text.ofNat), isPlain c = true := by
        refine plain_joined fun piece hpiece c hc => ?_
        obtain ⟨n, -, rfl⟩ := List.mem_map.mp hpiece
        exact (isIdent_ofNat n).plain c hc
      exact .ending rfl (List.forall_mem_append.mpr ⟨by decide, hjoined⟩) List.infix_rfl
  | unrecognized text => exact ⟨[], trim text, [], by simp [render], trim_isInfix text, by simp⟩

end Element

end FlowTidy
