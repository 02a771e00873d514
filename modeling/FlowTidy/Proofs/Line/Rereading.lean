import FlowTidy.Proofs.Line.Symbols

/-!
Reading back the canonical line of an element. For every readable element, `Element.reread` is what
its canonical line reads as (`Element.ofLine_render`): comments, connections, ends, class uses, link
styles and unrecognized lines come back as they were, nodes and subgraphs up to the quotes and
blanks around their labels, and class definitions up to blanks and semicolons at the end. The one
exception is a node without a label whose identifier is a reserved word
(`Element.ofLine_of_isReserved`).
-/

namespace FlowTidy

open Text Scanner LineForm

/-! ## Identifiers alone on a line -/

/-- Whether an identifier that stands alone on a line is taken for an `end` or a declaration. -/
def isReserved (id : Text) : Bool :=
  sameLetters id ['e', 'n', 'd'] || Kind.all.any fun k =>
    sameLetters id k.keyword || Direction.all.any fun d => sameLetters id (k.keyword ++ d.keyword)

/-- The reserved words: the end of a subgraph, and kinds with a direction or none. -/
theorem isReserved_iff {id : Text} :
    isReserved id = true ↔ sameLetters id ['e', 'n', 'd'] = true ∨
      ∃ k : Kind, ∃ v, (v = [] ∨ ∃ d : Direction, v = d.keyword) ∧
        sameLetters id (k.keyword ++ v) = true := by
  have hkind : ∀ k : Kind, k ∈ Kind.all := by intro k; cases k <;> decide
  have hdirection : ∀ d : Direction, d ∈ Direction.all := by intro d; cases d <;> decide
  simp only [isReserved, Bool.or_eq_true, List.any_eq_true]
  refine or_congr_right ⟨?_, ?_⟩
  · rintro ⟨k, -, h | ⟨d, -, h⟩⟩
    · exact ⟨k, [], .inl rfl, by rwa [List.append_nil]⟩
    · exact ⟨k, d.keyword, .inr ⟨d, rfl⟩, h⟩
  · rintro ⟨k, v, rfl | ⟨d, rfl⟩, h⟩
    · exact ⟨k, hkind k, .inl (by rwa [List.append_nil] at h)⟩
    · exact ⟨k, hkind k, .inr ⟨d, hdirection d, h⟩⟩

/-- A kind is read from any spelling of its word. -/
theorem kind_append {k : Kind} {w : Text} (hw : sameLetters w k.keyword = true) (r : Text) :
    firstOf (Kind.all.map fun k => do keyword k.keyword; return k) (w ++ r) = some (k, r) := by
  have hread : (do keyword k.keyword; return k : Scanner Kind) (w ++ r) = some (k, r) :=
    step (keyword_append hw r) rfl
  cases k with
  | flowchart =>
    rw [Kind.all, List.map_cons, firstOf_cons, hread]
    rfl
  | graph =>
    -- the other kind is tried first and fails at the first letter
    have hother : (do keyword Kind.flowchart.keyword; return .flowchart : Scanner Kind) (w ++ r) =
        none := by
      cases w with
      | nil => contradiction
      | cons c w =>
        have hc : c.toLower = 'g' := (List.cons.inj (beq_iff_eq.mp hw)).1
        refine bind_of_eq_none (keyword_of_head ?_)
        rw [hc]
        decide
    rw [Kind.all, List.map_cons, firstOf_cons, hother, List.map_cons, firstOf_cons, hread]
    rfl

theorem direction_of_sameLetters {d : Direction} {v : Text}
    (hv : sameLetters v d.keyword = true) : ∃ d', direction v = some (d', []) := by
  have hlen : ∀ d : Direction, d.keyword.length = 2 := by intro d; cases d <;> rfl
  have hread : (do keyword d.keyword; return d : Scanner Direction) v = some (d, []) :=
    step (keyword_self hv) rfl
  have hmem : (do keyword d.keyword; return d : Scanner Direction) ∈
      Direction.all.map fun d => do keyword d.keyword; return d :=
    List.mem_map_of_mem (by cases d <;> decide)
  cases hdir : direction v with
  | none => exact absurd hdir (firstOf_ne_none hmem (by simp [hread]))
  | some x =>
    obtain ⟨d', r⟩ := x
    obtain ⟨v', hvr, hv'⟩ := direction_eq_some hdir
    -- all directions have the same length, so nothing is left
    have h := congrArg List.length hvr
    rw [List.length_append, length_of_sameLetters hv, length_of_sameLetters hv', hlen, hlen] at h
    have hnil : r = [] := List.length_eq_zero_iff.mp (by omega)
    exact ⟨d', by rw [hnil]⟩

/-- A kind with a direction right behind it, or none, is a declaration. -/
theorem recognize_declaration {k : Kind} {w v : Text} (hw : sameLetters w k.keyword = true)
    (hv : v = [] ∨ ∃ d : Direction, sameLetters v d.keyword = true) :
    ∃ d, recognize .declaration (w ++ v) = some (.declaration d) := by
  rcases hv with rfl | ⟨d, hv⟩
  · exact ⟨_, recognize_eq_some (step (kind_append hw []) rfl)⟩
  · have hident : v.IsIdent := isIdent_of_sameLetters hv
      (by cases d <;> exact ⟨by decide, by decide⟩)
    obtain ⟨d', hdirection⟩ := direction_of_sameLetters hv
    refine ⟨_, recognize_eq_some <| step (kind_append hw v) <| step (blanks_of_stops ?_) <|
      step (optional_of_eq_some hdirection) rfl⟩
    simpa using hident.stops_blank []

theorem eq_nil_of_blank {id b : Text} (hid : id.IsIdent) (hb : b.Blank) (hsub : ∀ c ∈ b, c ∈ id) :
    b = [] := by
  rw [List.eq_nil_iff_forall_not_mem]
  intro c hc
  have hword := isWord_of_isBlank (hb c hc)
  rw [hid.word c (hsub c hc)] at hword
  contradiction

theorem declaration_of_not_isReserved {id : Text} (hid : id.IsIdent) (h : isReserved id = false) :
    recognize .declaration id = none := by
  rw [Option.eq_none_iff_forall_ne_some]
  intro e he
  refine Bool.eq_false_iff.mp h (isReserved_iff.mpr (.inr ?_))
  cases Spelled.of_recognize he with
  | @declaration k d w b₁ v b₂ hw hb₁ hv hb₂ =>
    obtain rfl := eq_nil_of_blank hid hb₁ (by simp +contextual)
    obtain rfl := eq_nil_of_blank hid hb₂ (by simp +contextual)
    rw [List.nil_append, List.append_nil]
    rcases hv with ⟨rfl, -⟩ | hv
    · exact ⟨k, [], .inl rfl, sameLetters_append hw rfl⟩
    · exact ⟨k, d.keyword, .inr ⟨d, rfl⟩, sameLetters_append hw hv⟩

theorem subgraphEnd_of_not_isReserved {id : Text} (h : isReserved id = false) :
    recognize .subgraphEnd id = none := by
  rw [Option.eq_none_iff_forall_ne_some]
  intro e he
  refine Bool.eq_false_iff.mp h (isReserved_iff.mpr (.inl ?_))
  cases Spelled.of_recognize he with
  | subgraphEnd hw => exact hw

namespace Element

theorem ofLine_of_not_isReserved {id : Text} (hid : id.IsIdent) (h : isReserved id = false) :
    ofLine id = .node ⟨id, none, .rectangle⟩ :=
  calc ofLine id
    _ = pick (withLead .nothing) id := ofLine_eq_pick (Lead.of_word hid.word)
    _ = pick [.subgraphEnd, .bareNode] id := pick_of_none (declaration_of_not_isReserved hid h)
    _ = pick [.bareNode] id := pick_of_none (subgraphEnd_of_not_isReserved h)
    _ = .node ⟨id, none, .rectangle⟩ := pick_of_some (recognize_eq_some (step (ident_self hid) rfl))

/-- A reserved word on a line of its own is never a node. -/
theorem ofLine_of_isReserved {id : Text} (h : isReserved id = true) :
    ofLine id = .subgraphEnd ∨ ∃ d, ofLine id = .declaration d := by
  have hkind : ∀ k : Kind, k.keyword.IsIdent := by
    intro k; cases k <;> exact ⟨by decide, by decide⟩
  have hdirection : ∀ d : Direction, ∀ c ∈ d.keyword, isWord c = true := by
    intro d; cases d <;> decide
  rcases isReserved_iff.mp h with hend | ⟨k, v, hv, hdecl⟩
  · have hid : id.IsIdent := isIdent_of_sameLetters hend ⟨by decide, by decide⟩
    have hlead := ofLine_eq_pick (Lead.of_word hid.word)
    cases hdecl : recognize .declaration id with
    | some e =>
      refine .inr ?_
      cases Spelled.of_recognize hdecl with
      | @declaration k d => exact ⟨⟨k, d⟩, hlead.trans (pick_of_some hdecl)⟩
    | none =>
      refine .inl (hlead.trans ((pick_of_none hdecl).trans (pick_of_some (recognize_eq_some ?_))))
      exact step (keyword_self hend) rfl
  · obtain ⟨w, u, rfl, hw, hu⟩ := sameLetters_append_right hdecl
    have hu' : u = [] ∨ ∃ d : Direction, sameLetters u d.keyword = true := by
      rcases hv with rfl | ⟨d, rfl⟩
      · exact .inl (List.length_eq_zero_iff.mp (length_of_sameLetters hu))
      · exact .inr ⟨d, hu⟩
    have hword : ∀ c ∈ w ++ u, isWord c = true := by
      refine isWord_of_sameLetters hdecl fun c hc => ?_
      rcases List.mem_append.mp hc with hc | hc
      · exact (hkind k).word c hc
      · rcases hv with rfl | ⟨d, rfl⟩
        · contradiction
        · exact hdirection d c hc
    obtain ⟨d, hread⟩ := recognize_declaration hw hu'
    exact .inr ⟨d, (ofLine_eq_pick (Lead.of_word hword)).trans (pick_of_some hread)⟩

end Element

/-! ## Subgraphs -/

theorem subgraphLabel_quoted {text : Text} (hne : text ≠ []) (hquote : '"' ∉ text) :
    subgraphLabel ('[' :: '"' :: (text ++ ['"', ']'])) = some (text, []) :=
  orElse_eq_some_iff.mpr <| .inl <| step (mark_append ['[', '"'] _) <|
    step (run1_eq_some_iff.mpr ⟨rfl, hne, bne_of_not_mem hquote, stops_cons.mpr rfl⟩) <|
    step (mark_self ['"', ']']) rfl

/-- With a quote inside, the quotes around a label are read as a part of it. -/
theorem subgraphLabel_of_mem {text : Text} (hquote : '"' ∈ text) (hbracket : ']' ∉ text) :
    subgraphLabel ('[' :: '"' :: (text ++ ['"', ']'])) = some ('"' :: (text ++ ['"']), []) := by
  have hinner : ']' ∉ '"' :: (text ++ ['"']) := by simp [hbracket]
  have hassoc : '"' :: (text ++ ['"', ']']) = '"' :: (text ++ ['"']) ++ [']'] := by simp
  -- the reading without the quotes gets no further than the first quote inside
  have hfail : (do let text ← run1 (· != '"'); mark ['"', ']']; return text : Scanner Text)
      (text ++ ['"', ']']) = none := by
    obtain ⟨front, back, rfl, hfront⟩ := List.eq_append_cons_of_mem hquote
    rw [List.append_assoc, List.cons_append]
    cases front with
    | nil => rfl
    | cons c front =>
      refine step (run1_eq_some_iff.mpr
        ⟨rfl, by simp, bne_of_not_mem hfront, stops_cons.mpr rfl⟩) (bind_of_eq_none ?_)
      rw [Option.eq_none_iff_forall_ne_some]
      rintro ⟨u, r⟩ hmark
      have hback := mark_eq_some_iff.mp hmark
      cases back with
      | nil => simp at hback
      | cons d back =>
        obtain ⟨rfl, -⟩ : d = ']' ∧ _ := by simpa using hback
        simp at hbracket
  refine orElse_eq_some_iff.mpr (.inr ⟨step (mark_append ['[', '"'] _) hfail, ?_⟩)
  exact step (mark_append ['['] _) <|
    step (run1_eq_some_iff.mpr ⟨hassoc, by simp, bne_of_not_mem hinner, stops_cons.mpr rfl⟩) <|
    step (mark_self [']']) rfl

/-- The label of a subgraph is read back trimmed inside its quotes. -/
theorem subgraphLabel_render {l : Text} (hne : trim (unquote l) ≠ []) (hinner : '"' ∉ l ∨ ']' ∉ l) :
    ∃ text, subgraphLabel ('[' :: '"' :: (unquote l ++ ['"', ']'])) = some (text, []) ∧
      label? text = some (trim (requoted l)) := by
  by_cases hquote : '"' ∈ unquote l
  · refine ⟨_, subgraphLabel_of_mem hquote (not_mem_unquote hinner hquote),
      label?_eq_some_iff.mpr ?_⟩
    rw [requoted, if_pos hquote, trim_enclosed rfl rfl, unquote_quoted, unquote_unquote]
    exact ⟨rfl, hne⟩
  · refine ⟨_, subgraphLabel_quoted (unquote_ne_nil_of_trim hne) hquote,
      label?_eq_some_iff.mpr ?_⟩
    have htrim : '"' ∉ trim (unquote l) := fun hm => hquote ((trim_isInfix _).subset hm)
    rw [requoted, if_neg hquote, unquote_of_not_mem htrim, trim_trim]
    exact ⟨rfl, hne⟩

namespace Element

/-- The start of a subgraph is read back up to the quotes and blanks around its label. -/
theorem ofLine_render_subgraphStart {id : Text} {label : Option Text} (hid : id.IsIdent)
    (hlabel : ∀ l ∈ label, trim (unquote l) ≠ [] ∧ ('"' ∉ l ∨ ']' ∉ l)) :
    ofLine (render (.subgraphStart id label)) =
      .subgraphStart id (label.map fun l => trim (requoted l)) := by
  have hlead : ∀ r : Text,
      Lead.of (['s', 'u', 'b', 'g', 'r', 'a', 'p', 'h'] ++ ([' '] ++ (id ++ r))) = .word :=
    fun r => Lead.of_words (by decide) (by simp) blank_space hid
  have hpick : ∀ {r : Text} {e : Element},
      subgraphStartLine (['s', 'u', 'b', 'g', 'r', 'a', 'p', 'h'] ++ ' ' :: (id ++ r)) =
        some (e, []) →
      ofLine (['s', 'u', 'b', 'g', 'r', 'a', 'p', 'h'] ++ ' ' :: (id ++ r)) = e := by
    intro r e h
    refine (ofLine_eq_pick (hlead r)).trans ?_
    exact (pick_of_none (recognize_eq_none (bind_of_eq_none rfl))).trans
      (pick_of_some (recognize_eq_some h))
  cases label with
  | none =>
    have h : subgraphStartLine (['s', 'u', 'b', 'g', 'r', 'a', 'p', 'h'] ++ ' ' :: (id ++ [])) =
        some (.subgraphStart id none, []) :=
      step keyword_of_eq <| step (blanks1_space (hid.stops_blank [])) <|
        step (ident_append hid stops_nil) rfl
    simpa [render] using hpick h
  | some l =>
    obtain ⟨hne, hinner⟩ := hlabel l rfl
    obtain ⟨text, hsubgraphLabel, hlabel?⟩ := subgraphLabel_render hne hinner
    have h : subgraphStartLine (['s', 'u', 'b', 'g', 'r', 'a', 'p', 'h'] ++ ' ' ::
        (id ++ '[' :: '"' :: (unquote l ++ ['"', ']']))) =
          some (.subgraphStart id (label? text), []) :=
      step keyword_of_eq <| step (blanks1_space (hid.stops_blank _)) <|
        step (ident_append hid (stops_cons.mpr rfl)) <|
        step (optional_of_eq_some (step (blanks_of_stops (stops_cons.mpr rfl)) hsubgraphLabel)) rfl
    rw [hlabel?] at h
    simpa [render] using hpick h

end Element

/-! ## Classes -/

theorem classProperties_concat {text : Text} (hend : ∀ c ∈ text.getLast?, (c == ';') = false) :
    classProperties (text ++ [';']) = trimEnd text := by
  have htrim : trimEnd (text ++ [';']) = text ++ [';'] :=
    dropEnd_eq_self_iff.mpr (by simp; decide)
  have hdrop : dropEnd (· == ';') (text ++ [';']) = text := by
    rw [dropEnd_eq_rdropWhile, List.rdropWhile_concat_pos _ _ _ rfl, ← dropEnd_eq_rdropWhile]
    exact dropEnd_eq_self_iff.mpr hend
  rw [classProperties, htrim, hdrop]

/-- A text that starts without a blank keeps its start when its end is trimmed. -/
theorem trimEnd_ne_nil {text : Text} (hne : text ≠ []) (hstart : Stops isBlank text) :
    trimEnd text ≠ [] := by
  intro hnil
  cases text with
  | nil => contradiction
  | cons c text =>
    have htrim : trim (c :: text) = [] := by
      rw [trim, trimStart, List.dropWhile_cons_of_neg (by simp [stops_cons.mp hstart]), hnil]
    have hc := trim_eq_nil_iff.mp htrim c List.mem_cons_self
    rw [stops_cons.mp hstart] at hc
    contradiction

namespace Element

/-- A class definition is read back without blanks at its end, and without properties it is none. -/
theorem ofLine_renderClassDef {name text : Text} (hname : name.IsIdent)
    (hstart : Stops isBlank text) (hend : ∀ c ∈ text.getLast?, (c == ';') = false) :
    ofLine (renderClassDef name text) =
      if text = [] then .unrecognized (renderClassDef name [])
      else .classDef name (trimEnd text) := by
  have hrender : renderClassDef name text =
      ['c', 'l', 'a', 's', 's', 'D', 'e', 'f'] ++ ' ' :: (name ++ ' ' :: (text ++ [';'])) := by
    simp [renderClassDef]
  have hlead : Lead.of (renderClassDef name text) = .word := by
    rw [hrender]
    exact Lead.of_words (b := [' ']) (by decide) (by simp) blank_space hname
  have hpick : ofLine (renderClassDef name text) =
      pick [.classDef, .classUse, .linkStyle] (renderClassDef name text) := by
    rw [ofLine_eq_pick hlead, hrender]
    exact (pick_of_none (recognize_eq_none (bind_of_eq_none rfl))).trans
      (pick_of_none (recognize_eq_none (bind_of_eq_none rfl)))
  have hstops : Stops isBlank (text ++ [';']) := by
    cases text with
    | nil => exact stops_cons.mpr rfl
    | cons c text => exact stops_cons.mpr (stops_cons.mp hstart)
  have hread : classDefLine (renderClassDef name text) =
      (if trimEnd text = [] then failure else pure (.classDef name (trimEnd text)) :
        Scanner Element) [] := by
    rw [hrender, ← classProperties_concat hend]
    exact step keyword_of_eq <| step (blanks1_space (hname.stops_blank _)) <|
      step (ident_append hname (stops_cons.mpr rfl)) <| step (blanks1_space hstops) <|
      step (p := rest) rfl rfl
  rw [hpick]
  split
  · next hnil =>
    subst hnil
    have hdef : recognize .classDef (renderClassDef name []) = none := recognize_eq_none hread
    refine (pick_of_none hdef).trans ?_
    rw [hrender]
    -- after the word `class` there is no blank, and `linkStyle` begins with another letter
    exact (pick_of_none (recognize_eq_none <|
      (step (keyword_of_eq (k := ['c', 'l', 'a', 's', 's'])) (bind_of_eq_none rfl)))).trans
      (pick_of_none (recognize_eq_none (bind_of_eq_none rfl)))
  · next hne =>
    rw [if_neg (trimEnd_ne_nil hne hstart)] at hread
    exact pick_of_some (recognize_eq_some hread)

theorem ofLine_renderClassUse {ids : List Text} {name : Text} (hne : ids ≠ [])
    (hids : ∀ id ∈ ids, IsIdent id) (hname : name.IsIdent) :
    ofLine (renderClassUse ids name) = .classUse ids name := by
  cases ids with
  | nil => contradiction
  | cons id ids =>
    have hrender : renderClassUse (id :: ids) name = ['c', 'l', 'a', 's', 's'] ++
        ' ' :: (joined [','] (id :: ids) ++ ' ' :: (name ++ [';'])) := by
      simp [renderClassUse]
    have hid : id.IsIdent := hids id List.mem_cons_self
    have hfront : ∃ r, joined [','] (id :: ids) ++ ' ' :: (name ++ [';']) = id ++ r :=
      ⟨_, by rw [joined_cons, List.append_assoc]⟩
    obtain ⟨r, hr⟩ := hfront
    have hend : (do comma; ident : Scanner Text) (' ' :: (name ++ [';'])) = none := by
      refine (afterComma_append blank_space (hname.stops_blank _)).trans ?_
      exact afterComma_of_head (hname.stops_blank _) (hname.head?_ne rfl)
    have hlist : commaList ident (joined [','] ((id :: ids).map fun i => i) ++
        ' ' :: (name ++ [';'])) = some (id :: ids, ' ' :: (name ++ [';'])) :=
      commaList_joined (q := isWord) rfl (fun y hy s hs => ident_append (hids y hy) hs)
        (fun y hy s => (hids y (List.mem_cons_of_mem _ hy)).stops_blank s) (stops_cons.mpr rfl) hend
    rw [List.map_id'] at hlist
    have hlead : Lead.of (['c', 'l', 'a', 's', 's'] ++
        ' ' :: (joined [','] (id :: ids) ++ ' ' :: (name ++ [';']))) = .word := by
      rw [hr]
      exact Lead.of_words (b := [' ']) (by decide) (by simp) blank_space hid
    rw [hrender, ofLine_eq_pick hlead]
    refine (pick_of_none (recognize_eq_none (bind_of_eq_none rfl))).trans <|
      (pick_of_none (recognize_eq_none (bind_of_eq_none rfl))).trans <|
      (pick_of_none (recognize_eq_none (bind_of_eq_none rfl))).trans <|
      pick_of_some (recognize_eq_some ?_)
    refine step keyword_of_eq <| step (blanks1_space ?_) <| step hlist <|
      step (blanks1_space (hname.stops_blank _)) <|
      step (ident_append hname (stops_cons.mpr rfl)) <|
      step (optional_of_eq_some (mark_self [';'])) rfl
    rw [hr]
    exact hid.stops_blank r

end Element

/-! ## Link styles -/

theorem index_ofNat {n : Nat} (hn : n < Nat.pow 2 64) {r : Text} (hr : Stops Char.isDigit r) :
    index (Text.ofNat n ++ r) = some (n, r) := by
  refine step (run1_eq_some_iff.mpr
    ⟨rfl, (isIdent_ofNat n).ne_nil, fun _ hc => isDigit_of_mem_ofNat hc, hr⟩) ?_
  have hdigits : Nat.ofDigitChars 10 (Text.ofNat n) 0 = n := Nat.ofDigitChars_ten_toDigits
  rw [hdigits]
  exact if_pos hn ▸ rfl

theorem indices_ofNat {i : Nat} {is : List Nat} (hlt : ∀ j ∈ i :: is, j < Nat.pow 2 64) {r : Text}
    (hr : Stops Char.isDigit r) (hend : (do comma; index : Scanner Nat) r = none) :
    indices (joined [','] ((i :: is).map Text.ofNat) ++ r) = some (i :: is, r) := by
  refine orElse_eq_some_iff.mpr (.inr ⟨bind_of_eq_none ?_, ?_⟩)
  · -- a digit is not the first letter of `default`
    rw [List.map_cons, joined_cons, List.append_assoc]
    cases hi : Text.ofNat i with
    | nil => exact absurd hi (isIdent_ofNat i).ne_nil
    | cons c digits =>
      have hc : c.isDigit = true := isDigit_of_mem_ofNat (n := i) (by simp [hi])
      refine keyword_of_head fun hd => ?_
      rw [toLower_of_isDigit hc] at hd
      rw [hd] at hc
      contradiction
  · exact commaList_joined (q := Char.isDigit) rfl (fun j hj s hs => index_ofNat (hlt j hj) hs)
      (fun j _ s => (isIdent_ofNat j).stops_blank s) hr hend

namespace Element

/-- A link style is read back if its positions can be, and its properties do not go on with them. -/
theorem ofLine_render_linkStyle {positions : List Nat} {properties : Text}
    (hlt : ∀ i ∈ positions, i < Nat.pow 2 64) (hne : properties ≠ [])
    (htrim : trim properties = properties)
    (hend : positions ≠ [] → (do comma; index : Scanner Nat) properties = none) :
    ofLine (render (.linkStyle positions properties)) = .linkStyle positions properties := by
  have hstart : Stops isBlank properties := (trim_eq_self_iff.mp htrim).1
  -- the positions are a word, which the properties follow after a blank
  have hpick : ∀ {first more : Text}, first.IsIdent →
      indices (first ++ (more ++ ' ' :: properties)) = some (positions, ' ' :: properties) →
      ofLine (['l', 'i', 'n', 'k', 'S', 't', 'y', 'l', 'e'] ++
        ' ' :: (first ++ (more ++ ' ' :: properties))) = .linkStyle positions properties := by
    intro first more hfirst hindices
    have hlead : Lead.of (['l', 'i', 'n', 'k', 'S', 't', 'y', 'l', 'e'] ++
        ' ' :: (first ++ (more ++ ' ' :: properties))) = .word :=
      Lead.of_words (b := [' ']) (by decide) (by simp) blank_space hfirst
    rw [ofLine_eq_pick hlead]
    refine (pick_of_none (recognize_eq_none (bind_of_eq_none rfl))).trans <|
      (pick_of_none (recognize_eq_none (bind_of_eq_none rfl))).trans <|
      (pick_of_none (recognize_eq_none (bind_of_eq_none rfl))).trans <|
      (pick_of_none (recognize_eq_none (bind_of_eq_none rfl))).trans <|
      pick_of_some (recognize_eq_some ?_)
    refine step keyword_of_eq <| step (blanks1_space (hfirst.stops_blank _)) <| step hindices <|
      step (blanks1_space hstart) <| step (p := rest) rfl ?_
    rw [htrim, if_neg hne]
    rfl
  cases positions with
  | nil =>
    have hdefault : indices (['d', 'e', 'f', 'a', 'u', 'l', 't'] ++ ([] ++ ' ' :: properties)) =
        some ([], ' ' :: properties) :=
      orElse_eq_some_iff.mpr (.inl (step keyword_of_eq rfl))
    have h := hpick ⟨by decide, by decide⟩ hdefault
    simpa [render] using h
  | cons i is =>
    have hcomma : (do comma; index : Scanner Nat) (' ' :: properties) = none :=
      (afterComma_append blank_space hstart).trans (hend (by simp))
    have hindices := indices_ofNat hlt (stops_cons.mpr rfl) hcomma
    rw [List.map_cons, joined_cons, List.append_assoc] at hindices
    have h := hpick (isIdent_ofNat i) hindices
    rwa [← List.append_assoc (Text.ofNat i), ← joined_cons, ← List.map_cons] at h

end Element

/-- A link style begins with two words, whatever its positions are. -/
theorem lead_render_linkStyle (positions : List Nat) (properties : Text) :
    Lead.of (Element.render (.linkStyle positions properties)) = .word := by
  cases positions with
  | nil =>
    exact Lead.of_words (w := ['l', 'i', 'n', 'k', 'S', 't', 'y', 'l', 'e']) (b := [' '])
      (r := ' ' :: properties) (by decide) (by simp) blank_space
      (⟨by decide, by decide⟩ : IsIdent ['d', 'e', 'f', 'a', 'u', 'l', 't'])
  | cons i is =>
    have hrender : Element.render (.linkStyle (i :: is) properties) =
        ['l', 'i', 'n', 'k', 'S', 't', 'y', 'l', 'e'] ++ ([' '] ++ (Text.ofNat i ++
          (((is.map Text.ofNat).flatMap ([','] ++ ·)) ++ ' ' :: properties))) := by
      simp [Element.render, renderLinkStyle, joined_cons]
    rw [hrender]
    exact Lead.of_words (by decide) (by simp) blank_space (isIdent_ofNat i)

/-! ## All lines -/

/-- The node that the canonical line of a node reads as. -/
def Node.reread (n : Node) : Node where
  id := n.id
  label := n.label.map requoted
  shape := if n.label.isSome then n.shape else .rectangle

/-- Whether the canonical line of a node is no longer a node. -/
def Node.isLost (n : Node) : Bool := n.label.isNone && isReserved n.id

/-- The element that the canonical line of an element reads as. -/
def Element.reread : Element → Element
  | .node n => .node n.reread
  | .subgraphStart id label => .subgraphStart id (label.map fun l => trim (requoted l))
  | .classDef name properties =>
    if dropEnd (· == ';') properties = [] then .unrecognized (renderClassDef name [])
    else .classDef name (trimEnd (dropEnd (· == ';') properties))
  | e => e

def Element.isLost : Element → Bool
  | .node n => n.isLost
  | _ => false

/-- The canonical line of a readable element that is not lost reads as the element again, up to
quotes, blanks and semicolons. -/
theorem Element.ofLine_render {e : Element} (h : e.Readable) (hlost : e.isLost = false) :
    ofLine e.render = e.reread := by
  cases e with
  | declaration d => exact ofLine_render_declaration d
  | comment text => exact ofLine_render_comment h
  | node n =>
    obtain ⟨id, label, shape⟩ := n
    cases label with
    | none => exact ofLine_of_not_isReserved h.id hlost
    | some l =>
      obtain ⟨hne, hfits⟩ := h.label l rfl
      exact ofLine_render_node h.id hne hfits
  | connection c => exact ofLine_render_connection h
  | subgraphStart id label => exact ofLine_render_subgraphStart h.1 h.2
  | subgraphEnd => rfl
  | classDef name properties =>
    obtain ⟨hname, -, htrim⟩ := h
    refine ofLine_renderClassDef hname ?_ fun c hc => getLast?_dropEnd (p := (· == ';')) hc
    exact (trim_eq_self_iff.mp htrim).1.of_isPrefix dropEnd_isPrefix
  | classUse ids className => exact ofLine_renderClassUse h.1 h.2.1 h.2.2
  | linkStyle positions properties =>
    obtain ⟨hlt, hne, htrim, hend⟩ := h
    exact ofLine_render_linkStyle hlt hne htrim hend
  | unrecognized text =>
    obtain ⟨htrim, -, hnone⟩ := h
    rw [render, htrim, ofLine, hnone]
    rfl

end FlowTidy
