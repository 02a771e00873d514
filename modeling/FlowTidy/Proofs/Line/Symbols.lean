import FlowTidy.Line.Render
import FlowTidy.Proofs.Line.Inline

/-!
Canonical lines with arrows and brackets on them, read back. Each has few forms in question, told by
its lead: those before its own in the priority refuse it, and its own gives the connection or the
node that was written.
-/

namespace FlowTidy

open Text Scanner LineForm

/-! ## Choice of a form -/

/-- The element that a line is when only some forms are tried. -/
def Element.pick (forms : List LineForm) (line : Text) : Element :=
  match firstMatch? forms line with
  | some (_, element) => element
  | none => .unrecognized line

namespace Element

/-- Only the forms that admit the lead of a line are tried on it. -/
theorem ofLine_eq_pick {line : Text} {lead : Lead} (h : Lead.of line = lead) :
    ofLine line = pick (withLead lead) line := by
  have hforms : classify? line = firstMatch? (withLead lead) line := by
    rw [classify?_eq_firstMatch?, h]
  cases hfirst : firstMatch? (withLead lead) line with
  | none => simp [ofLine, pick, hforms, hfirst]
  | some m => simp [ofLine, pick, hforms, hfirst]

theorem pick_of_some {form : LineForm} {forms : List LineForm} {line : Text} {e : Element}
    (h : form.recognize line = some e) : pick (form :: forms) line = e := by
  rw [pick, firstMatch?_of_some h]

theorem pick_of_none {form : LineForm} {forms : List LineForm} {line : Text}
    (h : form.recognize line = none) : pick (form :: forms) line = pick forms line := by
  rw [pick, firstMatch?_of_none h]
  rfl

end Element

theorem recognize_eq_some {form : LineForm} {line : Text} {e : Element}
    (h : form.scanner line = some (e, [])) : form.recognize line = some e :=
  whole?_eq_some_iff.mpr h

theorem recognize_eq_none {form : LineForm} {line : Text} (h : form.scanner line = none) :
    form.recognize line = none := by
  rw [recognize, whole?, h]

/-! ## Declarations and comments -/

namespace Element

theorem ofLine_render_declaration (d : Declaration) : ofLine d.render = .declaration d := by
  obtain ⟨k, d⟩ := d
  cases k <;> cases d <;> rfl

theorem ofLine_render_comment {text : Text} (h : trim text = text) :
    ofLine (render (.comment text)) = .comment text := by
  have hstops : Stops isBlank text := (trim_eq_self_iff.mp h).1
  have hlead : Lead.of (render (.comment text)) = .percent := by cases text <;> rfl
  rw [ofLine_eq_pick hlead]
  refine pick_of_some (recognize_eq_some ?_)
  cases text with
  | nil => rfl
  | cons c text => exact step (mark_append _ _) <| step (blanks_space hstops) rfl

end Element

/-! ## Connections -/

theorem arrow_append {a : Arrow} (h : a ≠ .dottedInline) (r : Text) :
    arrow (a.glyph ++ r) = some (a, r) := by
  cases a with
  | dottedInline => contradiction
  | _ => rfl

theorem glyph_stops_blank (a : Arrow) (r : Text) : Stops isBlank (a.glyph ++ r) := by
  cases a <;> exact stops_cons.mpr rfl

theorem label?_of_trim {l : Text} (hne : l ≠ []) (htrim : trim l = l) (hquote : '"' ∉ l) :
    label? l = some l := by
  have hread : label? l = some (trim l) := by apply label?_of_not_mem <;> rwa [htrim]
  rwa [htrim] at hread

section
variable {s t l : Text} {a : Arrow}

/-- A connection with its label between pipes is read back. -/
theorem recognize_labeledPipe (hs : s.IsIdent) (ha : a ≠ .dottedInline) (hlabel : label? l = some l)
    (hne : l ≠ []) (hquote : '"' ∉ l) (hpipe : '|' ∉ l) (ht : t.IsIdent) :
    recognize .labeledPipe
      (s ++ ' ' :: (a.glyph ++ '|' :: '"' :: (l ++ '"' :: '|' :: ' ' :: t))) =
        some (.connection ⟨s, t, a, some l⟩) := by
  refine recognize_eq_some ?_
  have htext : ∀ c ∈ l, (c != '"' && c != '|') = true := by
    intro c hc
    rw [bne_of_not_mem hquote c hc, bne_of_not_mem hpipe c hc]
    rfl
  refine step (ident_append hs (stops_cons.mpr rfl)) <|
    step (blanks_space (glyph_stops_blank a _)) <| step (arrow_append ha _) <|
    step (blanks_of_stops (stops_cons.mpr rfl)) <| step (mark_append ['|'] _) <|
    step (quote?_cons _) <|
    step (run1_eq_some_iff.mpr ⟨rfl, hne, htext, stops_cons.mpr rfl⟩) <|
    step (quote?_cons _) <| step (mark_append ['|'] _) <|
    step (blanks_space (by simpa using ht.stops_blank [])) <| step (ident_self ht) ?_
  rw [hlabel]
  rfl

/-- The first half of a dotted line that carries its label is no arrow. -/
theorem labeledPipe_of_dottedInline {r : Text} (hs : s.IsIdent) :
    recognize .labeledPipe (s ++ ' ' :: '-' :: '.' :: ' ' :: r) = none :=
  recognize_eq_none <| step (ident_append hs (stops_cons.mpr rfl)) <|
    step (blanks_space (stops_cons.mpr rfl)) <| bind_of_eq_none rfl

theorem recognize_dottedInline (hs : s.IsIdent) (hlabel : label? l = some l) (hquote : '"' ∉ l)
    (ht : t.IsIdent) :
    recognize .dottedInline
      (s ++ ' ' :: '-' :: '.' :: ' ' :: '"' :: (l ++ '"' :: ' ' :: '.' :: '-' :: ' ' :: t)) =
        some (.connection ⟨s, t, .dottedInline, some l⟩) := by
  obtain ⟨htrim, hne⟩ := label?_eq_some_iff.mp hlabel
  rw [unquote_of_not_mem hquote] at hne
  have hread := Inlined.recognize ⟨hs, ht, hquote, fun hblank => hne (trim_eq_nil_iff.mpr hblank),
    [' '], [' '], ['"'], ['"'], [' '], ['.', '-'], [' '], blank_space, blank_space, .inr rfl,
    .inr rfl, blank_space, .inl rfl, blank_space, rfl⟩
  rwa [← htrim] at hread

theorem recognize_unlabeled (hs : s.IsIdent) (ha : a ≠ .dottedInline) (ht : t.IsIdent) :
    recognize .unlabeled (s ++ ' ' :: (a.glyph ++ ' ' :: t)) =
      some (.connection ⟨s, t, a, none⟩) :=
  recognize_eq_some <| step (ident_append hs (stops_cons.mpr rfl)) <|
    step (blanks_space (glyph_stops_blank a _)) <| step (arrow_append ha _) <|
    step (blanks_space (by simpa using ht.stops_blank [])) <| step (ident_self ht) rfl

theorem labeledPipe_of_unlabeled (hs : s.IsIdent) (ha : a ≠ .dottedInline) (ht : t.IsIdent) :
    recognize .labeledPipe (s ++ ' ' :: (a.glyph ++ ' ' :: t)) = none := by
  have hbar : mark ['|'] t = none := by
    rw [Option.eq_none_iff_forall_ne_some]
    rintro ⟨u, r⟩ h
    obtain rfl := mark_eq_some_iff.mp h
    exact ht.not_mem (c := '|') (by decide) (by simp)
  exact recognize_eq_none <| step (ident_append hs (stops_cons.mpr rfl)) <|
    step (blanks_space (glyph_stops_blank a _)) <| step (arrow_append ha _) <|
    step (blanks_space (by simpa using ht.stops_blank [])) <| bind_of_eq_none hbar

/-- A dotted arrow is not the first half of a dotted line that carries its label: nothing after it
is a second half. -/
theorem dottedInline_of_unlabeled (hs : s.IsIdent) (ha : a ≠ .dottedInline) (ht : t.IsIdent) :
    recognize .dottedInline (s ++ ' ' :: (a.glyph ++ ' ' :: t)) = none := by
  refine recognize_eq_none <| step (ident_append hs (stops_cons.mpr rfl)) <|
    step (blanks_space (glyph_stops_blank a _)) ?_
  cases a with
  | dottedInline => contradiction
  | solid | bidirectional | line | dottedBidirectional => exact bind_of_eq_none rfl
  | dottedArrow =>
    refine step (mark_append ['-', '.'] ('-' :: '>' :: ' ' :: t)) ?_
    rw [Option.eq_none_iff_forall_ne_some]
    rintro ⟨e, r⟩ h
    simp only [bind_eq_some_iff, blanks_eq_some_iff] at h
    obtain ⟨-, _, ⟨b, hb, -, -⟩, _, _, e₁, text, _, hupTo, _, _, e₂, target, _, htail, -⟩ := h
    obtain ⟨q₁, -, rfl⟩ := isQuote_of_quote? e₁
    obtain ⟨rfl, -⟩ := upTo_eq_some hupTo
    obtain ⟨q₂, -, rfl⟩ := isQuote_of_quote? e₂
    obtain ⟨b₁, closing, b₂, -, hclosing, -, -, rfl⟩ := inlineTail_eq_some htail
    have hdot : '.' ∈ closing := by rcases hclosing with rfl | rfl <;> decide
    have hmem : '.' ∈ '-' :: '>' :: ' ' :: t := hb ▸ by simp [hdot]
    simp only [List.mem_cons, Char.reduceEq, false_or] at hmem
    exact ht.not_mem (by decide) hmem

end

theorem Element.ofLine_render_connection {c : Connection} (h : c.Readable) :
    ofLine (render (.connection c)) = .connection c := by
  obtain ⟨s, t, a, label⟩ := c
  obtain ⟨hs, ht, hlabel, hinline⟩ := h
  simp only at hs ht hlabel hinline
  cases label with
  | none =>
    have ha : a ≠ .dottedInline := fun e => hinline e rfl
    have hrender : render (.connection ⟨s, t, a, none⟩) = s ++ ' ' :: (a.glyph ++ ' ' :: t) := by
      simp [render, Connection.render]
    rw [hrender]
    calc ofLine (s ++ ' ' :: (a.glyph ++ ' ' :: t))
      _ = pick (withLead .arrow) _ := ofLine_eq_pick (lead_glyph hs blank_space)
      _ = pick [.dottedInline, .unlabeled] _ := pick_of_none (labeledPipe_of_unlabeled hs ha ht)
      _ = pick [.unlabeled] _ := pick_of_none (dottedInline_of_unlabeled hs ha ht)
      _ = .connection ⟨s, t, a, none⟩ := pick_of_some (recognize_unlabeled hs ha ht)
  | some l =>
    obtain ⟨hne, htrim, hquote, hpipe⟩ := hlabel l rfl
    have hread := label?_of_trim hne htrim hquote
    by_cases ha : a = .dottedInline
    · subst ha
      have hrender : render (.connection ⟨s, t, .dottedInline, some l⟩) =
          s ++ ' ' :: '-' :: '.' :: ' ' :: '"' :: (l ++ '"' :: ' ' :: '.' :: '-' :: ' ' :: t) := by
        simp [render, Connection.render]
      rw [hrender]
      calc ofLine (s ++ ' ' :: '-' :: _)
        _ = pick (withLead .arrow) _ :=
          ofLine_eq_pick (Lead.of_append_cons hs.word blank_space (by decide) (by decide))
        _ = pick [.dottedInline, .unlabeled] _ := pick_of_none (labeledPipe_of_dottedInline hs)
        _ = .connection ⟨s, t, .dottedInline, some l⟩ :=
          pick_of_some (recognize_dottedInline hs hread hquote ht)
    · have hrender : render (.connection ⟨s, t, a, some l⟩) =
          s ++ ' ' :: (a.glyph ++ '|' :: '"' :: (l ++ '"' :: '|' :: ' ' :: t)) := by
        cases a <;> simp_all [render, Connection.render]
      rw [hrender]
      calc ofLine (s ++ ' ' :: (a.glyph ++ _))
        _ = pick (withLead .arrow) _ := ofLine_eq_pick (lead_glyph hs blank_space)
        _ = .connection ⟨s, t, a, some l⟩ :=
          pick_of_some (recognize_labeledPipe hs ha hread hne hquote (hpipe ha) ht)

/-! ## Nodes with a label -/

/-- A label that was put between quotes and read back without regard to them. If there are more
quotes inside, the outer ones are taken for a part of the label. -/
def Text.requoted (label : Text) : Text :=
  if '"' ∈ unquote label then '"' :: (unquote label ++ ['"']) else unquote label

theorem unquote_requoted (label : Text) : unquote (requoted label) = unquote label := by
  rw [requoted]
  split
  · rw [unquote_quoted, unquote_unquote]
  · exact unquote_unquote label

/-- Trimming the label of a rendered line reaches inside the quotes unless there are more of
them. -/
theorem unquote_trim_requoted (label : Text) :
    unquote (trim (requoted label)) =
      if '"' ∈ unquote label then unquote label else trim (unquote label) := by
  rw [requoted]
  split
  · rw [trim_enclosed rfl rfl, unquote_quoted, unquote_unquote]
  · next hquote => exact unquote_of_not_mem fun hm => hquote ((trim_isInfix _).subset hm)

theorem not_mem_unquote {label : Text} (h : '"' ∉ label ∨ ']' ∉ label)
    (hquote : '"' ∈ unquote label) : ']' ∉ unquote label := by
  intro hm
  rcases h with h | h
  · exact h ((unquote_isInfix label).subset hquote)
  · exact h ((unquote_isInfix label).subset hm)

theorem requoted_of_not_mem {label : Text} (h : '"' ∉ label) : requoted label = label := by
  rw [requoted, unquote_of_not_mem h, if_neg h]

theorem opening_stops (shape : Shape) (r : Text) :
    Stops isWord (shape.opening ++ r) ∧ Stops isBlank (shape.opening ++ r) := by
  cases shape <;> exact ⟨stops_cons.mpr rfl, stops_cons.mpr rfl⟩

theorem closing_stops_blank (shape : Shape) : Stops isBlank shape.closing := by
  cases shape <;> exact stops_cons.mpr rfl

/-- The front of every line with a shape on it: the identifier and the opening bracket. -/
theorem front_step {α : Type} (shape : Shape) {id r : Text} {f : Text → Scanner α}
    {x : Option (α × Text)} (hid : id.IsIdent) (h : f id r = x) :
    (do let id ← ident; blanks; mark shape.opening; f id : Scanner α)
      (id ++ (shape.opening ++ r)) = x :=
  step (ident_append hid (opening_stops shape r).1) <|
    step (blanks_of_stops (opening_stops shape r).2) <| step (mark_append shape.opening r) h

section
variable {id l : Text}

theorem recognize_stadium (hid : id.IsIdent) (hlabel : label? l = some l) (hquote : '"' ∉ l)
    (hbracket : ']' ∉ l) :
    recognize .stadium
      (id ++ (Shape.stadium.opening ++ '"' :: (l ++ '"' :: Shape.stadium.closing))) =
        some (.node ⟨id, some l, .stadium⟩) := by
  have htext : ∀ c ∈ l, (c != '"' && c != ']') = true := by
    intro c hc
    rw [bne_of_not_mem hquote c hc, bne_of_not_mem hbracket c hc]
    rfl
  refine recognize_eq_some <| front_step .stadium hid <|
    step (blanks_of_stops (stops_cons.mpr rfl)) <| step (quote?_cons _) <|
    step (run_eq_some_iff.mpr ⟨rfl, htext, stops_cons.mpr rfl⟩) <|
    step (quote?_cons _) <| step (blanks_of_stops (closing_stops_blank .stadium)) <|
    step (mark_self _) ?_
  rw [hlabel]
  rfl

theorem bracketedLine_render {shape : Shape} (hid : id.IsIdent) (hlabel : label? l = some l)
    (hquote : '"' ∉ l) :
    bracketedLine shape (id ++ (shape.opening ++ '"' :: (l ++ '"' :: shape.closing))) =
      some (.node ⟨id, some l, shape⟩, []) := by
  -- the closing bracket is looked for at the very end only
  have hstop : ∀ w, w <:+ l → w ≠ [] → (w ++ '"' :: shape.closing == shape.closing) = false := by
    intro w _ _
    rw [beq_eq_false_iff_ne]
    intro h
    have := congrArg List.length h
    simp only [List.length_append, List.length_cons] at this
    omega
  refine front_step shape hid <|
    step (blanks_of_stops (stops_cons.mpr rfl)) <| step (quote?_cons _) <|
    step (congrArg some (splitUpTo_append (bne_of_not_mem hquote) hstop
      (.inl (stops_cons.mpr rfl)))) <|
    step (quote?_cons _) <| step (blanks_of_stops (closing_stops_blank shape)) <|
    step (mark_self _) ?_
  rw [hlabel]
  rfl

theorem bracketedLine_of_opening {shape : Shape} {r : Text} (hid : id.IsIdent)
    (h : Text.after? shape.opening ('[' :: r) = none) :
    bracketedLine shape (id ++ '[' :: r) = none := by
  refine step (ident_append hid (stops_cons.mpr rfl)) <|
    step (blanks_of_stops (stops_cons.mpr rfl)) <| bind_of_eq_none ?_
  rw [mark, h]
  rfl

theorem recognize_quotedRectangle (hid : id.IsIdent) (hne : l ≠ []) (hquote : '"' ∉ l) :
    recognize .quotedRectangle (id ++ '[' :: '"' :: (l ++ ['"', ']'])) =
      some (.node ⟨id, some l, .rectangle⟩) := by
  refine recognize_eq_some <| front_step .rectangle hid <|
    step (blanks_of_stops (stops_cons.mpr rfl)) <| step (mark_append ['"'] _) <|
    step (run_eq_some_iff.mpr ⟨rfl, bne_of_not_mem hquote, stops_cons.mpr rfl⟩) <|
    step (mark_append ['"'] _) <| step (blanks_of_stops (stops_cons.mpr rfl)) <|
    step (mark_append [']'] []) ?_
  rw [if_neg hne]
  rfl

/-- A quoted label holds no quote, so a line with a third quote has none. -/
theorem quotedRectangle_of_mem (hquote : '"' ∈ l) :
    recognize .quotedRectangle (id ++ '[' :: '"' :: (l ++ ['"', ']'])) = none := by
  rw [Option.eq_none_iff_forall_ne_some]
  intro e h
  have hcount : List.count '"' (id ++ '[' :: '"' :: (l ++ ['"', ']'])) ≤ 2 := by
    generalize id ++ '[' :: '"' :: (l ++ ['"', ']']) = line at h
    cases Spelled.of_recognize h with
    | quotedRectangle henc htext =>
      obtain ⟨hid, b₁, b₂, q₁, q₂, b₃, hb₁, hb₂, hq₁, hq₂, hb₃, rfl⟩ := henc
      have hblank : ∀ {b : Text}, b.Blank → List.count '"' b = 0 := fun hb =>
        List.count_eq_zero.mpr fun hm => absurd (hb _ hm) (by decide)
      have hone : ∀ {q : Text}, IsQuote q → List.count '"' q ≤ 1 := by
        rintro q (rfl | rfl) <;> decide
      have h₀ := List.count_eq_zero.mpr (hid.not_mem (c := '"') (by decide))
      have h₁ := hone hq₁
      have h₂ := hone hq₂
      simp only [List.count_append, h₀, hblank hb₁, hblank hb₂, hblank hb₃,
        List.count_eq_zero.mpr htext]
      simp only [Shape.opening, Shape.closing]
      have ho : List.count '"' ['['] = 0 := by decide
      have hc : List.count '"' [']'] = 0 := by decide
      omega
  have hpos := List.count_pos_iff.mpr hquote
  simp only [List.count_append, List.count_cons, List.count_nil] at hcount
  simp at hcount
  omega

theorem recognize_unquotedRectangle (text : Text) (hid : id.IsIdent) (hne : text ≠ [])
    (hbracket : ']' ∉ text) :
    recognize .unquotedRectangle (id ++ '[' :: (text ++ [']'])) =
      some (.node ⟨id, label? text, .rectangle⟩) := by
  exact recognize_eq_some <| front_step .rectangle hid <|
    step (run1_eq_some_iff.mpr ⟨rfl, hne, bne_of_not_mem hbracket, stops_cons.mpr rfl⟩) <|
    step (mark_append [']'] []) rfl

namespace Element

/-- Only rectangles hold labels with quotes inside. -/
theorem ofLine_of_shape {shape : Shape} (hshape : shape ≠ .rectangle) (hid : id.IsIdent)
    (hread : label? l = some l) (hquote : '"' ∉ l) (hbracket : shape = .stadium → ']' ∉ l) :
    ofLine (id ++ (shape.opening ++ '"' :: (l ++ '"' :: shape.closing))) =
      .node ⟨id, some l, shape⟩ := by
  cases shape with
  | rectangle => exact absurd rfl hshape
  | stadium =>
    calc ofLine (id ++ '(' :: '[' :: _)
      _ = pick (withLead .round) _ :=
        ofLine_eq_pick (Lead.of_append_cons hid.word blank_nil rfl rfl)
      _ = _ := pick_of_some (recognize_stadium hid hread hquote (hbracket rfl))
  | forwardTrapezoid =>
    calc ofLine (id ++ '[' :: '/' :: _)
      _ = pick (withLead .square) _ :=
        ofLine_eq_pick (Lead.of_append_cons hid.word blank_nil rfl rfl)
      _ = _ := pick_of_some (recognize_eq_some (bracketedLine_render hid hread hquote))
  | reverseTrapezoid =>
    calc ofLine (id ++ '[' :: '\\' :: _)
      _ = pick (withLead .square) _ :=
        ofLine_eq_pick (Lead.of_append_cons hid.word blank_nil rfl rfl)
      _ = pick [.reverseTrapezoid, .quotedRectangle, .unquotedRectangle] _ :=
        pick_of_none (recognize_eq_none (bracketedLine_of_opening hid rfl))
      _ = _ := pick_of_some (recognize_eq_some (bracketedLine_render hid hread hquote))

theorem ofLine_eq_pick_rectangle (hid : id.IsIdent) (text : Text) :
    ofLine (id ++ '[' :: '"' :: text) =
      pick [.quotedRectangle, .unquotedRectangle] (id ++ '[' :: '"' :: text) :=
  calc ofLine (id ++ '[' :: '"' :: text)
    _ = pick (withLead .square) _ :=
      ofLine_eq_pick (Lead.of_append_cons hid.word blank_nil rfl rfl)
    _ = pick [.reverseTrapezoid, .quotedRectangle, .unquotedRectangle] _ :=
      pick_of_none (recognize_eq_none (bracketedLine_of_opening hid rfl))
    _ = pick [.quotedRectangle, .unquotedRectangle] _ :=
      pick_of_none (recognize_eq_none (bracketedLine_of_opening hid rfl))

/-- A rectangle is read back, with the outer quotes as a part of its label if there are more
inside. -/
theorem ofLine_of_rectangle (hid : id.IsIdent) (hne : unquote l ≠ [])
    (hfits : Shape.Fits .rectangle l) :
    ofLine (id ++ '[' :: '"' :: (unquote l ++ ['"', ']'])) =
      .node ⟨id, some (requoted l), .rectangle⟩ := by
  rw [ofLine_eq_pick_rectangle hid, requoted]
  split
  · next hquote =>
    -- a quote is left inside the label, so the outer ones are read as a part of it
    have hbracket := not_mem_unquote hfits hquote
    have hread : label? ('"' :: (unquote l ++ ['"'])) = some ('"' :: (unquote l ++ ['"'])) := by
      refine label?_eq_some_iff.mpr ⟨(trim_enclosed rfl rfl _).symm, ?_⟩
      rw [unquote_quoted, unquote_unquote, Ne, trim_eq_nil_iff]
      exact fun hblank => absurd (hblank _ hquote) (by decide)
    have hunquoted := recognize_unquotedRectangle ('"' :: (unquote l ++ ['"'])) hid
      (by simp) (by simp [hbracket])
    rw [hread] at hunquoted
    rw [pick_of_none (quotedRectangle_of_mem hquote)]
    exact pick_of_some (by simpa using hunquoted)
  · next hquote => exact pick_of_some (recognize_quotedRectangle hid hne hquote)

/-- A node with a label comes back with its shape and, up to quotes around it, its label. -/
theorem ofLine_render_node {shape : Shape} (hid : id.IsIdent) (hne : unquote l ≠ [])
    (hfits : shape.Fits l) :
    ofLine (render (.node ⟨id, some l, shape⟩)) = .node ⟨id, some (requoted l), shape⟩ := by
  have hrender : render (.node ⟨id, some l, shape⟩) =
      id ++ (shape.opening ++ '"' :: (unquote l ++ '"' :: shape.closing)) := by
    simp [render, Node.render]
  rw [hrender]
  by_cases hshape : shape = .rectangle
  · subst hshape
    exact ofLine_of_rectangle hid hne hfits
  · obtain ⟨htrim, hquote, hbracket⟩ : trim l = l ∧ '"' ∉ l ∧ (shape = .stadium → ']' ∉ l) := by
      cases shape with
      | rectangle => exact absurd rfl hshape
      | stadium => exact ⟨hfits.1, hfits.2.1, fun _ => hfits.2.2⟩
      | forwardTrapezoid | reverseTrapezoid => exact ⟨hfits.1, hfits.2, fun h => nomatch h⟩
    rw [requoted_of_not_mem hquote]
    rw [unquote_of_not_mem hquote] at hne ⊢
    exact ofLine_of_shape hshape hid (label?_of_trim hne htrim hquote) hquote hbracket

end Element

end

end FlowTidy
