import FlowTidy.Proofs.Line.Spelling

/-!
Which forms a line can have at all, told by what comes after its first word. `Lead.of line` is the
kind of the first character after the word at the start of the line and the blanks after that word;
each form admits one or two kinds (`Spelled.lead_mem`). So of the sixteen forms only the few with
the right lead are ever in question for a line (`classify?_eq_firstMatch?`).
-/

namespace FlowTidy

open Text

/-- What follows the first word of a line and the blanks after it. -/
inductive Lead where
  | nothing
  | word
  | arrow
  | round
  | square
  | percent
  | other
  deriving DecidableEq, Repr

namespace Lead

def ofChar (c : Char) : Lead :=
  if isWord c then .word
  else
    match c with
    | '-' | '<' => .arrow
    | '(' => .round
    | '[' => .square
    | '%' => .percent
    | _ => .other

def ofFront : Text → Lead
  | [] => .nothing
  | c :: _ => ofChar c

/-- The lead of a line. -/
def of (line : Text) : Lead := ofFront ((line.dropWhile isWord).dropWhile isBlank)

theorem ofChar_of_isWord {c : Char} (h : isWord c = true) : ofChar c = .word := if_pos h

/-- The lead of a line that is a word, blanks, and something else. -/
theorem of_append {w b r : Text} (hw : ∀ c ∈ w, isWord c = true) (hb : b.Blank)
    (hr : Stops isBlank r) (hword : b = [] → Stops isWord r) :
    of (w ++ (b ++ r)) = ofFront r := by
  have hstop : Stops isWord (b ++ r) := by
    cases b with
    | nil => exact hword rfl
    | cons c b => exact stops_cons.mpr (isWord_of_isBlank (hb c List.mem_cons_self))
  rw [of, dropWhile_append hw hstop, dropWhile_append hb hr]

/-- The lead of a line is told by what follows its first word. -/
theorem of_append_cons {w b r : Text} {c : Char} (hw : ∀ d ∈ w, isWord d = true) (hb : b.Blank)
    (hc : isBlank c = false) (hword : isWord c = false) : of (w ++ (b ++ c :: r)) = ofChar c :=
  of_append hw hb (stops_cons.mpr hc) fun _ => stops_cons.mpr hword

theorem of_words {w b id r : Text} (hw : ∀ d ∈ w, isWord d = true) (hne : b ≠ []) (hb : b.Blank)
    (hid : id.IsIdent) : of (w ++ (b ++ (id ++ r))) = .word := by
  rw [of_append hw hb (hid.stops_blank r) fun h => absurd h hne]
  obtain ⟨hne, hid⟩ := hid
  cases id with
  | nil => contradiction
  | cons c id => exact ofChar_of_isWord (hid c List.mem_cons_self)

theorem of_word_blank {w b : Text} (hw : ∀ d ∈ w, isWord d = true) (hb : b.Blank) :
    of (w ++ b) = .nothing := by
  have h := of_append (r := []) hw hb stops_nil fun _ => stops_nil
  rwa [List.append_nil] at h

theorem of_word {w : Text} (hw : ∀ d ∈ w, isWord d = true) : of w = .nothing := by
  have h := of_word_blank hw blank_nil
  rwa [List.append_nil] at h

end Lead

namespace LineForm

/-- The leads of the lines of a form. -/
def leads : LineForm → List Lead
  | declaration => [.nothing, .word]
  | comment => [.percent]
  | subgraphStart | classDef | classUse | linkStyle => [.word]
  | subgraphEnd | bareNode => [.nothing]
  | labeledPipe | dottedInline | unlabeled => [.arrow]
  | stadium => [.round]
  | forwardTrapezoid | reverseTrapezoid | quotedRectangle | unquotedRectangle => [.square]

theorem lead_glyph {s b r : Text} {a : Arrow} (hs : s.IsIdent) (hb : b.Blank) :
    Lead.of (s ++ (b ++ (a.glyph ++ r))) = .arrow := by
  cases a <;> exact Lead.of_append_cons hs.word hb (by decide) (by decide)

/-- The lead of the line of a node is the bracket of its shape. -/
theorem Enclosed.lead {shape : Shape} {id text line : Text} (h : Enclosed shape id text line) :
    Lead.of line = if shape = .stadium then .round else .square := by
  obtain ⟨hid, b₁, b₂, q₁, q₂, b₃, hb₁, -, -, -, -, rfl⟩ := h
  cases shape <;> exact Lead.of_append_cons hid.word hb₁ (by decide) (by decide)

/-- A line has a lead that its form admits. -/
theorem Spelled.lead_mem {form : LineForm} {e : Element} {line : Text} (h : Spelled form e line) :
    Lead.of line ∈ form.leads := by
  cases h with
  | @declaration k d w b₁ v b₂ hw hb₁ hv hb₂ =>
    have hkind : ∀ k : Kind, ∀ c ∈ k.keyword, isWord c = true := by intro k; cases k <;> decide
    have hdir : ∀ d : Direction, d.keyword.IsIdent := by
      intro d; cases d <;> exact ⟨by decide, by decide⟩
    have hword := Scanner.isWord_of_sameLetters hw (hkind k)
    rcases hv with ⟨rfl, -⟩ | hv
    · rw [List.nil_append, Lead.of_word_blank hword]
      · simp [leads]
      · exact fun c hc => (List.mem_append.mp hc).elim (hb₁ c) (hb₂ c)
    · have hv := Scanner.isIdent_of_sameLetters hv (hdir d)
      by_cases hb : b₁ = []
      · -- the direction is glued to the kind, and the two are one word
        rw [hb, List.nil_append, ← List.append_assoc, Lead.of_word_blank _ hb₂]
        · simp [leads]
        · exact fun c hc => (List.mem_append.mp hc).elim (hword c) (hv.word c)
      · rw [Lead.of_words hword hb hb₁ hv]
        simp [leads]
  | comment hb htext =>
    exact List.mem_singleton.mpr rfl
  | subgraphStart hw hne hb hid hb' =>
    rw [Lead.of_words (Scanner.isWord_of_sameLetters hw (by decide)) hne hb hid]
    simp [leads]
  | labeledSubgraphStart hw hne hb hid =>
    rw [Lead.of_words (Scanner.isWord_of_sameLetters hw (by decide)) hne hb hid]
    simp [leads]
  | subgraphEnd hw =>
    rw [Lead.of_word (Scanner.isWord_of_sameLetters hw (by decide))]
    simp [leads]
  | classDef hw hne hb hname =>
    rw [Lead.of_words (Scanner.isWord_of_sameLetters hw (by decide)) hne hb hname]
    simp [leads]
  | classUse hw hne hb hid =>
    rw [Lead.of_words (Scanner.isWord_of_sameLetters hw (by decide)) hne hb hid]
    simp [leads]
  | linkStyle hw hne hb hfirst =>
    rw [Lead.of_words (Scanner.isWord_of_sameLetters hw (by decide)) hne hb hfirst]
    simp [leads]
  | labeledPipe hs hb => rw [lead_glyph hs hb]; simp [leads]
  | dottedInline hs hb =>
    rw [Lead.of_append_cons hs.word hb (by decide) (by decide)]
    exact List.mem_singleton.mpr rfl
  | unlabeled hs hb => rw [lead_glyph hs hb]; simp [leads]
  | stadium h | forwardTrapezoid h | reverseTrapezoid h | quotedRectangle h | unquotedRectangle h =>
    rw [h.lead]; simp [leads]
  | bareNode hid => rw [Lead.of_word hid.word]; simp [leads]

/-- A form does not read a line with a lead that it does not admit. -/
theorem recognize_of_lead {form : LineForm} {line : Text} (h : Lead.of line ∉ form.leads) :
    form.recognize line = none := by
  cases hr : form.recognize line with
  | none => rfl
  | some e => exact absurd (Spelled.of_recognize hr).lead_mem h

theorem firstMatch?_cons (form : LineForm) (forms : List LineForm) (line : Text) :
    firstMatch? (form :: forms) line =
      match form.recognize line with
      | some e => some (form, e)
      | none => firstMatch? forms line := by
  simp only [firstMatch?, List.findSome?_cons]
  cases form.recognize line <;> rfl

theorem firstMatch?_of_some {form : LineForm} {forms : List LineForm} {line : Text} {e : Element}
    (h : form.recognize line = some e) : firstMatch? (form :: forms) line = some (form, e) := by
  rw [firstMatch?_cons, h]

theorem firstMatch?_of_none {form : LineForm} {forms : List LineForm} {line : Text}
    (h : form.recognize line = none) :
    firstMatch? (form :: forms) line = firstMatch? forms line := by
  rw [firstMatch?_cons, h]

/-- The forms that admit a lead, those that win over others first. -/
def withLead (lead : Lead) : List LineForm := priority.filter fun form => lead ∈ form.leads

/-- Forms that do not admit the lead of a line can be left aside. -/
theorem classify?_eq_firstMatch? (line : Text) :
    classify? line = firstMatch? (withLead (Lead.of line)) line := by
  have hfilter : ∀ forms : List LineForm,
      firstMatch? forms line =
        firstMatch? (forms.filter fun form => Lead.of line ∈ form.leads) line := by
    intro forms
    induction forms with
    | nil => rfl
    | cons form forms ih =>
      by_cases hlead : Lead.of line ∈ form.leads
      · rw [List.filter_cons_of_pos (by simpa using hlead), firstMatch?_cons, firstMatch?_cons, ih]
      · rw [List.filter_cons_of_neg (by simpa using hlead),
          firstMatch?_of_none (recognize_of_lead hlead), ih]
  exact hfilter priority

end LineForm

end FlowTidy
