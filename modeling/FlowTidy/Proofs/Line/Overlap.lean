import FlowTidy.Proofs.Line.Lead
import Mathlib.Data.List.Pairwise

/-!
Lines that have more than one form. Only five pairs of forms share lines (`shadowingPairs`), and no
line has three forms. So the priority of the forms matters within these pairs only: every order in
which the first form of each pair comes before the second gives a line the same form.

Two forms can only share a line if they admit the same lead. Within the forms of one lead, those
that begin with a keyword differ in their first word, connections in what stands before the target
or in the number of dots, and nodes in the first character inside their brackets.
-/

namespace FlowTidy

open Text

namespace LineForm

/-- The pairs of forms that share lines. The first form of a pair takes the lines that they
share. -/
def shadowingPairs : List (LineForm × LineForm) :=
  [(declaration, bareNode), (subgraphEnd, bareNode), (forwardTrapezoid, unquotedRectangle),
    (reverseTrapezoid, unquotedRectangle), (quotedRectangle, unquotedRectangle)]

/-! ## Forms that begin with a keyword -/

/-- The first words of the lines of a form that begins with a keyword. A direction may be glued to
the kind of a diagram. -/
def headwords : LineForm → List Text
  | declaration => Kind.all.flatMap fun k => k.keyword :: Direction.all.map (k.keyword ++ ·.keyword)
  | subgraphStart => [['s', 'u', 'b', 'g', 'r', 'a', 'p', 'h']]
  | subgraphEnd => [['e', 'n', 'd']]
  | classDef => [['c', 'l', 'a', 's', 's', 'D', 'e', 'f']]
  | classUse => [['c', 'l', 'a', 's', 's']]
  | linkStyle => [['l', 'i', 'n', 'k', 'S', 't', 'y', 'l', 'e']]
  | _ => []

theorem stops_word_of_blank {b : Text} (hb : b.Blank) : Stops isWord b := by
  cases b with
  | nil => exact stops_nil
  | cons c b => exact stops_cons.mpr (isWord_of_isBlank (hb c List.mem_cons_self))

theorem stops_word_append {b r : Text} (hb : b.Blank) (hr : Stops isWord r) :
    Stops isWord (b ++ r) := by
  cases b with
  | nil => exact hr
  | cons c b => exact stops_cons.mpr (isWord_of_isBlank (hb c List.mem_cons_self))

theorem takeWhile_word {w b r : Text} (hw : ∀ c ∈ w, isWord c = true) (hne : b ≠ [])
    (hb : b.Blank) : (w ++ (b ++ r)).takeWhile isWord = w :=
  takeWhile_append hw ((stops_word_of_blank hb).append hne)

theorem mem_headwords_declaration (k : Kind) :
    k.keyword ∈ declaration.headwords ∧
      ∀ d : Direction, k.keyword ++ d.keyword ∈ declaration.headwords := by
  cases k <;> exact ⟨by decide, fun d => by cases d <;> decide⟩

/-- A line that begins with a keyword has one of the words of its form as its first. -/
theorem Spelled.headword {form : LineForm} {e : Element} {line : Text} (h : Spelled form e line)
    (hform : form.headwords ≠ []) :
    ∃ k ∈ form.headwords, sameLetters (line.takeWhile isWord) k = true := by
  have hfirst : ∀ {k w b r : Text}, (∀ c ∈ k, isWord c = true) → sameLetters w k = true → b ≠ [] →
      b.Blank → k ∈ form.headwords →
      ∃ k ∈ form.headwords, sameLetters ((w ++ (b ++ r)).takeWhile isWord) k = true := by
    intro k w b r hk hw hne hb hmem
    refine ⟨k, hmem, ?_⟩
    rwa [takeWhile_word (Scanner.isWord_of_sameLetters hw hk) hne hb]
  cases h with
  | @declaration k d w b₁ v b₂ hw hb₁ hv hb₂ =>
    have hkind : ∀ c ∈ k.keyword, isWord c = true := by cases k <;> decide
    have hdirection : ∀ c ∈ d.keyword, isWord c = true := by cases d <;> decide
    obtain ⟨halone, hglued⟩ := mem_headwords_declaration k
    by_cases hne : b₁ = []
    · subst hne
      rw [List.nil_append, ← List.append_assoc]
      rcases hv with ⟨rfl, -⟩ | hv
      · refine ⟨k.keyword, halone, ?_⟩
        rwa [List.append_nil, takeWhile_append (Scanner.isWord_of_sameLetters hw hkind)
          (stops_word_of_blank hb₂)]
      · refine ⟨k.keyword ++ d.keyword, hglued d, ?_⟩
        rw [takeWhile_append _ (stops_word_of_blank hb₂)]
        · exact Scanner.sameLetters_append hw hv
        · exact List.forall_mem_append.mpr ⟨Scanner.isWord_of_sameLetters hw hkind,
            Scanner.isWord_of_sameLetters hv hdirection⟩
    · exact hfirst hkind hw hne hb₁ halone
  | subgraphStart hw hne hb₁ | labeledSubgraphStart hw hne hb₁ | classDef hw hne hb₁
  | classUse hw hne hb₁ | linkStyle hw hne hb₁ =>
    exact hfirst (by decide) hw hne hb₁ (List.mem_singleton.mpr rfl)
  | subgraphEnd hw =>
    refine ⟨_, List.mem_singleton.mpr rfl, ?_⟩
    rwa [List.takeWhile_eq_self_iff.mpr (Scanner.isWord_of_sameLetters hw (by decide))]
  | comment | labeledPipe | dottedInline | unlabeled | stadium | forwardTrapezoid
  | reverseTrapezoid | quotedRectangle | unquotedRectangle | bareNode => exact absurd rfl hform

/-- No first word belongs to two forms, whatever the case of its letters. -/
theorem headwords_disjoint : ∀ a ∈ priority, ∀ b ∈ priority, a ≠ b →
    ∀ k ∈ a.headwords, ∀ k' ∈ b.headwords, sameLetters k k' = false := by
  decide +kernel

theorem mem_priority (form : LineForm) : form ∈ priority := by cases form <;> decide

/-- A line that begins with a keyword is of no other form with keywords. -/
theorem Spelled.not_headwords {a b : LineForm} {e e' : Element} {line : Text}
    (ha : Spelled a e line) (hb : Spelled b e' line) (hne : a ≠ b) (hwords : a.headwords ≠ []) :
    b.headwords = [] := by
  by_contra hwords'
  obtain ⟨k, hk, hword⟩ := ha.headword hwords
  obtain ⟨k', hk', hword'⟩ := hb.headword hwords'
  have hdisjoint := headwords_disjoint a (mem_priority a) b (mem_priority b) hne k hk k' hk'
  have hsame : sameLetters k k' = true :=
    beq_iff_eq.mpr ((beq_iff_eq.mp hword).symm.trans (beq_iff_eq.mp hword'))
  rw [hsame] at hdisjoint
  contradiction

/-! ## Connections -/

/-- What follows the first word of a line and the blanks after it. -/
def pastWord (line : Text) : Text := (line.dropWhile isWord).dropWhile isBlank

theorem pastWord_append_cons {w b r : Text} {c : Char} (hw : ∀ d ∈ w, isWord d = true)
    (hb : b.Blank) (hc : isBlank c = false) (hword : isWord c = false) :
    pastWord (w ++ (b ++ c :: r)) = c :: r := by
  have hstops : Stops isWord (b ++ c :: r) := stops_word_append hb (stops_cons.mpr hword)
  rw [pastWord, dropWhile_append hw hstops, dropWhile_append hb (stops_cons.mpr hc)]

/-- The character before the last word of a line and the blanks before that word. -/
theorem pastWord_reverse {front b t : Text} {c : Char} (ht : t.IsIdent) (hb : b.Blank)
    (hc : isBlank c = false) (hword : isWord c = false) :
    (pastWord (front ++ c :: (b ++ t)).reverse).head? = some c := by
  have hreverse : (front ++ c :: (b ++ t)).reverse =
      t.reverse ++ (b.reverse ++ c :: front.reverse) := by
    simp
  rw [hreverse, pastWord_append_cons _ _ hc hword]
  · rfl
  · exact fun d hd => ht.word d (List.mem_reverse.mp hd)
  · exact fun d hd => hb d (List.mem_reverse.mp hd)

/-- Before the target of a labeled connection there is a pipe. -/
theorem pastWord_reverse_labeledPipe {e : Element} {line : Text} (h : Spelled .labeledPipe e line) :
    (pastWord line.reverse).head? = some '|' := by
  cases h with
  | @labeledPipe s b₁ b₂ q₁ text q₂ b₃ t a _ _ _ _ _ _ _ _ hb₃ ht =>
    have hline :
        s ++ (b₁ ++ (a.glyph ++ (b₂ ++ '|' :: (q₁ ++ (text ++ (q₂ ++ '|' :: (b₃ ++ t))))))) =
        (s ++ (b₁ ++ (a.glyph ++ (b₂ ++ '|' :: (q₁ ++ (text ++ q₂)))))) ++ '|' :: (b₃ ++ t) := by
      simp
    rw [hline, pastWord_reverse ht hb₃ (by decide) (by decide)]

/-- Before the target of a dotted line with its label there is no pipe. -/
theorem pastWord_reverse_dottedInline {e : Element} {line : Text}
    (h : Spelled .dottedInline e line) : (pastWord line.reverse).head? ≠ some '|' := by
  cases h with
  | @dottedInline s b₁ b₂ q₁ text q₂ b₃ closing b₄ t _ _ _ _ _ _ _ _ _ hclosing hb₄ ht =>
    have hsplit : ∃ front c, closing = front ++ [c] ∧ (c = '-' ∨ c = '>') := by
      rcases hclosing with rfl | rfl
      · exact ⟨['.'], '-', rfl, .inl rfl⟩
      · exact ⟨['-', '.', '-'], '>', rfl, .inr rfl⟩
    obtain ⟨front, c, rfl, hc⟩ := hsplit
    have hline : s ++ (b₁ ++ '-' :: '.' :: (b₂ ++ (q₁ ++ (text ++ (q₂ ++ (b₃ ++
        (front ++ [c] ++ (b₄ ++ t)))))))) = (s ++ (b₁ ++ '-' :: '.' :: (b₂ ++ (q₁ ++ (text ++
          (q₂ ++ (b₃ ++ front))))))) ++ c :: (b₄ ++ t) := by
      simp
    rw [hline]
    rcases hc with rfl | rfl
    · rw [pastWord_reverse ht hb₄ (by decide) (by decide)]
      decide
    · rw [pastWord_reverse ht hb₄ (by decide) (by decide)]
      decide

theorem Spelled.pipe_mem {e : Element} {line : Text} (h : Spelled .labeledPipe e line) :
    '|' ∈ line := by
  cases h with
  | labeledPipe => simp

theorem count_blank {b : Text} (hb : b.Blank) {c : Char} (hc : isBlank c = false) :
    b.count c = 0 := by
  refine List.count_eq_zero.mpr fun hm => ?_
  rw [hb c hm] at hc
  contradiction

theorem count_ident {t : Text} (ht : t.IsIdent) {c : Char} (hc : isWord c = false) :
    t.count c = 0 :=
  List.count_eq_zero.mpr (ht.not_mem hc)

/-- An arrow has no bar and at most one dot. -/
theorem count_unlabeled {e : Element} {line : Text} (h : Spelled .unlabeled e line) :
    line.count '|' = 0 ∧ line.count '.' ≤ 1 := by
  cases h with
  | @unlabeled s b₁ b₂ t a hs hb₁ ha hb₂ ht =>
    have hbar : a.glyph.count '|' = 0 := by cases a <;> decide
    have hdot : a.glyph.count '.' ≤ 1 := by
      cases a with
      | dottedInline => exact absurd ha (by decide)
      | _ => decide
    simp only [List.count_append, count_ident hs (c := '|') (by decide),
      count_ident hs (c := '.') (by decide), count_ident ht (c := '|') (by decide),
      count_ident ht (c := '.') (by decide), count_blank hb₁ (c := '|') (by decide),
      count_blank hb₁ (c := '.') (by decide), count_blank hb₂ (c := '|') (by decide),
      count_blank hb₂ (c := '.') (by decide)]
    omega

/-- Each half of a dotted line that carries its label has a dot. -/
theorem count_dottedInline {e : Element} {line : Text} (h : Spelled .dottedInline e line) :
    2 ≤ line.count '.' := by
  cases h with
  | @dottedInline s b₁ b₂ q₁ text q₂ b₃ closing b₄ t _ _ _ _ _ _ _ _ _ hclosing =>
    have hdot : 1 ≤ closing.count '.' := by rcases hclosing with rfl | rfl <;> decide
    simp only [List.count_append, List.count_cons]
    simp only [beq_self_eq_true, if_true]
    omega

/-! ## Nodes in square brackets -/

/-- The first character inside the brackets of a node, blanks aside. -/
def firstInside (line : Text) : Option Char := (((pastWord line).drop 1).dropWhile isBlank).head?

theorem firstInside_append {id b b' r : Text} {c : Char} (hid : id.IsIdent) (hb : b.Blank)
    (hb' : b'.Blank) (hc : isBlank c = false) :
    firstInside (id ++ (b ++ '[' :: (b' ++ c :: r))) = some c := by
  rw [firstInside, pastWord_append_cons hid.word hb (by decide) (by decide), List.drop_one,
    List.tail_cons, dropWhile_append hb' (stops_cons.mpr hc)]
  rfl

theorem Enclosed.firstInside {shape : Shape} {id text line : Text} {c : Char}
    (h : Enclosed shape id text line) (hopening : shape.opening = ['[', c])
    (hc : isBlank c = false) : firstInside line = some c := by
  obtain ⟨hid, b₁, b₂, q₁, q₂, b₃, hb₁, -, -, -, -, rfl⟩ := h
  rw [hopening]
  exact firstInside_append hid hb₁ blank_nil hc

theorem firstInside_forwardTrapezoid {e : Element} {line : Text}
    (h : recognize .forwardTrapezoid line = some e) : firstInside line = some '/' := by
  cases Spelled.of_recognize h with
  | forwardTrapezoid henclosed => exact henclosed.firstInside rfl (by decide)

theorem firstInside_reverseTrapezoid {e : Element} {line : Text}
    (h : recognize .reverseTrapezoid line = some e) : firstInside line = some '\\' := by
  cases Spelled.of_recognize h with
  | reverseTrapezoid henclosed => exact henclosed.firstInside rfl (by decide)

theorem firstInside_quotedRectangle {e : Element} {line : Text}
    (h : recognize .quotedRectangle line = some e) : firstInside line = some '"' := by
  have hline := Scanner.whole?_eq_some_iff.mp h
  simp only [scanner, quotedRectangleLine, Scanner.bind_eq_some_iff, Scanner.ident_eq_some_iff,
    Scanner.blanks_eq_some_iff, Scanner.mark_eq_some_iff] at hline
  obtain ⟨id, _, ⟨rfl, hid, -⟩, -, _, ⟨b₁, rfl, hb₁, -⟩, -, _, rfl, -, _, ⟨b₂, rfl, hb₂, -⟩,
    -, _, rfl, -⟩ := hline
  exact firstInside_append hid hb₁ hb₂ (by decide)

/-! ## All forms -/

/-- Two forms that share a line at most if the first shadows the second. -/
def AtMostShadows (line : Text) (a b : LineForm) : Prop :=
  ∀ e e', a.recognize line = some e → b.recognize line = some e' → (a, b) ∈ shadowingPairs

section
variable (line : Text)

/-- Forms with keywords share no line. -/
theorem pairwise_keywords {forms : List LineForm} (hnodup : forms.Nodup)
    (hwords : ∀ form ∈ forms, form.headwords ≠ []) : forms.Pairwise (AtMostShadows line) := by
  refine hnodup.imp_of_mem fun {a b} ha hb hne e e' he he' => ?_
  have hnone := (Spelled.of_recognize he).not_headwords (Spelled.of_recognize he') hne (hwords a ha)
  exact absurd hnone (hwords b hb)

/-- The forms of connections share no line. -/
theorem pairwise_connections :
    [labeledPipe, dottedInline, unlabeled].Pairwise (AtMostShadows line) := by
  simp only [List.pairwise_cons, List.forall_mem_cons, List.not_mem_nil, false_implies,
    forall_true_iff, List.Pairwise.nil, and_true]
  refine ⟨⟨fun e e' he he' => ?_, fun e e' he he' => ?_⟩, fun e e' he he' => ?_⟩
  · exact absurd (pastWord_reverse_labeledPipe (Spelled.of_recognize he))
      (pastWord_reverse_dottedInline (Spelled.of_recognize he'))
  · exact absurd (Spelled.of_recognize he).pipe_mem
      (List.count_eq_zero.mp (count_unlabeled (Spelled.of_recognize he')).1)
  · have hmany := count_dottedInline (Spelled.of_recognize he)
    have hfew := (count_unlabeled (Spelled.of_recognize he')).2
    omega

/-- Of the forms with square brackets only the last one is shadowed. -/
theorem pairwise_rectangles :
    [forwardTrapezoid, reverseTrapezoid, quotedRectangle, unquotedRectangle].Pairwise
      (AtMostShadows line) := by
  simp only [List.pairwise_cons, List.forall_mem_cons, List.not_mem_nil, false_implies,
    forall_true_iff, List.Pairwise.nil, and_true]
  refine ⟨⟨fun e e' he he' => ?_, fun e e' he he' => ?_, fun _ _ _ _ => by decide⟩,
    ⟨fun e e' he he' => ?_, fun _ _ _ _ => by decide⟩, fun _ _ _ _ => by decide⟩
  · have hsame := (firstInside_forwardTrapezoid he).symm.trans (firstInside_reverseTrapezoid he')
    contradiction
  · have hsame := (firstInside_forwardTrapezoid he).symm.trans (firstInside_quotedRectangle he')
    contradiction
  · have hsame := (firstInside_reverseTrapezoid he).symm.trans (firstInside_quotedRectangle he')
    contradiction

/-- Of the forms of one lead an earlier one shares lines with a later one only if it shadows it. -/
theorem pairwise_withLead (lead : Lead) : (withLead lead).Pairwise (AtMostShadows line) := by
  cases lead with
  | nothing =>
    have hwords : [declaration, subgraphEnd].Pairwise (AtMostShadows line) :=
      pairwise_keywords line (by decide) (by decide)
    have hbare : ∀ a ∈ [declaration, subgraphEnd], (a, bareNode) ∈ shadowingPairs := by decide
    change ([declaration, subgraphEnd] ++ [bareNode]).Pairwise (AtMostShadows line)
    refine List.pairwise_append.mpr ⟨hwords, List.pairwise_singleton _ _, ?_⟩
    intro a ha b hb e e' _ _
    obtain rfl := List.mem_singleton.mp hb
    exact hbare a ha
  | word => exact pairwise_keywords line (by decide) (by decide)
  | arrow => exact pairwise_connections line
  | round => exact List.pairwise_singleton _ _
  | square => exact pairwise_rectangles line
  | percent => exact List.pairwise_singleton _ _
  | other => exact .nil

/-- Of two forms that share a line the one that comes first in the priority shadows the other. -/
theorem pairwise_priority : priority.Pairwise (AtMostShadows line) := by
  have hlead := List.pairwise_filter.mp (pairwise_withLead line (Lead.of line))
  refine hlead.imp fun {a b} h e e' he he' => ?_
  exact h (by simpa using (Spelled.of_recognize he).lead_mem)
    (by simpa using (Spelled.of_recognize he').lead_mem) e e' he he'

end

/-- Two forms that share a line are one of the pairs. -/
theorem shadows_or_shadows {line : Text} {a b : LineForm} {e e' : Element} (hne : a ≠ b)
    (ha : a.recognize line = some e) (hb : b.recognize line = some e') :
    (a, b) ∈ shadowingPairs ∨ (b, a) ∈ shadowingPairs := by
  have hsymm : Std.Symm fun a b => AtMostShadows line a b ∨ AtMostShadows line b a :=
    ⟨fun _ _ => Or.symm⟩
  have hpairs := (pairwise_priority line).imp (S := fun a b => _ ∨ AtMostShadows line b a) .inl
  exact (hpairs.forall (mem_priority a) (mem_priority b) hne).imp
    (fun h => h e e' ha hb) (fun h => h e' e hb ha)

/-- No form that shadows another is itself shadowed, so no line has three forms. -/
theorem countP_recognize_le (line : Text) :
    priority.countP (fun form => (form.recognize line).isSome) ≤ 2 := by
  have hchain : ∀ p ∈ shadowingPairs, ∀ q ∈ shadowingPairs, p.2 ≠ q.1 := by decide
  have hpairs := (pairwise_priority line).filter fun form => (form.recognize line).isSome
  have hsome : ∀ form ∈ priority.filter fun form => (form.recognize line).isSome,
      ∃ e, form.recognize line = some e := by
    intro form hform
    exact Option.isSome_iff_exists.mp (List.mem_filter.mp hform).2
  rw [List.countP_eq_length_filter]
  generalize priority.filter (fun form => (form.recognize line).isSome) = forms at hpairs hsome ⊢
  match forms with
  | [] | [_] | [_, _] => simp
  | a :: b :: c :: forms =>
    obtain ⟨e, he⟩ := hsome a (by simp)
    obtain ⟨e', he'⟩ := hsome b (by simp)
    obtain ⟨e'', he''⟩ := hsome c (by simp)
    obtain ⟨hfirst, hrest⟩ := List.pairwise_cons.mp hpairs
    have hab := hfirst b (by simp) e e' he he'
    have hbc := (List.pairwise_cons.mp hrest).1 c (by simp) e' e'' he' he''
    exact absurd rfl (hchain _ hab _ hbc)

/-! ## Orders of the forms -/

/-- An order of all forms in which the first form of each pair comes before the second. -/
structure KeepsPairs (forms : List LineForm) : Prop where
  perm : forms.Perm priority
  before : ∀ p ∈ shadowingPairs, forms.idxOf p.1 < forms.idxOf p.2

theorem keepsPairs_priority : KeepsPairs priority := ⟨.refl _, by decide⟩

theorem idxOf_lt_idxOf_iff {front back : List LineForm} {a b : LineForm} (hb : b ∉ front) :
    (front ++ b :: back).idxOf a < (front ++ b :: back).idxOf b ↔ a ∈ front := by
  rw [List.idxOf_append_of_notMem hb, List.idxOf_cons_self, Nat.add_zero]
  by_cases ha : a ∈ front
  · rw [List.idxOf_append_of_mem ha, List.idxOf_lt_length_iff]
  · rw [List.idxOf_append_of_notMem ha]
    exact iff_of_false (by omega) ha

/-- In such an order a line has that one of its forms which no other of its forms shadows. -/
theorem KeepsPairs.firstMatch?_eq_some_iff {forms : List LineForm} (h : KeepsPairs forms)
    {line : Text} {form : LineForm} {e : Element} :
    firstMatch? forms line = some (form, e) ↔ form.recognize line = some e ∧
      ∀ other, (other, form) ∈ shadowingPairs → other.recognize line = none := by
  constructor
  · intro hfirst
    obtain ⟨front, found, back, rfl, hfound, hfront⟩ := List.findSome?_eq_some_iff.mp hfirst
    obtain ⟨e', he', heq⟩ := Option.map_eq_some_iff.mp hfound
    obtain ⟨rfl, rfl⟩ := Prod.mk.inj heq
    have hnone : ∀ other ∈ front, other.recognize line = none :=
      fun other hother => Option.map_eq_none_iff.mp (hfront other hother)
    have hnot : found ∉ front := fun hm => by
      rw [hnone found hm] at he'
      contradiction
    exact ⟨he', fun other hother => hnone other ((idxOf_lt_idxOf_iff hnot).mp (h.before _ hother))⟩
  · rintro ⟨he, hothers⟩
    obtain ⟨front, back, rfl, hnot⟩ :=
      List.eq_append_cons_of_mem (h.perm.mem_iff.mpr (mem_priority form))
    have hfound : (form.recognize line).map (form, ·) = some (form, e) := by rw [he]; rfl
    refine List.findSome?_eq_some_iff.mpr ⟨front, form, back, rfl, hfound, fun other hother => ?_⟩
    rw [Option.map_eq_none_iff, Option.eq_none_iff_forall_ne_some]
    intro e' he'
    have hne : other ≠ form := fun heq => hnot (heq ▸ hother)
    rcases shadows_or_shadows hne he' he with hpair | hpair
    · rw [hothers other hpair] at he'
      contradiction
    · exact absurd ((idxOf_lt_idxOf_iff hnot).mpr hother) (Nat.lt_asymm (h.before _ hpair))

/-- Two forms share a line exactly if they are one of the five pairs, and no line has three forms.
So in every order of the forms in which the first form of each pair comes before the second, each
line has the same form and is the same element. -/
theorem classify?_eq_of_keepsPairs :
    (∀ a b : LineForm, a ≠ b →
      ((∃ line, (a.recognize line).isSome ∧ (b.recognize line).isSome) ↔
        (a, b) ∈ shadowingPairs ∨ (b, a) ∈ shadowingPairs)) ∧
    (∀ line, priority.countP (fun form => (form.recognize line).isSome) ≤ 2) ∧
    ∀ forms : List LineForm, forms.Perm priority →
      (∀ p ∈ shadowingPairs, forms.idxOf p.1 < forms.idxOf p.2) →
      ∀ line, firstMatch? forms line = classify? line := by
  have hshared : ∀ p ∈ shadowingPairs,
      ∃ line, (p.1.recognize line).isSome ∧ (p.2.recognize line).isSome := by
    simp only [shadowingPairs, List.forall_mem_cons]
    exact ⟨⟨"graph".toList, by decide⟩, ⟨"end".toList, by decide⟩, ⟨"A[/x/]".toList, by decide⟩,
      ⟨"A[\\x\\]".toList, by decide⟩, ⟨"A[\"x\"]".toList, by decide⟩, fun _ h => nomatch h⟩
  refine ⟨fun a b hne => ⟨?_, ?_⟩, countP_recognize_le, fun forms hperm hbefore line => ?_⟩
  · rintro ⟨line, ha, hb⟩
    obtain ⟨e, he⟩ := Option.isSome_iff_exists.mp ha
    obtain ⟨e', he'⟩ := Option.isSome_iff_exists.mp hb
    exact shadows_or_shadows hne he he'
  · rintro (hpair | hpair)
    · exact hshared _ hpair
    · obtain ⟨line, hb, ha⟩ := hshared _ hpair
      exact ⟨line, ha, hb⟩
  · have hforms : KeepsPairs forms := ⟨hperm, hbefore⟩
    refine Option.ext fun ⟨form, e⟩ => ?_
    exact hforms.firstMatch?_eq_some_iff.trans keepsPairs_priority.firstMatch?_eq_some_iff.symm

/-- A trapezoid is a rectangle without quotes as well. In another order that keeps the pairs it is a
trapezoid all the same. -/
theorem classify?_eq_of_keepsPairs_nodes :
    firstMatch? [quotedRectangle, reverseTrapezoid, forwardTrapezoid, stadium, subgraphEnd,
        declaration, bareNode, unquotedRectangle, unlabeled, dottedInline, labeledPipe, linkStyle,
        classUse, classDef, subgraphStart, comment] "A[/x/]".toList = classify? "A[/x/]".toList ∧
      classify? "A[/x/]".toList =
        some (forwardTrapezoid, .node ⟨['A'], some ['x'], .forwardTrapezoid⟩) :=
  ⟨classify?_eq_of_keepsPairs.2.2 _ (by decide) (by decide) _, by decide⟩

end LineForm

end FlowTidy
