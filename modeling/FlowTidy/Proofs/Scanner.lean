import FlowTidy.Scanner
import FlowTidy.Proofs.Text.Occurrence

/-!
What each scanner takes off the front of a text. A scanner is described by the texts that it
succeeds on and by what is left of them, so that a line form is opened step by step without
unfolding its scanners. Where only the characters that are taken matter, `Takes` is put together
along the scanner.
-/

namespace FlowTidy.Scanner

open Text

variable {α β : Type}

/-! ## Combinations -/

theorem whole?_eq_some_iff {p : Scanner α} {t : Text} {a : α} :
    p.whole? t = some a ↔ p t = some (a, []) := by
  rw [whole?]
  split
  · next b h => simp [h]
  · next h =>
    constructor
    · exact fun h => nomatch h
    · exact fun ha => (h a ha).elim

theorem bind_eq_some_iff {p : Scanner α} {f : α → Scanner β} {t : Text} {x : β × Text} :
    (p >>= f) t = some x ↔ ∃ a r, p t = some (a, r) ∧ f a r = some x := by
  change (p t).bind (fun y => f y.1 y.2) = some x ↔ _
  rw [Option.bind_eq_some_iff, Prod.exists]

theorem bind_of_eq_some {p : Scanner α} {f : α → Scanner β} {t r : Text} {a : α}
    (h : p t = some (a, r)) : (p >>= f) t = f a r := by
  change (p t).bind (fun y => f y.1 y.2) = _
  rw [h, Option.bind_some]

/-- One step of a scanner: `p` takes what it takes, and the rest is up to what follows. -/
theorem step {p : Scanner α} {f : α → Scanner β} {t r : Text} {a : α} {x : Option (β × Text)}
    (h : p t = some (a, r)) (hrest : f a r = x) : (p >>= f) t = x := (bind_of_eq_some h).trans hrest

theorem bind_of_eq_none {p : Scanner α} {f : α → Scanner β} {t : Text} (h : p t = none) :
    (p >>= f) t = none := by
  change (p t).bind (fun y => f y.1 y.2) = _
  rw [h, Option.bind_none]

theorem pure_apply (a : α) (t : Text) : (pure a : Scanner α) t = some (a, t) := rfl

theorem pure_eq_some_iff {a : α} {t : Text} {x : α × Text} :
    (pure a : Scanner α) t = some x ↔ x = (a, t) := by
  rw [pure_apply, Option.some.injEq, eq_comm]

theorem failure_apply (t : Text) : (failure : Scanner α) t = none := rfl

theorem orElse_apply (p q : Scanner α) (t : Text) : (p <|> q) t = (p t <|> q t) := rfl

/-- The second of two scanners reads only what the first does not. -/
theorem orElse_eq_some_iff {p q : Scanner α} {t : Text} {x : α × Text} :
    (p <|> q) t = some x ↔ p t = some x ∨ p t = none ∧ q t = some x := by
  rw [orElse_apply]
  cases p t <;> simp

theorem optional_eq_some_iff {p : Scanner α} {t r : Text} {o : Option α} :
    (optional p) t = some (o, r) ↔
      (∃ a, o = some a ∧ p t = some (a, r)) ∨ o = none ∧ r = t ∧ p t = none := by
  have hmap : (some <$> p : Scanner (Option α)) t = (p t).map fun x => (some x.1, x.2) := by
    change (p t).bind (fun x => some (some x.1, x.2)) = _
    rw [Option.map_eq_bind]
    rfl
  rw [optional, orElse_eq_some_iff, hmap, pure_eq_some_iff, Prod.mk.injEq]
  cases hp : p t with
  | none => simp
  | some x =>
    obtain ⟨a, left⟩ := x
    simp [eq_comm]

theorem optional_of_eq_some {p : Scanner α} {t r : Text} {a : α} (h : p t = some (a, r)) :
    (optional p) t = some (some a, r) :=
  optional_eq_some_iff.mpr (.inl ⟨a, rfl, h⟩)

theorem optional_of_eq_none {p : Scanner α} {t : Text} (h : p t = none) :
    (optional p) t = some (none, t) :=
  optional_eq_some_iff.mpr (.inr ⟨rfl, rfl, h⟩)

/-- A value that is given only on a condition. -/
theorem guarded_eq_some_iff {c : Prop} [Decidable c] {a : α} {t : Text} {x : α × Text} :
    (if c then failure else pure a : Scanner α) t = some x ↔ ¬ c ∧ x = (a, t) := by
  split
  · next h => simp [h, failure_apply]
  · next h => rw [pure_eq_some_iff]; simp [h]

theorem firstOf_nil (t : Text) : (firstOf [] : Scanner α) t = none := rfl

theorem firstOf_cons (p : Scanner α) (ps : List (Scanner α)) (t : Text) :
    firstOf (p :: ps) t = (p t <|> firstOf ps t) := rfl

/-- What a choice of scanners reads, one of them reads. -/
theorem firstOf_eq_some {ps : List (Scanner α)} {t : Text} {x : α × Text}
    (h : firstOf ps t = some x) : ∃ p ∈ ps, p t = some x := by
  induction ps with
  | nil => rw [firstOf_nil] at h; contradiction
  | cons p ps ih =>
    rw [firstOf_cons] at h
    cases hp : p t with
    | none =>
      rw [hp] at h
      obtain ⟨q, hq, hqt⟩ := ih h
      exact ⟨q, List.mem_cons_of_mem _ hq, hqt⟩
    | some y =>
      rw [hp] at h
      exact ⟨p, List.mem_cons_self, hp.trans h⟩

theorem firstOf_ne_none {ps : List (Scanner α)} {p : Scanner α} {t : Text} (hp : p ∈ ps)
    (h : p t ≠ none) : firstOf ps t ≠ none := by
  induction ps with
  | nil => simp at hp
  | cons q qs ih =>
    rw [firstOf_cons]
    cases hq : q t with
    | some x => simp
    | none =>
      rcases List.mem_cons.mp hp with rfl | hp
      · exact absurd hq h
      · simpa using ih hp

/-! ## Characters -/

/-- A run goes on for as long as it can. -/
theorem run_eq_some_iff {p : Char → Bool} {t w r : Text} :
    run p t = some (w, r) ↔ t = w ++ r ∧ (∀ c ∈ w, p c = true) ∧ Stops p r := by
  constructor
  · intro h
    obtain ⟨rfl, rfl⟩ := Prod.mk.inj (Option.some.inj h)
    exact ⟨List.takeWhile_append_dropWhile.symm, fun _ => mem_takeWhile, stops_dropWhile p t⟩
  · rintro ⟨rfl, hw, hr⟩
    rw [run, takeWhile_append hw hr, dropWhile_append hw hr]

theorem run1_eq_some_iff {p : Char → Bool} {t w r : Text} :
    run1 p t = some (w, r) ↔ t = w ++ r ∧ w ≠ [] ∧ (∀ c ∈ w, p c = true) ∧ Stops p r := by
  cases t with
  | nil =>
    constructor
    · exact fun h => nomatch h
    · rintro ⟨h, hne, -, -⟩
      exact absurd (List.append_eq_nil_iff.mp h.symm).1 hne
  | cons c t =>
    rw [run1]
    split
    · next hc =>
      change run p (c :: t) = some (w, r) ↔ _
      rw [run_eq_some_iff]
      constructor
      · rintro ⟨h, hw, hr⟩
        refine ⟨h, fun hne => ?_, hw, hr⟩
        rw [hne, List.nil_append] at h
        rw [← h, stops_cons, hc] at hr
        contradiction
      · exact fun ⟨h, _, hw, hr⟩ => ⟨h, hw, hr⟩
    · next hc =>
      constructor
      · exact fun h => nomatch h
      · rintro ⟨h, hne, hw, -⟩
        cases w with
        | nil => contradiction
        | cons d w =>
          obtain ⟨rfl, -⟩ := List.cons.inj h
          exact absurd (hw c List.mem_cons_self) hc

theorem splitUpTo_eq {p : Char → Bool} {stop : Text → Bool} {t w r : Text}
    (h : splitUpTo p stop t = (w, r)) : t = w ++ r ∧ ∀ c ∈ w, p c = true := by
  induction t generalizing w with
  | nil =>
    obtain ⟨rfl, rfl⟩ := Prod.mk.inj h
    simp
  | cons c t ih =>
    rw [splitUpTo] at h
    split at h
    · next hc =>
      simp only [Bool.and_eq_true, Bool.not_eq_true'] at hc
      obtain ⟨rfl, rfl⟩ := Prod.mk.inj h
      obtain ⟨happ, hall⟩ := ih rfl
      exact ⟨congrArg (c :: ·) happ, List.forall_mem_cons.mpr ⟨hc.1, hall⟩⟩
    · obtain ⟨rfl, rfl⟩ := Prod.mk.inj h
      simp

/-- A run that is stopped nowhere in `w` goes on to the end of `w`. -/
theorem splitUpTo_append {p : Char → Bool} {stop : Text → Bool} {w r : Text}
    (hw : ∀ c ∈ w, p c = true) (hstop : ∀ s, s <:+ w → s ≠ [] → stop (s ++ r) = false)
    (hr : Stops p r ∨ stop r = true) : splitUpTo p stop (w ++ r) = (w, r) := by
  induction w with
  | nil =>
    cases r with
    | nil => rfl
    | cons c r =>
      rcases hr with hr | hr
      · simp [splitUpTo, stops_cons.mp hr]
      · simp [splitUpTo, hr]
  | cons c w ih =>
    have htail : splitUpTo p stop (w ++ r) = (w, r) :=
      ih (fun d hd => hw d (List.mem_cons_of_mem _ hd))
        fun s hs => hstop s (hs.trans (List.suffix_cons c w))
    have hhead : stop (c :: (w ++ r)) = false := hstop (c :: w) List.suffix_rfl (by simp)
    simp [splitUpTo, hw c List.mem_cons_self, hhead, htail]

theorem upTo_eq_some {p : Char → Bool} {stop : Text → Bool} {t w r : Text}
    (h : upTo p stop t = some (w, r)) : t = w ++ r ∧ ∀ c ∈ w, p c = true :=
  splitUpTo_eq (Option.some.inj h)

theorem rest_eq_some_iff {t w r : Text} : rest t = some (w, r) ↔ w = t ∧ r = [] := by
  rw [rest, Option.some.injEq, Prod.mk.injEq, eq_comm, eq_comm (a := r)]

/-! ## Marks and words -/

theorem mark_eq_some_iff {m t r : Text} {u : Unit} : mark m t = some (u, r) ↔ t = m ++ r := by
  rw [mark, Option.map_eq_some_iff]
  simp [after?_eq_some_iff]

theorem mark_append (m r : Text) : mark m (m ++ r) = some ((), r) := mark_eq_some_iff.mpr rfl

theorem mark_self (m : Text) : mark m m = some ((), []) :=
  mark_eq_some_iff.mpr (List.append_nil m).symm

theorem quote?_eq_some {t r : Text} {u : Unit} (h : quote? t = some (u, r)) :
    t = r ∨ t = '"' :: r := by
  unfold quote? at h
  split at h
  · exact .inr (by simpa using h)
  · exact .inl (by simpa using h)

theorem quote?_cons (r : Text) : quote? ('"' :: r) = some ((), r) := rfl

theorem quote?_of_head {t : Text} (h : t.head? ≠ some '"') : quote? t = some ((), t) := by
  unfold quote?
  split
  · exact absurd rfl h
  · rfl

theorem blanks_eq_some_iff {t r : Text} {u : Unit} :
    blanks t = some (u, r) ↔ ∃ b, t = b ++ r ∧ b.Blank ∧ Stops isBlank r := by
  constructor
  · intro h
    obtain ⟨-, rfl⟩ := Prod.mk.inj (Option.some.inj h)
    exact ⟨t.takeWhile isBlank, List.takeWhile_append_dropWhile.symm, fun _ => mem_takeWhile,
      stops_dropWhile isBlank t⟩
  · rintro ⟨b, rfl, hb, hr⟩
    rw [blanks, dropWhile_append hb hr]

theorem blanks_append {b r : Text} (hb : b.Blank) (hr : Stops isBlank r) :
    blanks (b ++ r) = some ((), r) := blanks_eq_some_iff.mpr ⟨b, rfl, hb, hr⟩

theorem blanks_of_stops {r : Text} (hr : Stops isBlank r) : blanks r = some ((), r) :=
  blanks_append blank_nil hr

theorem blanks_space {r : Text} (hr : Stops isBlank r) : blanks (' ' :: r) = some ((), r) :=
  blanks_append blank_space hr

theorem blanks1_eq_some_iff {t r : Text} {u : Unit} :
    blanks1 t = some (u, r) ↔ ∃ b, t = b ++ r ∧ b ≠ [] ∧ b.Blank ∧ Stops isBlank r := by
  simp only [blanks1, bind_eq_some_iff, run1_eq_some_iff, pure_eq_some_iff, Prod.mk.injEq]
  constructor
  · rintro ⟨b, left, h, -, rfl⟩
    exact ⟨b, h⟩
  · rintro ⟨b, h⟩
    exact ⟨b, r, h, trivial, rfl⟩

theorem blanks1_space {r : Text} (hr : Stops isBlank r) : blanks1 (' ' :: r) = some ((), r) :=
  blanks1_eq_some_iff.mpr ⟨[' '], rfl, by simp, blank_space, hr⟩

theorem ident_eq_some_iff {t w r : Text} :
    ident t = some (w, r) ↔ t = w ++ r ∧ w.IsIdent ∧ Stops isWord r := by
  rw [ident, run1_eq_some_iff]
  constructor
  · exact fun ⟨h, hne, hw, hr⟩ => ⟨h, ⟨hne, hw⟩, hr⟩
  · exact fun ⟨h, ⟨hne, hw⟩, hr⟩ => ⟨h, hne, hw, hr⟩

theorem ident_append {w r : Text} (hw : w.IsIdent) (hr : Stops isWord r) :
    ident (w ++ r) = some (w, r) := ident_eq_some_iff.mpr ⟨rfl, hw, hr⟩

theorem ident_self {w : Text} (hw : w.IsIdent) : ident w = some (w, []) :=
  ident_eq_some_iff.mpr ⟨(List.append_nil w).symm, hw, stops_nil⟩

theorem length_of_sameLetters {w k : Text} (h : sameLetters w k = true) : w.length = k.length := by
  simpa using congrArg List.length (beq_iff_eq.mp h)

/-- A keyword is read in upper and lower case, whatever follows it. -/
theorem keyword_eq_some_iff {k t r : Text} {u : Unit} :
    keyword k t = some (u, r) ↔ ∃ w, t = w ++ r ∧ sameLetters w k = true := by
  rw [keyword]
  constructor
  · intro h
    split at h
    · next hw =>
      obtain ⟨-, rfl⟩ := Prod.mk.inj (Option.some.inj h)
      exact ⟨t.take k.length, (List.take_append_drop ..).symm, hw⟩
    · contradiction
  · rintro ⟨w, rfl, hw⟩
    rw [← length_of_sameLetters hw, List.take_left, List.drop_left, if_pos hw]

theorem keyword_append {k w : Text} (hw : sameLetters w k = true) (r : Text) :
    keyword k (w ++ r) = some ((), r) := keyword_eq_some_iff.mpr ⟨w, rfl, hw⟩

theorem keyword_self {k w : Text} (hw : sameLetters w k = true) : keyword k w = some ((), []) :=
  keyword_eq_some_iff.mpr ⟨w, (List.append_nil w).symm, hw⟩

theorem keyword_of_eq {k r : Text} : keyword k (k ++ r) = some ((), r) :=
  keyword_append (beq_self_eq_true _) r

theorem keyword_of_head {c d : Char} {k t : Text} (h : c.toLower ≠ d.toLower) :
    keyword (d :: k) (c :: t) = none := by
  rw [keyword, if_neg]
  simp [sameLetters, h]

/-- Spellings of a word are words. -/
theorem isWord_of_sameLetters {w k : Text} (h : sameLetters w k = true)
    (hk : ∀ c ∈ k, isWord c = true) : ∀ c ∈ w, isWord c = true := by
  intro c hc
  have hmem : c.toLower ∈ k.map Char.toLower := by
    rw [← beq_iff_eq.mp h]
    exact List.mem_map_of_mem hc
  obtain ⟨d, hd, hdc⟩ := List.mem_map.mp hmem
  rw [← isWord_toLower, ← hdc, isWord_toLower]
  exact hk d hd

theorem sameLetters_append {w v k d : Text} (hw : sameLetters w k = true)
    (hv : sameLetters v d = true) : sameLetters (w ++ v) (k ++ d) = true := by
  simp only [sameLetters, beq_iff_eq, List.map_append] at hw hv ⊢
  rw [hw, hv]

theorem sameLetters_append_right {t k d : Text} (h : sameLetters t (k ++ d) = true) :
    ∃ w v, t = w ++ v ∧ sameLetters w k = true ∧ sameLetters v d = true := by
  simp only [sameLetters, beq_iff_eq, List.map_append] at h ⊢
  obtain ⟨w, v, rfl, hw, hv⟩ := List.map_eq_append_iff.mp h
  exact ⟨w, v, rfl, hw, hv⟩

theorem isIdent_of_sameLetters {w k : Text} (h : sameLetters w k = true) (hk : k.IsIdent) :
    w.IsIdent where
  ne_nil := by
    rintro rfl
    have := beq_iff_eq.mp h
    exact hk.ne_nil (by simpa using this.symm)
  word := isWord_of_sameLetters h hk.word

/-! ## Lists -/

/-- A scanner that never succeeds without taking something. -/
def Consumes (p : Scanner α) : Prop :=
  ∀ {t a r}, p t = some (a, r) → ∃ w, w ≠ [] ∧ t = w ++ r

theorem Consumes.suffix {p : Scanner α} (hp : Consumes p) {t r : Text} {a : α}
    (h : p t = some (a, r)) : r <:+ t := by
  obtain ⟨w, -, rfl⟩ := hp h
  exact List.suffix_append w r

theorem Consumes.length_lt {p : Scanner α} (hp : Consumes p) {t r : Text} {a : α}
    (h : p t = some (a, r)) : r.length < t.length := by
  obtain ⟨w, hw, rfl⟩ := hp h
  have := List.length_pos_of_ne_nil hw
  simp only [List.length_append]
  omega

theorem consumes_ident : Consumes ident := fun h => by
  obtain ⟨rfl, hw, -⟩ := ident_eq_some_iff.mp h
  exact ⟨_, hw.ne_nil, rfl⟩

theorem comma_eq_some {t r : Text} {u : Unit} (h : comma t = some (u, r)) :
    ∃ w, w ≠ [] ∧ t = w ++ r := by
  simp only [comma, bind_eq_some_iff, blanks_eq_some_iff, mark_eq_some_iff] at h
  obtain ⟨-, _, ⟨b, rfl, -, -⟩, -, _, rfl, b', rfl, -, -⟩ := h
  exact ⟨b ++ ',' :: b', by simp, by simp⟩

theorem Consumes.afterComma {item : Scanner α} (hitem : Consumes item) :
    Consumes (do comma; item) := fun h => by
  obtain ⟨_, _, hcomma, hrest⟩ := bind_eq_some_iff.mp h
  obtain ⟨w, hw, rfl⟩ := comma_eq_some hcomma
  obtain ⟨v, -, rfl⟩ := hitem hrest
  exact ⟨w ++ v, by simp [hw], by simp⟩

/-- Blanks before a comma do not matter. -/
theorem afterComma_append {item : Scanner α} {b t : Text} (hb : b.Blank) (ht : Stops isBlank t) :
    (do comma; item : Scanner α) (b ++ t) = (do comma; item : Scanner α) t := by
  rw [comma, bind_assoc, bind_of_eq_some (blanks_append hb ht),
    bind_of_eq_some (blanks_of_stops ht)]

theorem afterComma_of_head {item : Scanner α} {t : Text} (hstart : Stops isBlank t)
    (hcomma : t.head? ≠ some ',') : (do comma; item : Scanner α) t = none := by
  refine bind_of_eq_none (step (blanks_of_stops hstart) (bind_of_eq_none ?_))
  rw [Option.eq_none_iff_forall_ne_some]
  rintro ⟨u, r⟩ hmark
  rw [mark_eq_some_iff.mp hmark] at hcomma
  exact hcomma rfl

/-- A repeated scanner stops where it reads nothing more. -/
theorem repeated_spec {p : Scanner α} (hp : Consumes p) (t : Text) :
    (repeated p t).2 <:+ t ∧ p (repeated p t).2 = none ∧
      ∀ a ∈ (repeated p t).1, ∃ s r, p s = some (a, r) := by
  fun_induction repeated p t with
  | case1 t h => simpa using h
  | case2 t a left h _ ih =>
    obtain ⟨hsuffix, hnone, hitems⟩ := ih
    refine ⟨hsuffix.trans (hp.suffix h), hnone, ?_⟩
    intro b hb
    rcases List.mem_cons.mp hb with rfl | hb
    · exact ⟨t, left, h⟩
    · exact hitems b hb
  | case3 t a left h hlen => exact absurd (hp.length_lt h) hlen

/-- A list has at least one item, and no further item follows it. -/
theorem commaList_eq_some {item : Scanner α} (hitem : Consumes item) {t r : Text} {xs : List α}
    (h : commaList item t = some (xs, r)) :
    ∃ x xs' left, xs = x :: xs' ∧ item t = some (x, left) ∧ r <:+ left ∧
      (do comma; item : Scanner α) r = none ∧ ∀ y ∈ xs, ∃ s l, item s = some (y, l) := by
  simp only [commaList, bind_eq_some_iff, many, pure_eq_some_iff, Prod.mk.injEq,
    Option.some.injEq] at h
  obtain ⟨x, left, hx, xs', _, hmany, rfl, rfl⟩ := h
  obtain ⟨hsuffix, hnone, hitems⟩ := repeated_spec hitem.afterComma left
  rw [hmany] at hsuffix hnone hitems
  refine ⟨x, xs', left, rfl, hx, hsuffix, hnone, ?_⟩
  intro y hy
  rcases List.mem_cons.mp hy with rfl | hy
  · exact ⟨t, left, hx⟩
  · obtain ⟨s, l, hsl⟩ := hitems y hy
    obtain ⟨_, _, -, hitem⟩ := bind_eq_some_iff.mp hsl
    exact ⟨_, _, hitem⟩

/-- What is spelled piece after piece is read back, up to where no piece follows. `Q` is what
reading a piece needs of the text after it. -/
theorem repeated_flatMap {p : Scanner α} {spell : α → Text} {Q : Text → Prop} {xs : List α}
    {r : Text} (hread : ∀ x ∈ xs, ∀ s, Q s → p (spell x ++ s) = some (x, s))
    (hne : ∀ x ∈ xs, spell x ≠ []) (hrest : ∀ ys : List α, ys <:+ xs → Q (ys.flatMap spell ++ r))
    (hend : p r = none) : repeated p (xs.flatMap spell ++ r) = (xs, r) := by
  induction xs with
  | nil =>
    rw [List.flatMap_nil, List.nil_append, repeated]
    simp [hend]
  | cons x xs ih =>
    have hpos := List.length_pos_of_ne_nil (hne x List.mem_cons_self)
    have hone : p (spell x ++ (xs.flatMap spell ++ r)) = some (x, xs.flatMap spell ++ r) :=
      hread x List.mem_cons_self _ (hrest xs (List.suffix_cons x xs))
    have hmore : repeated p (xs.flatMap spell ++ r) = (xs, r) :=
      ih (fun y hy => hread y (List.mem_cons_of_mem x hy))
        (fun y hy => hne y (List.mem_cons_of_mem x hy))
        fun ys hys => hrest ys (hys.trans (List.suffix_cons x xs))
    rw [List.flatMap_cons, List.append_assoc, repeated, hone]
    simp only [List.length_append]
    rw [if_pos (by omega), hmore]
    rfl

theorem comma_append {b r : Text} (hb : b.Blank) (hr : Stops isBlank r) :
    comma (',' :: (b ++ r)) = some ((), r) :=
  step (blanks_of_stops (stops_cons.mpr (by decide))) <|
    step (mark_append [','] _) (blanks_append hb hr)

theorem comma_cons {r : Text} (hr : Stops isBlank r) : comma (',' :: r) = some ((), r) :=
  comma_append blank_nil hr

/-- Items that are spelled with commas between them are read back, up to where no item follows. -/
theorem commaList_joined {item : Scanner α} {spell : α → Text} {q : Char → Bool}
    (hcomma : q ',' = false) {x : α} {xs : List α} {r : Text}
    (hread : ∀ y ∈ x :: xs, ∀ s, Stops q s → item (spell y ++ s) = some (y, s))
    (hstart : ∀ y ∈ xs, ∀ s, Stops isBlank (spell y ++ s)) (hr : Stops q r)
    (hend : (do comma; item : Scanner α) r = none) :
    commaList item (joined [','] ((x :: xs).map spell) ++ r) = some (x :: xs, r) := by
  have hstops : ∀ ys : List α, Stops q (ys.flatMap (fun y => ',' :: spell y) ++ r) := by
    intro ys
    cases ys with
    | nil => simpa using hr
    | cons y ys => simpa using hcomma
  have hmany : repeated (do comma; item : Scanner α) (xs.flatMap (fun y => ',' :: spell y) ++ r) =
      (xs, r) := by
    refine repeated_flatMap (fun y hy s hs => ?_) (fun _ _ => List.cons_ne_nil _ _)
      (fun ys _ => hstops ys) hend
    rw [List.cons_append, bind_of_eq_some (comma_cons (hstart y hy s))]
    exact hread y (List.mem_cons_of_mem _ hy) s hs
  have hjoined : joined [','] ((x :: xs).map spell) =
      spell x ++ xs.flatMap (fun y => ',' :: spell y) := by
    rw [List.map_cons, joined_cons, List.flatMap_map]
    rfl
  rw [hjoined, List.append_assoc, commaList]
  exact step (hread x List.mem_cons_self _ (hstops xs)) (step (congrArg some hmany) rfl)

/-! ## Taken characters -/

/-- A scanner that takes only characters that satisfy `q`. -/
def Takes (q : Char → Bool) (p : Scanner α) : Prop :=
  ∀ ⦃t a r⦄, p t = some (a, r) → ∃ w, t = w ++ r ∧ ∀ c ∈ w, q c = true

section
variable {q : Char → Bool}

theorem takes_pure (a : α) : Takes q (pure a) := fun _ _ _ h => by
  obtain ⟨-, rfl⟩ := Prod.mk.inj (pure_eq_some_iff.mp h)
  exact ⟨[], rfl, by simp⟩

theorem Takes.bind {p : Scanner α} {f : α → Scanner β} (hp : Takes q p) (hf : ∀ a, Takes q (f a)) :
    Takes q (p >>= f) := fun _ _ _ h => by
  obtain ⟨a, left, hfirst, hrest⟩ := bind_eq_some_iff.mp h
  obtain ⟨w, rfl, hw⟩ := hp hfirst
  obtain ⟨v, rfl, hv⟩ := hf a hrest
  exact ⟨w ++ v, by simp, List.forall_mem_append.mpr ⟨hw, hv⟩⟩

theorem Takes.orElse {p p' : Scanner α} (hp : Takes q p) (hp' : Takes q p') : Takes q (p <|> p') :=
  fun _ _ _ h => by
    rcases orElse_eq_some_iff.mp h with h | ⟨-, h⟩
    · exact hp h
    · exact hp' h

theorem Takes.optional {p : Scanner α} (hp : Takes q p) : Takes q (optional p) := fun _ _ _ h => by
  rcases optional_eq_some_iff.mp h with ⟨a, -, h⟩ | ⟨-, rfl, -⟩
  · exact hp h
  · exact ⟨[], rfl, by simp⟩

theorem takes_mark {m : Text} (hm : ∀ c ∈ m, q c = true) : Takes q (mark m) := fun _ _ _ h =>
  ⟨m, mark_eq_some_iff.mp h, hm⟩

theorem takes_blanks (hblank : ∀ c, isBlank c = true → q c = true) : Takes q blanks := by
  intro _ _ _ h
  obtain ⟨b, rfl, hb, -⟩ := blanks_eq_some_iff.mp h
  exact ⟨b, rfl, fun c hc => hblank c (hb c hc)⟩

theorem takes_run1 {p : Char → Bool} (hp : ∀ c, p c = true → q c = true) : Takes q (run1 p) :=
  fun _ _ _ h => by
    obtain ⟨rfl, -, hw, -⟩ := run1_eq_some_iff.mp h
    exact ⟨_, rfl, fun c hc => hp c (hw c hc)⟩

theorem takes_keyword (hword : ∀ c, isWord c = true → q c = true) {k : Text}
    (hk : ∀ c ∈ k, isWord c = true) : Takes q (keyword k) := fun _ _ _ h => by
  obtain ⟨w, rfl, hw⟩ := keyword_eq_some_iff.mp h
  exact ⟨w, rfl, fun c hc => hword c (isWord_of_sameLetters hw hk c hc)⟩

/-- A scanner that is repeated takes no other characters. -/
theorem Takes.many {p : Scanner α} (hp : Takes q p) : Takes q (many p) := fun t _ _ h => by
  obtain ⟨rfl, rfl⟩ := Prod.mk.inj (Option.some.inj h)
  fun_induction repeated p t with
  | case1 t => exact ⟨[], rfl, by simp⟩
  | case2 t a left hfirst _ ih =>
    obtain ⟨w, rfl, hw⟩ := hp hfirst
    obtain ⟨v, hv, hall⟩ := ih rfl
    exact ⟨w ++ v, by rw [List.append_assoc]; exact congrArg (w ++ ·) hv,
      List.forall_mem_append.mpr ⟨hw, hall⟩⟩
  | case3 t => exact ⟨[], rfl, by simp⟩

theorem Takes.commaList {item : Scanner α} (hitem : Takes q item)
    (hblank : ∀ c, isBlank c = true → q c = true) (hcomma : q ',' = true) :
    Takes q (commaList item) := by
  have hmark : Takes q comma := (takes_blanks hblank).bind fun _ =>
    (takes_mark (by simpa using hcomma)).bind fun _ => takes_blanks hblank
  exact hitem.bind fun _ => (hmark.bind fun _ => hitem).many.bind fun _ => takes_pure _

end

end FlowTidy.Scanner
