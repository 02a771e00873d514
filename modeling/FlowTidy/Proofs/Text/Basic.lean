import FlowTidy.Text.Basic
import FlowTidy.Text.Charset
import Mathlib.Data.List.DropRight

/-!
Characters and texts: blank characters against word characters, texts by their size in bytes, runs
of characters and where they stop, and what stripping the ends of a text leaves.
-/

namespace FlowTidy

/-! ## Blank characters and word characters -/

/-- The code points of a set of characters. -/
def Charset.codes (ranges : Charset) : List Nat :=
  ranges.flatMap fun range => List.range' range.1 (range.2 + 1 - range.1)

theorem Charset.mem_codes {ranges : Charset} {c : Char} (h : ranges.contains c = true) :
    c.toNat ∈ ranges.codes := by
  simp only [Charset.contains, List.any_eq_true, Bool.and_eq_true, decide_eq_true_eq] at h
  obtain ⟨range, hrange, hle, hge⟩ := h
  refine List.mem_flatMap.mpr ⟨range, hrange, ?_⟩
  rw [List.mem_range'_1]
  omega

/-- Whether no range of one set of characters meets a range of another. -/
def Charset.isDisjoint (a b : Charset) : Bool :=
  a.all fun r => b.all fun s => Nat.blt r.2 s.1 || Nat.blt s.2 r.1

theorem Charset.contains_of_isDisjoint {a b : Charset} (h : a.isDisjoint b = true) {c : Char}
    (hc : b.contains c = true) : a.contains c = false := by
  simp only [Charset.isDisjoint, List.all_eq_true, Bool.or_eq_true, Nat.blt_eq] at h
  simp only [Charset.contains, List.any_eq_true, Bool.and_eq_true, decide_eq_true_eq] at hc
  obtain ⟨s, hs, hlow, hhigh⟩ := hc
  refine List.any_eq_false.mpr fun r hr hmem => ?_
  simp only [Bool.and_eq_true, decide_eq_true_eq] at hmem
  have := h r hr s hs
  omega

/-- What holds of each blank character by its code point holds of all of them. -/
theorem of_isBlank (P : Char → Prop) (hall : ∀ n ∈ blankRanges.codes, P (Char.ofNat n)) {c : Char}
    (h : isBlank c = true) : P c := by
  have hc := hall _ (Charset.mem_codes h)
  rwa [Char.ofNat_toNat] at hc

theorem isAlphanum_of_isBlank {c : Char} (h : isBlank c = true) :
    c.isAlphanum = false ∧ (c == '_') = false :=
  of_isBlank (fun c => c.isAlphanum = false ∧ (c == '_') = false) (by decide) h

/-- No character is both blank and part of a word. -/
theorem isWord_of_isBlank {c : Char} (h : isBlank c = true) : isWord c = false := by
  obtain ⟨halphanum, hunderscore⟩ := isAlphanum_of_isBlank h
  rw [isWord, hunderscore, Bool.or_false, isAlphanumeric]
  split
  · exact halphanum
  · exact Charset.contains_of_isDisjoint (by decide +kernel) h

theorem isBlank_of_isWord {c : Char} (h : isWord c = true) : isBlank c = false := by
  cases hb : isBlank c with
  | false => rfl
  | true => rw [isWord_of_isBlank hb] at h; contradiction

/-- The case of a letter does not matter for words. -/
theorem isWord_toLower (c : Char) : isWord c.toLower = isWord c := by
  by_cases hc : c.toNat < 128
  · have hall : ∀ n < 128, isWord (Char.ofNat n).toLower = isWord (Char.ofNat n) := by decide
    have h := hall _ hc
    rwa [Char.ofNat_toNat] at h
  · have hZ : ¬ c.val ≤ 'Z'.val := by
      rw [UInt32.le_iff_toNat_le]
      exact fun h => hc (Nat.lt_of_le_of_lt h (by decide))
    exact congrArg isWord (dif_neg fun h => hZ h.2)

/-- What holds of the ten digits holds of every digit character. -/
theorem of_isDigit (P : Char → Prop) (hall : ∀ n < 10, P (Char.ofNat (48 + n))) {c : Char}
    (h : c.isDigit = true) : P c := by
  have hc : 48 ≤ c.toNat ∧ c.toNat ≤ 57 := Char.isDigit_iff_toNat.mp h
  have hn := hall (c.toNat - 48) (by omega)
  rwa [Nat.add_sub_cancel' hc.1, Char.ofNat_toNat] at hn

theorem isWord_of_isDigit {c : Char} (h : c.isDigit = true) : isWord c = true :=
  of_isDigit (fun c => isWord c = true) (by decide) h

theorem toLower_of_isDigit {c : Char} (h : c.isDigit = true) : c.toLower = c :=
  of_isDigit (fun c => c.toLower = c) (by decide) h

namespace Text

/-- What holds of all characters of a text is decided along the text. Without this instance it may
be decided along all characters there are. -/
instance (priority := 2000) decidableForallMem (p : Char → Prop) [DecidablePred p] (t : Text) :
    Decidable (∀ c ∈ t, p c) := List.decidableBAll p t

theorem byteSize_append (s t : Text) : byteSize (s ++ t) = byteSize s + byteSize t := by
  induction s with
  | nil => exact (Nat.zero_add _).symm
  | cons c s ih => rw [List.cons_append, byteSize, byteSize, ih, Nat.add_assoc]

theorem byteSize_replicate (n : Nat) (c : Char) :
    byteSize (List.replicate n c) = n * c.utf8Size := by
  induction n with
  | zero => rw [List.replicate_zero, byteSize, Nat.zero_mul]
  | succ n ih => rw [List.replicate_succ, byteSize, ih, Nat.succ_mul, Nat.add_comm]

theorem byteSize_pos {t : Text} (h : t ≠ []) : 0 < byteSize t := by
  obtain ⟨c, t, rfl⟩ := List.exists_cons_of_ne_nil h
  exact Nat.add_pos_left c.utf8Size_pos _

theorem byteSize_le_of_isPrefix {s t : Text} (h : s <+: t) : byteSize s ≤ byteSize t := by
  obtain ⟨r, rfl⟩ := h
  rw [byteSize_append]
  exact Nat.le_add_right _ _

/-- An offset in bytes says what stands before it. -/
theorem append_inj_of_byteSize {a b c d : Text} (h : a ++ b = c ++ d)
    (hsize : byteSize a = byteSize c) : a = c ∧ b = d := by
  have hnil : ∀ {x y : Text}, byteSize (x ++ y) = byteSize x → y = [] := by
    intro x y hxy
    by_contra hne
    have := byteSize_pos hne
    rw [byteSize_append] at hxy
    omega
  rcases List.append_eq_append_iff.mp h with ⟨x, rfl, rfl⟩ | ⟨x, rfl, rfl⟩
  · obtain rfl := hnil hsize.symm
    simp
  · obtain rfl := hnil hsize
    simp

/-- A piece stands in a text at an offset in bytes. -/
def StandsAt (t piece : Text) (offset : Nat) : Prop :=
  ∃ before after, t = before ++ (piece ++ after) ∧ byteSize before = offset

/-- An offset in bytes that is not inside a character. -/
def IsBoundary (t : Text) (offset : Nat) : Prop :=
  ∃ before after, t = before ++ after ∧ byteSize before = offset

/-! ## Runs -/

/-- A text that does not go on with a character that satisfies `p`. -/
def Stops (p : Char → Bool) (t : Text) : Prop := ∀ c ∈ t.head?, p c = false

@[simp] theorem stops_nil {p : Char → Bool} : Stops p [] := by simp [Stops]

@[simp] theorem stops_cons {p : Char → Bool} {c : Char} {t : Text} :
    Stops p (c :: t) ↔ p c = false := by
  simp [Stops]

theorem stops_dropWhile (p : Char → Bool) (t : Text) : Stops p (t.dropWhile p) := by
  intro c hc
  have h := List.head?_dropWhile_not p t
  rw [hc] at h
  simpa using h

theorem Stops.of_isPrefix {p : Char → Bool} {s t : Text} (h : Stops p t) (hs : s <+: t) :
    Stops p s := by
  obtain ⟨r, rfl⟩ := hs
  cases s with
  | nil => exact stops_nil
  | cons c s => exact stops_cons.mpr (stops_cons.mp h)

theorem Stops.append {p : Char → Bool} {s t : Text} (hs : s ≠ []) (h : Stops p s) :
    Stops p (s ++ t) := by
  cases s with
  | nil => contradiction
  | cons c s => exact stops_cons.mpr (stops_cons.mp h)

section
variable {p : Char → Bool} {w r : Text}

theorem takeWhile_append (hw : ∀ c ∈ w, p c = true) (hr : Stops p r) :
    (w ++ r).takeWhile p = w := by
  rw [List.takeWhile_append_of_pos hw]
  cases r with
  | nil => simp
  | cons c r => simp [stops_cons.mp hr]

theorem dropWhile_append (hw : ∀ c ∈ w, p c = true) (hr : Stops p r) :
    (w ++ r).dropWhile p = r := by
  rw [List.dropWhile_append_of_pos hw]
  cases r with
  | nil => simp
  | cons c r => simp [stops_cons.mp hr]

theorem mem_takeWhile {t : Text} {c : Char} (h : c ∈ t.takeWhile p) : p c = true :=
  List.all_eq_true.mp List.all_takeWhile c h

end

theorem bne_of_not_mem {t : Text} {d : Char} (h : d ∉ t) : ∀ c ∈ t, (c != d) = true := by
  intro c hc
  have hne : c ≠ d := fun e => h (e ▸ hc)
  simpa using hne

/-- An identifier: word characters, and at least one. -/
structure IsIdent (t : Text) : Prop where
  ne_nil : t ≠ []
  word : ∀ c ∈ t, isWord c = true

/-- A text of blanks only. -/
def Blank (t : Text) : Prop := ∀ c ∈ t, isBlank c = true

theorem blank_nil : Blank [] := List.forall_mem_nil _

theorem blank_space : Blank [' '] := List.forall_mem_singleton.mpr (by decide)

theorem IsIdent.not_mem {t : Text} (h : t.IsIdent) {c : Char} (hc : isWord c = false) : c ∉ t := by
  intro hm
  rw [h.word c hm] at hc
  contradiction

theorem IsIdent.head?_ne {t r : Text} (h : t.IsIdent) {c : Char} (hc : isWord c = false) :
    (t ++ r).head? ≠ some c := by
  rw [List.head?_append_of_ne_nil _ h.ne_nil]
  exact fun heq => h.not_mem hc (List.mem_of_head? heq)

theorem IsIdent.stops_blank {t : Text} (h : t.IsIdent) (r : Text) : Stops isBlank (t ++ r) := by
  obtain ⟨hne, hw⟩ := h
  cases t with
  | nil => contradiction
  | cons c t => exact stops_cons.mpr (isBlank_of_isWord (hw c List.mem_cons_self))

theorem isDigit_of_mem_ofNat {n : Nat} {c : Char} (hc : c ∈ ofNat n) : c.isDigit = true :=
  Nat.isDigit_of_mem_toDigits (by decide) (by decide) hc

theorem isIdent_ofNat (n : Nat) : (ofNat n).IsIdent where
  ne_nil := Nat.toDigits_ne_nil
  word := fun _ hc => isWord_of_isDigit (isDigit_of_mem_ofNat hc)

/-! ## Stripping the ends of a text -/

/-- A text without the characters at its two ends that satisfy `p`. -/
def strip (p : Char → Bool) (t : Text) : Text := dropEnd p (t.dropWhile p)

theorem trim_eq_strip (t : Text) : trim t = strip isBlank t := rfl

theorem unquote_eq_strip (t : Text) : unquote t = strip (· == '"') t := rfl

theorem dropEnd_eq_rdropWhile (p : Char → Bool) (t : Text) : dropEnd p t = t.rdropWhile p := rfl

section
variable {p : Char → Bool} {t : Text}

theorem dropEnd_isPrefix : dropEnd p t <+: t := List.rdropWhile_prefix p t

theorem dropEnd_eq_self_iff : dropEnd p t = t ↔ ∀ c ∈ t.getLast?, p c = false := by
  rw [dropEnd_eq_rdropWhile, List.rdropWhile_eq_self_iff]
  constructor
  · intro h c hc
    obtain ⟨hne, hlast⟩ := List.mem_getLast?_eq_getLast hc
    simpa [hlast] using h hne
  · intro h hne
    have hlast := h _ (List.getLast?_eq_getLast_of_ne_nil hne)
    simp [hlast]

theorem dropEnd_of_getLast?_ne {d : Char} (h : t.getLast? ≠ some d) : dropEnd (· == d) t = t := by
  refine dropEnd_eq_self_iff.mpr fun c hc => ?_
  cases hcd : c == d with
  | false => rfl
  | true => exact absurd (beq_iff_eq.mp hcd ▸ hc) h

theorem getLast?_dropEnd {c : Char} (hc : c ∈ (dropEnd p t).getLast?) : p c = false := by
  have h : dropEnd p (dropEnd p t) = dropEnd p t := List.rdropWhile_idempotent p t
  exact dropEnd_eq_self_iff.mp h c hc

theorem strip_isInfix : strip p t <:+: t :=
  dropEnd_isPrefix.isInfix.trans (List.dropWhile_suffix p).isInfix

theorem strip_eq_nil_iff : strip p t = [] ↔ ∀ c ∈ t, p c = true := by
  rw [strip, dropEnd_eq_rdropWhile, List.rdropWhile_eq_nil_iff]
  constructor
  · intro h c hc
    rw [← List.takeWhile_append_dropWhile (p := p) (l := t), List.mem_append] at hc
    rcases hc with hc | hc
    · exact mem_takeWhile hc
    · exact h c hc
  · intro h c hc
    exact h c ((List.dropWhile_suffix p).subset hc)

theorem stops_strip : Stops p (strip p t) := by
  intro c hc
  obtain ⟨rest, hrest⟩ := dropEnd_isPrefix (p := p) (t := t.dropWhile p)
  refine stops_dropWhile p t c ?_
  rw [← hrest]
  change c ∈ (strip p t ++ rest).head?
  cases hs : strip p t with
  | nil => rw [hs] at hc; simp at hc
  | cons d s => rw [hs] at hc; exact hc

theorem getLast?_strip {c : Char} (hc : c ∈ (strip p t).getLast?) : p c = false :=
  getLast?_dropEnd hc

/-- Nothing is stripped from a text just if neither end is of the kind. -/
theorem strip_eq_self_iff : strip p t = t ↔ Stops p t ∧ ∀ c ∈ t.getLast?, p c = false := by
  constructor
  · intro h
    refine ⟨h ▸ stops_strip, fun c hc => ?_⟩
    rw [← h] at hc
    exact getLast?_strip hc
  · rintro ⟨hhead, hlast⟩
    have hdrop : t.dropWhile p = t := by
      have := dropWhile_append (w := []) (by simp) hhead
      simpa using this
    rw [strip, hdrop]
    exact dropEnd_eq_self_iff.mpr hlast

@[simp] theorem strip_strip : strip p (strip p t) = strip p t :=
  strip_eq_self_iff.mpr ⟨stops_strip, fun _ hc => getLast?_strip hc⟩

theorem strip_of_forall_not (h : ∀ c ∈ t, p c = false) : strip p t = t :=
  strip_eq_self_iff.mpr
    ⟨fun c hc => h c (List.mem_of_mem_head? hc), fun c hc => h c (List.mem_of_mem_getLast? hc)⟩

theorem strip_append_left {b : Text} (hb : ∀ c ∈ b, p c = true) : strip p (b ++ t) = strip p t := by
  rw [strip, List.dropWhile_append_of_pos hb, ← strip]

/-- Characters of the kind at the end make no difference to what is left. -/
theorem strip_append_right {b : Text} (hb : ∀ c ∈ b, p c = true) :
    strip p (t ++ b) = strip p t := by
  have hdrop : ∀ u : Text, dropEnd p (u ++ b) = dropEnd p u := by
    intro u
    have hreverse : ∀ c ∈ b.reverse, p c = true := fun c hc => hb c (List.mem_reverse.mp hc)
    rw [dropEnd, dropEnd, List.reverse_append, List.dropWhile_append_of_pos hreverse]
  rw [strip, strip, List.dropWhile_append]
  split
  · next hnil => rw [List.isEmpty_iff.mp hnil, List.dropWhile_eq_nil_iff.mpr hb]
  · exact hdrop _

/-- Characters at both ends that are stripped off do not matter. -/
theorem strip_enclosed {a b : Char} (ha : p a = true) (hb : p b = true) :
    strip p (a :: (t ++ [b])) = strip p t := by
  rw [← List.singleton_append, strip_append_left (by simpa using ha),
    strip_append_right (by simpa using hb)]

end

@[simp] theorem trim_trim (t : Text) : trim (trim t) = trim t := strip_strip

@[simp] theorem unquote_unquote (t : Text) : unquote (unquote t) = unquote t := strip_strip

theorem trim_isInfix (t : Text) : trim t <:+: t := strip_isInfix

theorem unquote_isInfix (t : Text) : unquote t <:+: t := strip_isInfix

theorem trim_eq_nil_iff {t : Text} : trim t = [] ↔ t.Blank := strip_eq_nil_iff

theorem trim_eq_self_iff {t : Text} :
    trim t = t ↔ Stops isBlank t ∧ ∀ c ∈ t.getLast?, isBlank c = false := strip_eq_self_iff

theorem unquote_of_not_mem {t : Text} (h : '"' ∉ t) : unquote t = t :=
  strip_of_forall_not fun c hc => by
    have : c ≠ '"' := fun e => h (e ▸ hc)
    simpa using this

theorem IsIdent.trim {t : Text} (h : t.IsIdent) : trim t = t :=
  strip_of_forall_not fun c hc => isBlank_of_isWord (h.word c hc)

/-- A text between quotes, once it is unquoted. -/
theorem unquote_quoted (t : Text) : unquote ('"' :: (t ++ ['"'])) = unquote t :=
  strip_enclosed rfl rfl

/-- Nothing is trimmed off a text between characters that are not blank. -/
theorem trim_enclosed {a b : Char} (ha : isBlank a = false) (hb : isBlank b = false) (t : Text) :
    trim (a :: (t ++ [b])) = a :: (t ++ [b]) := by
  refine trim_eq_self_iff.mpr ⟨stops_cons.mpr ha, fun c hc => ?_⟩
  have : (a :: (t ++ [b])).getLast? = some b := by
    rw [← List.cons_append, List.getLast?_concat]
  rw [this] at hc
  exact Option.mem_some.mp hc ▸ hb

end Text

end FlowTidy
