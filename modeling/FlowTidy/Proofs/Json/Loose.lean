import FlowTidy.Json.Literal
import FlowTidy.Proofs.Json.Spelling
import FlowTidy.Proofs.Scanner

/-!
Every loose spelling of a value is read as that value. Strings, keys and numbers are read up to
where they end. Items are read one after another if each is (`Reads`), with the blanks before an
item taken by what stands before it, and a comma after the last one is given back and then taken by
itself (`bracketed_listed`). Values are then read by induction on the depth of nesting, which the
length of the spelling bounds (`readsBare`).
-/

namespace FlowTidy.Literal

open Scanner Text Spelling

/-! ## Strings -/

theorem hexDigit_spec {c : Char} {n : Nat} (h : HexDigit c n) :
    isHexDigit c = true ∧ hexValue c = n := by
  have hall : ∀ n < 16, ∀ c ∈ [Nat.digitChar n, (Nat.digitChar n).toUpper],
      isHexDigit c = true ∧ hexValue c = n := by decide
  obtain ⟨hn, hc⟩ := h
  exact hall n hn c (by simpa using hc)

theorem hexDigits_spec {digits : Text} {values : List Nat}
    (h : List.Forall₂ HexDigit digits values) :
    (∀ c ∈ digits, isHexDigit c = true) ∧ ∀ start : Nat,
      digits.foldl (fun n c => 16 * n + hexValue c) start =
        values.foldl (fun n value => 16 * n + value) start := by
  induction h with
  | nil => exact ⟨by simp, fun _ => rfl⟩
  | cons hdigit _ ih =>
    obtain ⟨hhex, hvalue⟩ := hexDigit_spec hdigit
    refine ⟨List.forall_mem_cons.mpr ⟨hhex, ih.1⟩, fun start => ?_⟩
    rw [List.foldl_cons, List.foldl_cons, hvalue, ih.2]

/-- The escape of a character by its code. -/
theorem escape_hexCode {digits : Text} {code : Nat} (h : HexCode digits code) (rest : Text) :
    escape ('u' :: (digits ++ rest)) = some (charOf code, rest) := by
  obtain ⟨values, hdigits, hvalues, rfl⟩ := h
  obtain ⟨hhex, hfold⟩ := hexDigits_spec hdigits
  have hlength : digits.length = 4 := hdigits.length_eq.trans hvalues
  have hcount : count 4 isHexDigit (digits ++ rest) = some (digits, rest) := by
    rw [count, List.take_left' hlength, List.drop_left' hlength,
      if_pos ⟨hlength, List.all_eq_true.mpr hhex⟩]
  have hchar : char (fun _ => true) ('u' :: (digits ++ rest)) = some ('u', digits ++ rest) := rfl
  rw [← hfold]
  exact step hchar (step hcount rfl)

theorem escape_spelling {c : Char} {s : Text} (h : Escape c s) (rest : Text) :
    escape (s ++ rest) = some (c, rest) := by
  cases h with
  | letter hletter =>
    simp only [letters, List.mem_cons, Prod.mk.injEq, List.not_mem_nil, or_false] at hletter
    rcases hletter with ⟨rfl, rfl⟩ | ⟨rfl, rfl⟩ | ⟨rfl, rfl⟩ | ⟨rfl, rfl⟩ | ⟨rfl, rfl⟩
      | ⟨rfl, rfl⟩ | ⟨rfl, rfl⟩ | ⟨rfl, rfl⟩ | ⟨rfl, rfl⟩ <;> rfl
  | code hcode =>
    have hvalid : c.toNat.isValidChar := c.valid
    rw [List.cons_append, escape_hexCode hcode, charOf, if_pos hvalid, Char.ofNat_toNat]
  | surrogate hcode hvalid => rw [List.cons_append, escape_hexCode hcode, charOf, if_neg hvalid]

/-- What is between quotes is read, up to the quote that ends it. -/
theorem repeated_inside {quote : Char} (hquote : quote ≠ '\\') {t s : Text} (h : Inside quote t s)
    (rest : Text) : repeated (stringChar quote) (s ++ quote :: rest) = (t, quote :: rest) := by
  induction h with
  | nil =>
    have hend : stringChar quote (quote :: rest) = none := by
      have hmark : mark ['\\'] (quote :: rest) = none := by
        rw [mark, after?, if_neg (Ne.symm hquote), Option.map_none]
      rw [stringChar, orElse_apply, char, if_neg (by simp), bind_of_eq_none hmark]
      rfl
    rw [List.nil_append, repeated, hend]
  | @raw c t s hne hne' _ ih =>
    have hchar : stringChar quote (c :: (s ++ quote :: rest)) = some (c, s ++ quote :: rest) := by
      rw [stringChar, orElse_apply, char, if_pos (by simp [hne, hne'])]
      rfl
    rw [List.cons_append, repeated, hchar]
    simp [ih]
  | @escaped c t e s hescape _ ih =>
    have hchar : stringChar quote ('\\' :: (e ++ (s ++ quote :: rest))) =
        some (c, s ++ quote :: rest) := by
      have hescaped : (do mark ['\\']; escape : Scanner Char)
          ('\\' :: (e ++ (s ++ quote :: rest))) = some (c, s ++ quote :: rest) :=
        step (mark_append ['\\'] _) (escape_spelling hescape _)
      rw [stringChar, orElse_apply, char, if_neg (by simp), hescaped]
      rfl
    rw [List.cons_append, List.append_assoc, repeated, hchar]
    simp only [List.length_cons, List.length_append]
    rw [if_pos (by omega), ih]
    rfl

theorem quoted_inside {quote : Char} (hquote : quote ≠ '\\') {t s : Text} (h : Inside quote t s)
    (rest : Text) : quoted quote (quote :: (s ++ quote :: rest)) = some (t, rest) :=
  step (mark_append [quote] _) <| step (congrArg some (repeated_inside hquote h rest)) <|
    step (mark_append [quote] rest) rfl

/-- A quoted string is read up to its closing quote. -/
theorem string_spelling {t s : Text} (h : Quoted t s) (rest : Text) :
    string (s ++ rest) = some (t, rest) := by
  cases h with
  | double h =>
    rw [List.cons_append, List.append_assoc, List.singleton_append, string, orElse_apply,
      quoted_inside (by decide) h]
    rfl
  | single h =>
    rw [List.cons_append, List.append_assoc, List.singleton_append, string, orElse_apply,
      quoted_inside (by decide) h]
    rfl

/-! ## Keys -/

theorem isKeyStart_of_isBlank {c : Char} (h : isBlank c = true) : isKeyStart c = false := by
  obtain ⟨halphanum, hunderscore⟩ := isAlphanum_of_isBlank h
  rw [Char.isAlphanum, Bool.or_eq_false_iff] at halphanum
  rw [isKeyStart]
  split
  · rw [halphanum.1, hunderscore, Bool.or_false]
  · exact Charset.contains_of_isDisjoint (by decide +kernel) h

theorem isKeyRest_of_isBlank {c : Char} (h : isBlank c = true) : isKeyRest c = false := by
  obtain ⟨halphanum, hunderscore⟩ := isAlphanum_of_isBlank h
  rw [isKeyRest]
  split
  · rw [halphanum, hunderscore, Bool.or_false]
  · exact Charset.contains_of_isDisjoint (by decide +kernel) h

theorem key_starts {key s : Text} (h : Key key s) (rest : Text) : Stops isBlank (s ++ rest) := by
  cases h with
  | quoted h => cases h <;> exact stops_cons.mpr (by decide)
  | bare hstart =>
    refine stops_cons.mpr ?_
    cases hblank : isBlank _ with
    | false => rfl
    | true => rw [isKeyStart_of_isBlank hblank] at hstart; contradiction

/-- A key is read up to where it ends, with quotes or without. -/
theorem key_spelling {key s rest : Text} (h : Key key s) (hrest : Stops isKeyRest rest) :
    (string <|> bareKey) (s ++ rest) = some (key, rest) := by
  cases h with
  | quoted h =>
    rw [orElse_apply, string_spelling h]
    rfl
  | @bare c more hstart hmore =>
    -- a quote does not start a bare key
    have hquoted : ∀ quote, isKeyStart quote = false → quoted quote (c :: more ++ rest) = none := by
      intro quote hquote
      have hne : quote ≠ c := by
        rintro rfl
        rw [hquote] at hstart
        contradiction
      refine bind_of_eq_none ?_
      rw [List.cons_append, mark, after?, if_neg hne, Option.map_none]
    have hbare : bareKey (c :: more ++ rest) = some (c :: more, rest) := by
      have hchar : char isKeyStart (c :: (more ++ rest)) = some (c, more ++ rest) := if_pos hstart
      exact step hchar (step (run_eq_some_iff.mpr ⟨rfl, hmore, hrest⟩) rfl)
    rw [orElse_apply, string, orElse_apply, hquoted '"' (by decide),
      hquoted '\'' (by decide), hbare]
    rfl

/-! ## Numbers -/

/-- A text with which a number does not go on. -/
structure EndsNumber (rest : Text) : Prop where
  digit : Stops Char.isDigit rest
  point : Stops (· == '.') rest
  exponent : Stops (fun c => c == 'e' || c == 'E') rest

theorem numeral_digits {t digits rest : Text} {sign : Option Unit}
    (hsign : (optional (mark ['-'])) t = some (sign, digits ++ rest)) (hne : digits ≠ [])
    (hdigits : ∀ c ∈ digits, c.isDigit = true) (hrest : EndsNumber rest) :
    numeral t = some (⟨sign.isSome, digits, none, none⟩, rest) := by
  have hwhole : run1 Char.isDigit (digits ++ rest) = some (digits, rest) :=
    run1_eq_some_iff.mpr ⟨rfl, hne, hdigits, hrest.digit⟩
  have hfraction : (do mark ['.']; run1 Char.isDigit : Scanner Text) rest = none := by
    refine bind_of_eq_none (Option.eq_none_iff_forall_ne_some.mpr ?_)
    rintro ⟨u, r⟩ hmark
    have hstop := hrest.point
    rw [mark_eq_some_iff.mp hmark] at hstop
    exact absurd (stops_cons.mp hstop) (by decide)
  have hexponent : exponent rest = none := by
    refine bind_of_eq_none ?_
    cases rest with
    | nil => rfl
    | cons c rest => rw [char, stops_cons.mp hrest.exponent, if_neg Bool.false_ne_true]
  exact step hsign <| step hwhole <| step (optional_of_eq_none hfraction) <|
    step (optional_of_eq_none hexponent) rfl

theorem number_of_numeral {t rest : Text} {n : Numeral} {i : Int} (h : numeral t = some (n, rest))
    (hint : n.int? = some i) : number t = some (.int i, rest) := by
  have hsource : withSource numeral t = some ((n, t.take (t.length - rest.length)), rest) := by
    rw [withSource, h, Option.map_some]
  refine step hsource ?_
  simp only [Numeral.value, hint]
  rfl

/-- An integer of 64 bits is read as that integer. -/
theorem number_spelling {i : Int} {s rest : Text} (h : Integer i s)
    (hlow : -9223372036854775808 ≤ i) (hhigh : i ≤ 9223372036854775807) (hrest : EndsNumber rest) :
    number (s ++ rest) = some (.int i, rest) := by
  have hbound : intBound = 9223372036854775808 := by decide
  have hdigits : ∀ n : Nat, Nat.ofDigitChars 10 (Text.ofNat n) 0 = n := fun n =>
    Nat.ofDigitChars_ten_toDigits
  cases h with
  | natural n =>
    have hsign : (optional (mark ['-'])) (Text.ofNat n ++ rest) =
        some (none, Text.ofNat n ++ rest) := by
      refine optional_of_eq_none (Option.eq_none_iff_forall_ne_some.mpr ?_)
      rintro ⟨u, r⟩ hmark
      refine (isIdent_ofNat n).head?_ne (r := rest) (c := '-') (by decide) ?_
      rw [mark_eq_some_iff.mp hmark]
      rfl
    refine number_of_numeral (numeral_digits hsign (isIdent_ofNat n).ne_nil
      (fun _ => isDigit_of_mem_ofNat) hrest) ?_
    rw [Numeral.int?]
    simp only [hdigits, Option.isSome_none, Bool.false_eq_true, if_false]
    exact if_pos ⟨rfl, rfl, by omega, by omega⟩
  | negative n =>
    have hsign : (optional (mark ['-'])) ('-' :: Text.ofNat n ++ rest) =
        some (some (), Text.ofNat n ++ rest) := optional_of_eq_some (mark_append ['-'] _)
    refine number_of_numeral (numeral_digits hsign (isIdent_ofNat n).ne_nil
      (fun _ => isDigit_of_mem_ofNat) hrest) ?_
    rw [Numeral.int?]
    simp only [hdigits, Option.isSome_some, if_true]
    exact if_pos ⟨rfl, rfl, by omega, by omega⟩

/-! ## Lists -/

/-- A text that goes on with a comma or a closing bracket, if at all. -/
def Ends (rest : Text) : Prop := ∀ c ∈ rest.head?, c ∈ [',', ']', '}']

theorem Ends.stops {p : Char → Bool} {rest : Text} (h : Ends rest)
    (hp : ∀ c ∈ [',', ']', '}'], p c = false) : Stops p rest := fun c hc => hp c (h c hc)

theorem stops_append_of_blank {p : Char → Bool} {b rest : Text} (hb : b.Blank)
    (hblank : ∀ c, isBlank c = true → p c = false) (hrest : Stops p rest) :
    Stops p (b ++ rest) := by
  cases b with
  | nil => exact hrest
  | cons c b => exact stops_cons.mpr (hblank c (hb c List.mem_cons_self))

theorem EndsNumber.of_ends {b rest : Text} (hb : b.Blank) (hrest : Ends rest) :
    EndsNumber (b ++ rest) := by
  have hstops : ∀ p : Char → Bool, (∀ n ∈ blankRanges.codes, p (Char.ofNat n) = false) →
      (∀ c ∈ [',', ']', '}'], p c = false) → Stops p (b ++ rest) := fun p hblank hp =>
    stops_append_of_blank hb (fun _ => of_isBlank (fun c => p c = false) hblank) (hrest.stops hp)
  exact ⟨hstops _ (by decide) (by decide), hstops _ (by decide) (by decide),
    hstops _ (by decide) (by decide)⟩

theorem padded_append {α : Type} {p : Scanner α} {a : α} {b t b' rest : Text} (hb : b.Blank)
    (ht : Stops isBlank t) (h : p t = some (a, b' ++ rest)) (hb' : b'.Blank)
    (hrest : Stops isBlank rest) : padded p (b ++ t) = some (a, rest) :=
  step (blanks_append hb ht) (step h (step (blanks_append hb' hrest) rfl))

/-- A spelling from which an item is read as soon as the blanks before it are taken. -/
def Reads {α : Type} (item : Scanner α) (x : α) (s : Text) : Prop :=
  ∃ b core : Text, s = b ++ core ∧ b.Blank ∧ (∀ rest, Stops isBlank (core ++ rest)) ∧
    ∀ rest, Ends rest → item (core ++ rest) = some (x, rest)

section
variable {α : Type} {item : Scanner α} {x : α} {xs : List α} {s t rest : Text} {closing : Char}

theorem Reads.afterComma (h : Reads item x s) (hrest : Ends rest) :
    (do comma; item : Scanner α) (',' :: (s ++ rest)) = some (x, rest) := by
  obtain ⟨b, core, rfl, hb, hstart, hread⟩ := h
  rw [List.append_assoc]
  exact step (comma_append hb (hstart rest)) (hread rest hrest)

/-- What is left after the last item of a list: its end, perhaps with a comma before it. -/
def AtEnd (closing : Char) (rest left : Text) : Prop :=
  left = closing :: rest ∨ ∃ b : Text, b.Blank ∧ left = ',' :: (b ++ closing :: rest)

variable (hclosing : closing ∈ [']', '}'])
include hclosing

theorem ends_closing : Ends (closing :: rest) := by
  intro c hc
  obtain rfl := Option.some.inj hc
  exact List.mem_cons_of_mem _ hclosing

theorem stops_blank_closing : Stops isBlank (closing :: rest) :=
  (ends_closing hclosing).stops (by decide)

theorem comma_closing : comma (closing :: rest) = none := by
  have hne : ',' ≠ closing := by
    rintro rfl
    exact absurd hclosing (by decide)
  refine step (blanks_of_stops (stops_blank_closing hclosing)) (bind_of_eq_none ?_)
  rw [mark, after?, if_neg hne, Option.map_none]

theorem repeated_closing : repeated (do comma; item) (closing :: rest) = ([], closing :: rest) := by
  have hnone : (do comma; item : Scanner α) (closing :: rest) = none :=
    bind_of_eq_none (comma_closing hclosing)
  rw [repeated, hnone]

variable (hend : item (closing :: rest) = none)
include hend

/-- Items that follow a comma are read up to the end of the list. A comma after the last one is
given back, since no item follows it. -/
theorem repeated_listed (h : Listed (Reads item) xs t) :
    ∃ left, repeated (do comma; item) (',' :: (t ++ closing :: rest)) = (xs, left) ∧
      AtEnd closing rest left := by
  induction h with
  | @none b hb =>
    have hnone : (do comma; item : Scanner α) (',' :: (b ++ closing :: rest)) = none :=
      step (comma_append hb (stops_blank_closing hclosing)) hend
    exact ⟨_, by rw [repeated, hnone], .inr ⟨b, hb, rfl⟩⟩
  | @last x s hx =>
    have hends : Ends (closing :: rest) := ends_closing hclosing
    refine ⟨closing :: rest, ?_, .inl rfl⟩
    rw [repeated, hx.afterComma hends]
    simp only [List.length_cons, List.length_append]
    rw [if_pos (by omega), repeated_closing hclosing]
    rfl
  | @more x xs s t hx _ ih =>
    obtain ⟨left, hleft, hatEnd⟩ := ih
    have hends : Ends (',' :: (t ++ closing :: rest)) := by simp [Ends]
    refine ⟨left, ?_, hatEnd⟩
    rw [List.append_assoc, List.cons_append, repeated, hx.afterComma hends]
    simp only [List.length_cons, List.length_append]
    rw [if_pos (by omega), hleft]
    rfl

omit hend in
theorem items_of_repeated {left tail : Text} (hfirst : item s = some (x, tail))
    (hmore : repeated (do comma; item) tail = (xs, left)) (hleft : AtEnd closing rest left) :
    items item s = some (x :: xs, closing :: rest) := by
  have hlist : commaList item s = some (x :: xs, left) :=
    step hfirst (step (congrArg some hmore) rfl)
  refine step (optional_of_eq_some hlist) ?_
  rcases hleft with rfl | ⟨b, hb, rfl⟩
  · exact step (optional_of_eq_none (comma_closing hclosing)) rfl
  · exact step (optional_of_eq_some (comma_append hb (stops_blank_closing hclosing))) rfl

/-- A list between brackets is read if each of its items is. -/
theorem bracketed_listed (opening : Char) (h : Listed (Reads item) xs t) :
    bracketed opening closing item (opening :: (t ++ closing :: rest)) = some (xs, rest) := by
  have hpadded : padded (items item) (t ++ closing :: rest) = some (xs, closing :: rest) := by
    have hstop : Stops isBlank (closing :: rest) := stops_blank_closing hclosing
    cases h with
    | none hb =>
      have hitems : items item (closing :: rest) = some ([], closing :: rest) :=
        step (optional_of_eq_none (bind_of_eq_none hend)) rfl
      exact padded_append hb hstop hitems blank_nil hstop
    | last hx =>
      obtain ⟨b, core, rfl, hb, hstart, hread⟩ := hx
      rw [List.append_assoc]
      refine padded_append hb (hstart _) ?_ blank_nil hstop
      exact items_of_repeated hclosing (hread _ (ends_closing hclosing)) (repeated_closing hclosing)
        (.inl rfl)
    | @more x xs s t hx hmore =>
      obtain ⟨b, core, rfl, hb, hstart, hread⟩ := hx
      obtain ⟨left, hleft, hatEnd⟩ := repeated_listed hclosing hend hmore
      rw [List.append_assoc, List.append_assoc, List.cons_append]
      refine padded_append hb (hstart _) ?_ blank_nil hstop
      exact items_of_repeated hclosing (hread _ (by simp [Ends])) hleft hatEnd
  exact step (mark_append [opening] _) (step hpadded (step (mark_append [closing] rest) rfl))

end

/-- A spelling of a list is one by another relation that holds of all its items. -/
theorem listed_imp {α : Type} {Item Item' : α → Text → Prop} {xs : List α} {t : Text}
    (h : Listed Item xs t) (himp : ∀ x s, Item x s → s.length ≤ t.length → Item' x s) :
    Listed Item' xs t := by
  induction h with
  | none hb => exact .none hb
  | last hx => exact .last (himp _ _ hx (Nat.le_refl _))
  | @more x xs s t hx _ ih =>
    have hlength : (s ++ ',' :: t).length = s.length + 1 + t.length := by
      rw [List.length_append, List.length_cons]
      omega
    exact .more (himp _ _ hx (by omega)) (ih fun y r hy hr => himp y r hy (by omega))

/-! ## Values -/

/-- Bare values are read when brackets may be nested to some depth, if they are not longer than
that, with the blanks after them. -/
def ReadsBare (depth : Nat) : Prop :=
  ∀ v s, Bare v s → s.length < depth → ∀ b rest : Text, b.Blank → Ends rest →
    value depth (s ++ (b ++ rest)) = some (v, rest)

theorem bare_starts {v : Json} {s : Text} (h : Bare v s) (rest : Text) :
    Stops isBlank (s ++ rest) := by
  cases h with
  | constant h =>
    simp only [constants, List.mem_cons, Prod.mk.injEq, List.not_mem_nil, or_false] at h
    rcases h with ⟨-, rfl⟩ | ⟨-, rfl⟩ | ⟨-, rfl⟩ | ⟨-, rfl⟩ | ⟨-, rfl⟩ | ⟨-, rfl⟩ <;>
      exact stops_cons.mpr (by decide)
  | int h =>
    cases h with
    | natural n => exact (isIdent_ofNat n).stops_blank rest
    | negative n => exact stops_cons.mpr (by decide)
  | string h => cases h <;> exact stops_cons.mpr (by decide)
  | array | object => exact stops_cons.mpr (by decide)

section
variable {depth : Nat} (hreads : ReadsBare depth)
include hreads

/-- A loose spelling is read as an item, if the depth allows. -/
theorem reads_value {v : Json} {s : Text} (h : Loose v s) (hlength : s.length < depth) :
    Reads (value depth) v s := by
  cases h with
  | @padded v b core b' hb hbare hb' =>
    simp only [List.length_append] at hlength
    refine ⟨b, core ++ b', rfl, hb, fun rest => ?_, fun rest hrest => ?_⟩
    · rw [List.append_assoc]
      exact bare_starts hbare _
    · rw [List.append_assoc]
      exact hreads _ _ hbare (by omega) _ _ hb' hrest

theorem reads_member {m : Text × Json} {s : Text} (h : Member m s) (hlength : s.length < depth) :
    Reads (member (value depth)) m s := by
  cases h with
  | @pair key v b s b' t hb hkey hb' hv =>
    simp only [List.length_append, List.length_cons] at hlength
    obtain ⟨b'', core, rfl, hb'', hstart, hread⟩ := reads_value hreads hv (by omega)
    refine ⟨b, _, rfl, hb, fun rest => ?_, fun rest hrest => ?_⟩
    · rw [List.append_assoc]
      exact key_starts hkey _
    · have hcolon : padded (mark [':']) (b' ++ ':' :: (b'' ++ (core ++ rest))) =
          some ((), core ++ rest) :=
        padded_append hb' (stops_cons.mpr (by decide)) (mark_append [':'] _) hb'' (hstart rest)
      have hkeyEnds : Stops isKeyRest (b' ++ ':' :: (b'' ++ (core ++ rest))) :=
        stops_append_of_blank hb' (fun _ => isKeyRest_of_isBlank) (stops_cons.mpr (by decide))
      simp only [List.append_assoc, List.cons_append]
      exact step (key_spelling hkey hkeyEnds) (step hcolon (step (hread rest hrest) rfl))

end

theorem constant_of_head {c : Char} {t : Text} (h : c ∉ ['t', 'T', 'f', 'F', 'n', 'N']) :
    constant (c :: t) = none := by
  have hmark : ∀ m ∈ ['t', 'T', 'f', 'F', 'n', 'N'], ∀ more, mark (m :: more) (c :: t) = none := by
    intro m hm more
    have hne : m ≠ c := by
      rintro rfl
      exact h hm
    rw [mark, after?, if_neg hne, Option.map_none]
  have hboth : ∀ m ∈ ['t', 'T', 'f', 'F', 'n', 'N'], ∀ m' ∈ ['t', 'T', 'f', 'F', 'n', 'N'],
      ∀ more more', (mark (m :: more) <|> mark (m' :: more')) (c :: t) = none := by
    intro m hm m' hm' more more'
    rw [orElse_apply, hmark m hm, hmark m' hm']
    rfl
  rw [constant, firstOf_cons, bind_of_eq_none (hboth _ (by decide) _ (by decide) _ _), firstOf_cons,
    bind_of_eq_none (hboth _ (by decide) _ (by decide) _ _), firstOf_cons,
    bind_of_eq_none (hboth _ (by decide) _ (by decide) _ _)]
  rfl

theorem constant_integer {i : Int} {s : Text} (h : Integer i s) (rest : Text) :
    constant (s ++ rest) = none := by
  cases h with
  | negative n => exact constant_of_head (by decide)
  | natural n =>
    have hne := (isIdent_ofNat n).ne_nil
    cases hdigits : Text.ofNat n with
    | nil => contradiction
    | cons c digits =>
      have hc : c.isDigit = true := isDigit_of_mem_ofNat (hdigits ▸ List.mem_cons_self)
      exact constant_of_head (of_isDigit (· ∉ ['t', 'T', 'f', 'F', 'n', 'N']) (by decide) hc)

/-- No value starts with the end of an array. -/
theorem value_closing (depth : Nat) (rest : Text) : value depth (']' :: rest) = none := by
  cases depth <;> rfl

/-- What is between the blanks around a value. -/
def bareValue (depth : Nat) : Scanner Json :=
  firstOf [
    constant,
    number,
    (do return .string (← string)),
    (do return .array (← bracketed '[' ']' (value depth))),
    (do return .ofMembers (← bracketed '{' '}' (member (value depth))))]

theorem value_succ (depth : Nat) : value (depth + 1) = padded (bareValue depth) := rfl

theorem bareValue_constant (depth : Nat) {v : Json} {s : Text} (h : (v, s) ∈ constants)
    (rest : Text) : bareValue depth (s ++ rest) = some (v, rest) := by
  simp only [constants, List.mem_cons, Prod.mk.injEq, List.not_mem_nil, or_false] at h
  rcases h with ⟨rfl, rfl⟩ | ⟨rfl, rfl⟩ | ⟨rfl, rfl⟩ | ⟨rfl, rfl⟩ | ⟨rfl, rfl⟩ | ⟨rfl, rfl⟩ <;> rfl

theorem bareValue_string (depth : Nat) {t s : Text} (h : Quoted t s) (rest : Text) :
    bareValue depth (s ++ rest) = some (.string t, rest) := by
  have hstring : (do return .string (← string) : Scanner Json) (s ++ rest) =
      some (.string t, rest) :=
    step (string_spelling h rest) rfl
  -- neither a constant nor a number starts with a quote
  have hother : constant (s ++ rest) = none ∧ number (s ++ rest) = none := by
    cases h <;> exact ⟨rfl, rfl⟩
  rw [bareValue, firstOf_cons, hother.1, firstOf_cons, hother.2, firstOf_cons, hstring]
  rfl

section
variable {depth : Nat} (hreads : ReadsBare depth)
include hreads

theorem bareValue_array {items : List Json} {t : Text} (h : Listed Loose items t)
    (hlength : t.length < depth) (rest : Text) :
    bareValue depth ('[' :: (t ++ ']' :: rest)) = some (.array items, rest) := by
  have hlisted : Listed (Reads (value depth)) items t :=
    listed_imp h fun v s hv hs => reads_value hreads hv (by omega)
  have hbracketed := bracketed_listed (by decide) (value_closing depth rest) '[' hlisted
  have harray : (do return .array (← bracketed '[' ']' (value depth)) : Scanner Json)
      ('[' :: (t ++ ']' :: rest)) = some (.array items, rest) := step hbracketed rfl
  -- nothing else starts with an opening bracket
  rw [bareValue, firstOf_cons, firstOf_cons, firstOf_cons, firstOf_cons, harray]
  rfl

/-- An object is read if its members are, and they are put in order. -/
theorem bareValue_object {members written : List (Text × Json)} {t : Text}
    (hmembers : Ascending members) (hperm : written.Perm members) (h : Listed Member written t)
    (hlength : t.length < depth) (rest : Text) :
    bareValue depth ('{' :: (t ++ '}' :: rest)) = some (.object members, rest) := by
  have hlisted : Listed (Reads (member (value depth))) written t :=
    listed_imp h fun m s hm hs => reads_member hreads hm (by omega)
  have hend : member (value depth) ('}' :: rest) = none := rfl
  have hbracketed := bracketed_listed (by decide) hend '{' hlisted
  have hobject : (do return .ofMembers (← bracketed '{' '}' (member (value depth))) : Scanner Json)
      ('{' :: (t ++ '}' :: rest)) = some (.object members, rest) :=
    step hbracketed (by rw [Json.ofMembers, sortedMembers_of_perm hmembers hperm, pure_apply])
  -- nothing else starts with an opening brace
  rw [bareValue, firstOf_cons, firstOf_cons, firstOf_cons, firstOf_cons, firstOf_cons, hobject]
  rfl

end

/-- Bare values are read at any depth. -/
theorem readsBare (depth : Nat) : ReadsBare depth := by
  induction depth with
  | zero => exact fun _ _ _ hlength => absurd hlength (Nat.not_lt_zero _)
  | succ depth ih =>
    intro v s h hlength b rest hb hrest
    have hbare : bareValue depth (s ++ (b ++ rest)) = some (v, b ++ rest) := by
      cases h with
      | constant h => exact bareValue_constant depth h _
      | int h hlow hhigh =>
        rw [bareValue, firstOf_cons, constant_integer h, firstOf_cons,
          number_spelling h hlow hhigh (.of_ends hb hrest)]
        rfl
      | string h => exact bareValue_string depth h _
      | array h =>
        simp only [List.length_cons, List.length_append] at hlength
        rw [List.cons_append, List.append_assoc]
        exact bareValue_array ih h (by omega) _
      | object hmembers hperm h =>
        simp only [List.length_cons, List.length_append] at hlength
        rw [List.cons_append, List.append_assoc]
        exact bareValue_object ih hmembers hperm h (by omega) _
    rw [value_succ, ← List.nil_append (s ++ (b ++ rest))]
    exact padded_append blank_nil (bare_starts h _) hbare hb (hrest.stops (by decide))

/-- Blanks before a value do not matter. -/
theorem value_append {b t : Text} (hb : b.Blank) (ht : Stops isBlank t) (depth : Nat) :
    value depth (b ++ t) = value depth t := by
  cases depth with
  | zero => rfl
  | succ depth =>
    rw [value_succ, padded, bind_of_eq_some (blanks_append hb ht),
      bind_of_eq_some (blanks_of_stops ht)]

/-- A loose spelling is read as a value to its end, if the depth allows. -/
theorem value_of_loose {depth : Nat} {v : Json} {s : Text} (h : Loose v s)
    (hlength : s.length < depth) : value depth s = some (v, []) := by
  obtain ⟨b, core, rfl, hb, hstart, hread⟩ := reads_value (readsBare depth) h hlength
  have hstops : Stops isBlank core := by simpa using hstart []
  calc value depth (b ++ core)
    _ = value depth (core ++ []) := by rw [value_append hb hstops, List.append_nil]
    _ = some (v, []) := hread [] (by simp [Ends])

/-- Every loose spelling of a value is read as that value. -/
theorem read?_of_loose {v : Json} {s : Text} (h : Loose v s) : read? s = some v :=
  whole?_eq_some_iff.mpr (value_of_loose h (Nat.lt_succ_self s.length))

/-- An object with its members out of order, both kinds of keys, and commas after the last items. -/
theorem read?_of_loose_object :
    let v : Json := .object [(['_', 'a'], .string ['A']), (['b'], .array [.null, .int (-2)])]
    let s : Text := [' ', '{', '\'', 'b', '\'', ':', '[', 'N', 'o', 'n', 'e', ',', '-', '2', ',',
      ']', ',', '_', 'a', ' ', ':', '"', '\\', 'u', '0', '0', '4', '1', '"', ',', '}']
    Loose v s ∧ read? s = some v := by
  intro v s
  have hcode : HexCode ['0', '0', '4', '1'] 'A'.toNat :=
    ⟨[0, 0, 4, 1], .cons ⟨by decide, .inl rfl⟩ (.cons ⟨by decide, .inl rfl⟩
      (.cons ⟨by decide, .inl rfl⟩ (.cons ⟨by decide, .inl rfl⟩ .nil))), rfl, rfl⟩
  have hstring := Loose.padded blank_nil (.string (.double (.escaped (.code hcode) .nil))) blank_nil
  have hnull := Loose.padded blank_nil
    (.constant (v := .null) (s := ['N', 'o', 'n', 'e']) (by simp [constants])) blank_nil
  have hint := Loose.padded blank_nil (.int (.negative 2) (by decide) (by decide)) blank_nil
  have harray := Loose.padded blank_nil
    (.array (.more hnull (.more hint (.none blank_nil)))) blank_nil
  have hb := Member.pair blank_nil
    (.quoted (.single (.raw (c := 'b') (by decide) (by decide) .nil))) blank_nil harray
  have hmore : ∀ d ∈ ['a'], isKeyRest d = true := by decide
  have ha := Member.pair blank_nil (.bare (c := '_') (by decide) hmore) blank_space hstring
  have h : Loose v s := Loose.padded blank_space
    (.object (by simp [Ascending]; decide) (.swap _ _ _) (.more hb (.more ha (.none blank_nil))))
    blank_nil
  exact ⟨h, read?_of_loose h⟩

end FlowTidy.Literal
