import FlowTidy.Text.Charset

/-!
Texts as lists of characters: their size in bytes, what is trimmed off their ends, and where a mark
occurs in them first.
-/

namespace FlowTidy

/-- A text, character by character. -/
abbrev Text := List Char

namespace Text

/-- The number of bytes that a text takes in UTF-8. All offsets and widths are counted so. -/
def byteSize : Text → Nat
  | [] => 0
  | c :: t => c.utf8Size + byteSize t

/-! ## Trimming -/

/-- Drops the longest end of a text whose characters all satisfy `p`. -/
def dropEnd (p : Char → Bool) (t : Text) : Text := (t.reverse.dropWhile p).reverse

def trimStart (t : Text) : Text := t.dropWhile FlowTidy.isBlank

def trimEnd (t : Text) : Text := dropEnd FlowTidy.isBlank t

/-- A text without the blanks around it. -/
def trim (t : Text) : Text := trimEnd (trimStart t)

/-- A text without the double quotes around it, however many there are. -/
def unquote (t : Text) : Text := dropEnd (· == '"') (t.dropWhile (· == '"'))

/-! ## Marks -/

/-- What follows `mark` in a text that starts with it. -/
def after? : (mark t : Text) → Option Text
  | [], t => some t
  | m :: mark, c :: t => if m = c then after? mark t else none
  | _ :: _, [] => none

/-- Cuts a text at the first occurrence of `mark`: what precedes it and what follows it. -/
def cut? (mark : Text) : Text → Option (Text × Text)
  | [] => (after? mark []).map ([], ·)
  | c :: t =>
    match after? mark (c :: t) with
    | some rest => some ([], rest)
    | none => (cut? mark t).map fun (before, rest) => (c :: before, rest)

theorem eq_append_of_after? {mark t rest : Text} (h : after? mark t = some rest) :
    t = mark ++ rest := by
  fun_induction after? mark t with
  | case1 => simpa using h
  | case2 m mark t ih => simp [ih h]
  | case3 => simp at h
  | case4 => simp at h

theorem eq_append_of_cut? {mark t before rest : Text} (h : cut? mark t = some (before, rest)) :
    t = before ++ mark ++ rest := by
  induction t generalizing before with
  | nil =>
    simp only [cut?, Option.map_eq_some_iff, Prod.mk.injEq] at h
    obtain ⟨r, hr, rfl, rfl⟩ := h
    simpa using eq_append_of_after? hr
  | cons c t ih =>
    rw [cut?] at h
    split at h
    · next hr =>
      cases h
      simpa using eq_append_of_after? hr
    · simp only [Option.map_eq_some_iff, Prod.exists, Prod.mk.injEq] at h
      obtain ⟨b, r, hr, rfl, rfl⟩ := h
      simp [ih hr]

theorem length_of_cut? {mark t before rest : Text} (h : cut? mark t = some (before, rest)) :
    t.length = before.length + mark.length + rest.length := by
  rw [eq_append_of_cut? h]
  simp [Nat.add_assoc]

/-- Whether `mark` occurs in a text. -/
def holds (t mark : Text) : Bool := (cut? mark t).isSome

/-! ## Pieces -/

/-- The pieces of a text between its newlines. -/
def lines (t : Text) : List Text := t.splitOn '\n'

/-- Pieces put together with `sep` between them. -/
def joined (sep : Text) (pieces : List Text) : Text := sep.intercalate pieces

/-- The decimal digits of a number. -/
def ofNat (n : Nat) : Text := Nat.toDigits 10 n

/-- `n` copies of a text in a row. -/
def copies (n : Nat) (t : Text) : Text := (List.replicate n t).flatten

/-- The lines of a text, each with the newline that ends it. The last one may have none. -/
def wholeLines : Text → List Text
  | [] => []
  | c :: t =>
    if c = '\n' then [c] :: wholeLines t
    else
      match wholeLines t with
      | [] => [[c]]
      | line :: lines => (c :: line) :: lines

/-- Ends a text with a newline unless it ends with one already. -/
def withNewline (t : Text) : Text := if t.getLast? = some '\n' then t else t ++ ['\n']

/-! ## Letter case -/

/-- Whether two texts differ at most in the case of ASCII letters. -/
def sameLetters (a b : Text) : Bool := a.map Char.toLower == b.map Char.toLower

end Text

end FlowTidy
