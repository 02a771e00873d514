import FlowTidy.Json.Value
import FlowTidy.Proofs.Text.Basic
import FlowTidy.Proofs.Order
import FlowTidy.Text.Key
import Mathlib.Data.List.Forall2

/-!
The ways to write a JSON value by hand, as relations between values and texts. They are the rules of
JSON, with more freedom for strings, keys, constants and the comma after the last item. None of them
says how a text is read.
-/

namespace FlowTidy.Spelling

/-! ## Strings and keys -/

/-- A hexadecimal digit, in either case, and its value. -/
def HexDigit (c : Char) (n : Nat) : Prop :=
  n < 16 ∧ (c = Nat.digitChar n ∨ c = (Nat.digitChar n).toUpper)

/-- Four hexadecimal digits and the number that they write. -/
def HexCode (digits : Text) (code : Nat) : Prop :=
  ∃ values : List Nat, List.Forall₂ HexDigit digits values ∧ values.length = 4 ∧
    code = values.foldl (fun n value => 16 * n + value) 0

/-- What stands for a character after a backslash as a single letter or sign. -/
def letters : List (Char × Char) :=
  [('\\', '\\'), ('/', '/'), ('"', '"'), ('\'', '\''), ('b', '\x08'), ('f', '\x0c'), ('n', '\n'),
    ('r', '\r'), ('t', '\t')]

/-- What may stand for a character after a backslash. -/
inductive Escape : Char → Text → Prop
  | letter {c letter : Char} : (letter, c) ∈ letters → Escape c [letter]
  | code {c : Char} {digits : Text} : HexCode digits c.toNat → Escape c ('u' :: digits)
  /-- A code that no character has stands for the replacement character. -/
  | surrogate {digits : Text} {code : Nat} :
    HexCode digits code → ¬ code.isValidChar → Escape '\uFFFD' ('u' :: digits)

/-- The characters between quotes of one kind. The quote itself and the backslash are not written as
they are. -/
inductive Inside (quote : Char) : Text → Text → Prop
  | nil : Inside quote [] []
  | raw {c : Char} {t s : Text} :
    c ≠ quote → c ≠ '\\' → Inside quote t s → Inside quote (c :: t) (c :: s)
  | escaped {c : Char} {t e s : Text} :
    Escape c e → Inside quote t s → Inside quote (c :: t) ('\\' :: (e ++ s))

/-- A string in double or single quotes. -/
inductive Quoted : Text → Text → Prop
  | double {t s : Text} : Inside '"' t s → Quoted t ('"' :: (s ++ ['"']))
  | single {t s : Text} : Inside '\'' t s → Quoted t ('\'' :: (s ++ ['\'']))

/-- A key, as a string or bare. -/
inductive Key : Text → Text → Prop
  | quoted {key s : Text} : Quoted key s → Key key s
  | bare {c : Char} {more : Text} :
    isKeyStart c = true → (∀ d ∈ more, isKeyRest d = true) → Key (c :: more) (c :: more)

/-! ## Values -/

/-- The constants and their spellings. -/
def constants : List (Json × Text) :=
  [(.null, ['n', 'u', 'l', 'l']), (.null, ['N', 'o', 'n', 'e']),
    (.bool true, ['t', 'r', 'u', 'e']), (.bool true, ['T', 'r', 'u', 'e']),
    (.bool false, ['f', 'a', 'l', 's', 'e']), (.bool false, ['F', 'a', 'l', 's', 'e'])]

/-- An integer in decimal digits. -/
inductive Integer : Int → Text → Prop
  | natural (n : Nat) : Integer n (Text.ofNat n)
  | negative (n : Nat) : Integer (-n) ('-' :: Text.ofNat n)

/-- Items with commas between them, or nothing but blanks. Blanks alone may also follow a comma, so
that there may be one after the last item. -/
inductive Listed {α : Type} (Item : α → Text → Prop) : List α → Text → Prop
  | none {b : Text} : b.Blank → Listed Item [] b
  | last {x : α} {s : Text} : Item x s → Listed Item [x] s
  | more {x : α} {xs : List α} {s t : Text} :
    Item x s → Listed Item xs t → Listed Item (x :: xs) (s ++ ',' :: t)

mutual

/-- A value with blanks around it. -/
inductive Loose : Json → Text → Prop
  | padded {v : Json} {b s b' : Text} : b.Blank → Bare v s → b'.Blank → Loose v (b ++ (s ++ b'))

/-- A value without blanks around it. The integers are those of 64 bits, and the members of an
object, which have different keys, are written in any order. -/
inductive Bare : Json → Text → Prop
  | constant {v : Json} {s : Text} : (v, s) ∈ constants → Bare v s
  | int {n : Int} {s : Text} : Integer n s → -9223372036854775808 ≤ n → n ≤ 9223372036854775807 →
    Bare (.int n) s
  | string {t s : Text} : Quoted t s → Bare (.string t) s
  | array {items : List Json} {s : Text} :
    Listed Loose items s → Bare (.array items) ('[' :: (s ++ [']']))
  | object {members written : List (Text × Json)} {s : Text} :
    Text.Ascending members → written.Perm members → Listed Member written s →
    Bare (.object members) ('{' :: (s ++ ['}']))

/-- A key and its value, with blanks around both. -/
inductive Member : Text × Json → Text → Prop
  | pair {key : Text} {v : Json} {b s b' t : Text} : b.Blank → Key key s → b'.Blank → Loose v t →
    Member (key, v) (b ++ (s ++ (b' ++ ':' :: t)))

end

end FlowTidy.Spelling
