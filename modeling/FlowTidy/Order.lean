import FlowTidy.Text.Basic

/-!
Orders, and lists that are kept in order by a key of their members. Lists are compared member by
member, and so are texts, by the code points of their characters. Sorting keeps one member of each
key, so a sorted list has no duplicates.
-/

namespace FlowTidy

/-! ## Sorting by a key -/

/-- Whether a list comes before another: at the first place where they differ its member comes
before the other's, or it ends there. -/
def lexBefore {α : Type} [DecidableEq α] (before : α → α → Bool) : List α → List α → Bool
  | _, [] => false
  | [], _ :: _ => true
  | a :: as, b :: bs => if a = b then lexBefore before as bs else before a b

section
variable {α κ : Type} [DecidableEq κ] (before : κ → κ → Bool) (key : α → κ)

/-- Puts a member into a sorted list unless one with its key is there. -/
def insertBy (a : α) : List α → List α
  | [] => [a]
  | b :: bs =>
    if key a = key b then b :: bs
    else if before (key a) (key b) then a :: b :: bs
    else b :: insertBy a bs

/-- The members of a list in the order of their keys. Of several with one key the first stays. -/
def sortBy (as : List α) : List α := as.foldl (fun sorted a => insertBy before key a sorted) []

end

/-! ## Texts -/

namespace Text

/-- Whether a text comes before another, by the code points of their characters. -/
def before : Text → Text → Bool := lexBefore fun a b => a.toNat < b.toNat

/-- Texts in order, each once. -/
def sorted (ts : List Text) : List Text := sortBy before id ts

/-- Members in the order of their keys. Of several members with one key the last stays. -/
def sortedMembers {α : Type} (members : List (Text × α)) : List (Text × α) :=
  sortBy before Prod.fst members.reverse

end Text

end FlowTidy
