import FlowTidy.Diff.Script
import Mathlib.Order.Bounds.Basic

/-!
Longest common subsequences. Their length is the greatest length of a list that is a sublist of both
lists, which is the same seen from either end. A row of the table is described along the list that
it goes over (`Row`), one entry for each initial part, and the next row is then found entry by
entry. Cutting the second list anywhere loses at most something, and at the crossing it loses
nothing (`longestCommon_crossing`).
-/

namespace FlowTidy

variable {α : Type} {xs ys : List α} {n : Nat}

/-- `n` is the length of the longest common subsequences of two lists. -/
def LongestCommon (xs ys : List α) (n : Nat) : Prop :=
  IsGreatest {k | ∃ s : List α, s.Sublist xs ∧ s.Sublist ys ∧ s.length = k} n

namespace LongestCommon

theorem le (h : LongestCommon xs ys n) {s : List α} (hxs : s.Sublist xs) (hys : s.Sublist ys) :
    s.length ≤ n :=
  h.2 ⟨s, hxs, hys, rfl⟩

theorem intro {s : List α} (hxs : s.Sublist xs) (hys : s.Sublist ys) (hlength : s.length = n)
    (hle : ∀ t : List α, t.Sublist xs → t.Sublist ys → t.length ≤ n) : LongestCommon xs ys n := by
  refine ⟨⟨s, hxs, hys, hlength⟩, ?_⟩
  rintro _ ⟨t, htxs, htys, rfl⟩
  exact hle t htxs htys

theorem unique {m : Nat} (hm : LongestCommon xs ys m) (hn : LongestCommon xs ys n) : m = n :=
  IsGreatest.unique hm hn

theorem nil_left (ys : List α) : LongestCommon [] ys 0 := by
  refine intro (List.Sublist.refl []) (List.nil_sublist ys) rfl fun t ht _ => ?_
  rw [List.sublist_nil.mp ht]
  exact Nat.le_refl 0

theorem nil_right (xs : List α) : LongestCommon xs [] 0 := by
  refine intro (List.nil_sublist xs) (List.Sublist.refl []) rfl fun t _ ht => ?_
  rw [List.sublist_nil.mp ht]
  exact Nat.le_refl 0

theorem self (xs : List α) : LongestCommon xs xs xs.length :=
  intro (List.Sublist.refl xs) (List.Sublist.refl xs) rfl fun _ ht _ => ht.length_le

theorem reverse (h : LongestCommon xs ys n) : LongestCommon xs.reverse ys.reverse n := by
  obtain ⟨s, hxs, hys, hs⟩ := h.1
  refine intro (List.reverse_sublist.mpr hxs) (List.reverse_sublist.mpr hys) (by simpa using hs) ?_
  intro t htxs htys
  rw [← List.length_reverse]
  exact h.le (List.sublist_reverse_iff.mp htxs) (List.sublist_reverse_iff.mp htys)

theorem cons_same (x : α) (h : LongestCommon xs ys n) :
    LongestCommon (x :: xs) (x :: ys) (n + 1) := by
  obtain ⟨s, hxs, hys, rfl⟩ := h.1
  refine intro (hxs.cons_cons x) (hys.cons_cons x) rfl fun t htxs htys => ?_
  -- of a common subsequence at most the first member is not in the tails
  have htail : t.tail.Sublist xs ∧ t.tail.Sublist ys :=
    ⟨List.Sublist.tail htxs, List.Sublist.tail htys⟩
  have hle := h.le htail.1 htail.2
  rw [List.length_tail] at hle
  omega

/-- Of two different first members one is left out. -/
theorem cons_ne {x y : α} {m : Nat} (hne : x ≠ y) (hm : LongestCommon xs (y :: ys) m)
    (hn : LongestCommon (x :: xs) ys n) : LongestCommon (x :: xs) (y :: ys) (max m n) := by
  have hle : ∀ t : List α, t.Sublist (x :: xs) → t.Sublist (y :: ys) → t.length ≤ max m n := by
    intro t htxs htys
    rcases List.sublist_cons_iff.mp htxs with htxs' | ⟨r, rfl, hr⟩
    · have := hm.le htxs' htys
      omega
    · rcases List.sublist_cons_iff.mp htys with htys' | ⟨r', heq, -⟩
      · have := hn.le htxs htys'
        omega
      · exact absurd (List.cons.inj heq).1 hne
  obtain ⟨s, hsxs, hsys, hs⟩ := hm.1
  obtain ⟨t, htxs, htys, ht⟩ := hn.1
  rcases le_total m n with hmn | hmn
  · rw [max_eq_right hmn] at hle ⊢
    exact intro htxs (htys.cons y) ht hle
  · rw [max_eq_left hmn] at hle ⊢
    exact intro (hsxs.cons x) hsys hs hle

theorem concat_same (x : α) (h : LongestCommon xs ys n) :
    LongestCommon (xs ++ [x]) (ys ++ [x]) (n + 1) := by
  have := (h.reverse.cons_same x).reverse
  simpa using this

theorem append_same (zs : List α) (h : LongestCommon xs ys n) :
    LongestCommon (xs ++ zs) (ys ++ zs) (n + zs.length) := by
  induction zs generalizing xs ys n with
  | nil => simpa using h
  | cons z zs ih =>
    have := ih (h.concat_same z)
    rw [List.append_assoc, List.append_assoc, Nat.add_right_comm] at this
    exact this

theorem concat_ne {x y : α} {m : Nat} (hne : x ≠ y) (hm : LongestCommon xs (ys ++ [y]) m)
    (hn : LongestCommon (xs ++ [x]) ys n) : LongestCommon (xs ++ [x]) (ys ++ [y]) (max m n) := by
  have hm' : LongestCommon xs.reverse (y :: ys.reverse) m := by simpa using hm.reverse
  have hn' : LongestCommon (x :: xs.reverse) ys.reverse n := by simpa using hn.reverse
  simpa using (cons_ne hne hm' hn').reverse

/-- Lists that are cut have in common what the parts have, if no other cut gives more. -/
theorem append {us vs : List α} {m : Nat} (hm : LongestCommon xs us m) (hn : LongestCommon ys vs n)
    (hle : ∀ k, ∃ i j, LongestCommon xs ((us ++ vs).take k) i ∧
      LongestCommon ys ((us ++ vs).drop k) j ∧ i + j ≤ m + n) :
    LongestCommon (xs ++ ys) (us ++ vs) (m + n) := by
  obtain ⟨s, hsxs, hsus, rfl⟩ := hm.1
  obtain ⟨t, htys, htvs, rfl⟩ := hn.1
  refine intro (hsxs.append htys) (hsus.append htvs) List.length_append fun r hr hr' => ?_
  obtain ⟨p, q, rfl, hp, hq⟩ := List.sublist_append_iff.mp hr
  obtain ⟨a, b, hab, hpa, hqb⟩ := List.append_sublist_iff.mp hr'
  -- the second list is cut where the first part of `r` ends in it
  obtain ⟨i, j, hi, hj, hij⟩ := hle a.length
  rw [hab, List.take_left] at hi
  rw [hab, List.drop_left] at hj
  have := hi.le hp hpa
  have := hj.le hq hqb
  rw [List.length_append]
  omega

end LongestCommon

namespace Script

/-! ## Rows -/

/-- A row of the table for `xs`: the entries for what is done of a list and for each way to go on
with what is to do. -/
inductive Row (xs : List α) : (done todo : List α) → List Nat → Prop
  | last {done n} : LongestCommon xs done n → Row xs done [] [n]
  | step {done y ys n row} :
    LongestCommon xs done n → Row xs (done ++ [y]) ys row → Row xs done (y :: ys) (n :: row)

namespace Row

variable {done todo : List α} {row : List Nat}

theorem length (h : Row xs done todo row) : row.length = todo.length + 1 := by
  induction h with
  | last => rfl
  | step _ _ ih => rw [List.length_cons, ih, List.length_cons]

theorem entry (h : Row xs done todo row) {j : Nat} (hj : row[j]? = some n) :
    LongestCommon xs (done ++ todo.take j) n := by
  induction h generalizing j with
  | last hn =>
    cases j with
    | zero =>
      obtain rfl := Option.some.inj hj
      simpa using hn
    | succ j => simp at hj
  | @step done y ys _ _ hn _ ih =>
    cases j with
    | zero =>
      obtain rfl := Option.some.inj hj
      simpa using hn
    | succ j =>
      have := ih hj
      rwa [List.append_assoc] at this

theorem zeros (done todo : List α) : Row [] done todo (List.replicate (todo.length + 1) 0) := by
  induction todo generalizing done with
  | nil => exact .last (.nil_left done)
  | cons y ys ih => exact .step (.nil_left done) (ih (done ++ [y]))

variable [DecidableEq α]

/-- The next row is found from the one before it, entry by entry. -/
theorem next (x : α) (h : Row xs done todo row) {left : Nat}
    (hleft : LongestCommon (xs ++ [x]) done left) :
    Row (xs ++ [x]) done todo (left :: nextEntries x left todo row) := by
  induction h generalizing left with
  | last => exact .last hleft
  | @step done y ys corner row hcorner hrow ih =>
    obtain ⟨above, more, rfl, habove⟩ :
        ∃ above more, row = above :: more ∧ LongestCommon xs (done ++ [y]) above := by
      cases hrow with
      | last h => exact ⟨_, _, rfl, h⟩
      | step h => exact ⟨_, _, rfl, h⟩
    rw [nextEntries]
    refine .step hleft (ih ?_)
    split
    · next hxy =>
      subst hxy
      exact hcorner.concat_same x
    · next hxy => exact .concat_ne hxy habove hleft

end Row

variable [DecidableEq α]

theorem row_foldl (xs done ys : List α) {row : List Nat} (h : Row done [] ys row) :
    Row (done ++ xs) [] ys (xs.foldl (fun row x => 0 :: nextEntries x 0 ys row) row) := by
  induction xs generalizing done row with
  | nil => simpa using h
  | cons x xs ih =>
    have := ih (done ++ [x]) (h.next x (.nil_right _))
    rwa [List.append_assoc] at this

theorem row_commonLengths (xs ys : List α) : Row xs [] ys (commonLengths xs ys) :=
  row_foldl xs [] ys (Row.zeros [] ys)

theorem length_commonLengths (xs ys : List α) : (commonLengths xs ys).length = ys.length + 1 :=
  (row_commonLengths xs ys).length

/-- The entries of the last row are for the initial parts. -/
theorem longestCommon_take {j : Nat} (h : (commonLengths xs ys)[j]? = some n) :
    LongestCommon xs (ys.take j) n :=
  (row_commonLengths xs ys).entry h

/-- Going over reversed lists gives the entries for the final parts. -/
theorem longestCommon_drop {j : Nat} (hj : j ≤ ys.length)
    (h : (commonLengths xs.reverse ys.reverse).reverse[j]? = some n) :
    LongestCommon xs (ys.drop j) n := by
  have hlength : (commonLengths xs.reverse ys.reverse).length = ys.length + 1 := by
    rw [length_commonLengths, List.length_reverse]
  rw [List.getElem?_reverse (by omega), hlength, Nat.add_sub_cancel] at h
  have hentry := (longestCommon_take h).reverse
  rwa [List.reverse_reverse, List.take_reverse, List.reverse_reverse,
    Nat.sub_sub_self hj] at hentry

/-! ## Crossings -/

/-- What two parts of a list have in common with the two parts of `new` on either side of each
cut. -/
def totals (oldHead oldTail new : List α) : List Nat :=
  List.zipWith (· + ·) (commonLengths oldHead new)
    (commonLengths oldTail.reverse new.reverse).reverse

section
variable {oldHead oldTail new : List α}

theorem length_totals (oldHead oldTail new : List α) :
    (totals oldHead oldTail new).length = new.length + 1 := by
  simp [totals, length_commonLengths]

/-- A total is what the parts on both sides of a cut have in common. -/
theorem exists_of_getElem?_totals {j total : Nat}
    (h : (totals oldHead oldTail new)[j]? = some total) :
    ∃ m n, LongestCommon oldHead (new.take j) m ∧ LongestCommon oldTail (new.drop j) n ∧
      m + n = total := by
  obtain ⟨hj, -⟩ := List.getElem?_eq_some_iff.mp h
  rw [length_totals] at hj
  obtain ⟨m, n, hm, hn, hsum⟩ := List.getElem?_zipWith_eq_some.mp h
  exact ⟨m, n, longestCommon_take hm, longestCommon_drop (by omega) hn, hsum⟩

/-- The greatest of some numbers, of which there is one, is one of them. -/
theorem foldl_max_mem {ns : List Nat} (hne : ns ≠ []) :
    ns.foldl max 0 ∈ ns ∧ ∀ n ∈ ns, n ≤ ns.foldl max 0 := by
  obtain ⟨top, htop⟩ := Option.ne_none_iff_exists'.mp (mt List.max?_eq_none_iff.mp hne)
  have hfold : ns.foldl max 0 = top := by
    rw [List.foldl_max, htop, Option.getD_some, Nat.zero_max]
  rw [hfold]
  exact List.max?_eq_some_iff.mp htop

/-- The crossing is a cut with the greatest total. -/
theorem getElem?_crossing (oldHead oldTail new : List α) :
    ∃ top, (totals oldHead oldTail new)[crossing oldHead oldTail new]? = some top ∧
      ∀ total ∈ totals oldHead oldTail new, total ≤ top := by
  have hne : totals oldHead oldTail new ≠ [] := by
    intro h
    have := length_totals oldHead oldTail new
    rw [h] at this
    contradiction
  obtain ⟨hmem, hle⟩ := foldl_max_mem hne
  have hlt := List.idxOf_lt_length_iff.mpr hmem
  exact ⟨_, List.getElem?_eq_some_iff.mpr ⟨hlt, List.getElem_idxOf hlt⟩, hle⟩

/-- The crossing is the first of the cuts with its total. -/
theorem crossing_le {j top total : Nat}
    (htop : (totals oldHead oldTail new)[crossing oldHead oldTail new]? = some top)
    (htotal : (totals oldHead oldTail new)[j]? = some total) (hle : top ≤ total) :
    crossing oldHead oldTail new ≤ j := by
  obtain ⟨hlt, hget⟩ := List.getElem?_eq_some_iff.mp htop
  have hgreatest : top = (totals oldHead oldTail new).foldl max 0 :=
    hget.symm.trans (List.getElem_idxOf hlt)
  have hmem := List.mem_of_getElem? htotal
  have htotal_le := (foldl_max_mem (List.ne_nil_of_mem hmem)).2 total hmem
  rw [← hgreatest] at htotal_le
  by_contra hbefore
  obtain ⟨hj, rfl⟩ := List.getElem?_eq_some_iff.mp htotal
  have hother : ((totals oldHead oldTail new)[j] == (totals oldHead oldTail new).foldl max 0) =
      false :=
    List.not_of_lt_findIdx (Nat.lt_of_not_le hbefore)
  rw [← hgreatest, beq_eq_false_iff_ne] at hother
  exact hother (Nat.le_antisymm htotal_le hle)

/-- A cut before the crossing has less in common with the first part. -/
theorem crossing_le_of_longestCommon {cut j m : Nat} (hcut : crossing oldHead oldTail new = cut)
    (hj : j ≤ cut) (hm : LongestCommon oldHead (new.take cut) m)
    (hm' : LongestCommon oldHead (new.take j) m) : cut ≤ j := by
  obtain ⟨top, htop, -⟩ := getElem?_crossing oldHead oldTail new
  rw [hcut] at htop
  obtain ⟨hlt, -⟩ := List.getElem?_eq_some_iff.mp htop
  have hget := List.getElem?_eq_getElem (Nat.lt_of_le_of_lt hj hlt)
  obtain ⟨i, n, hi, hn, hsum⟩ := exists_of_getElem?_totals htop
  obtain ⟨i', n', hi', hn', hsum'⟩ := exists_of_getElem?_totals hget
  obtain rfl := hi.unique hm
  obtain rfl := hi'.unique hm'
  -- the second part loses nothing when more is added to it
  obtain ⟨common, hcommon, hcommon', rfl⟩ := hn.1
  have hle := hn'.le hcommon (hcommon'.trans (List.drop_sublist_drop_left new hj))
  rw [← hcut]
  exact crossing_le (hcut ▸ htop) hget (by omega)

/-- Cutting at the crossing loses nothing: what the parts have in common is all that the lists
have. -/
theorem longestCommon_crossing {cut m n : Nat} (hcut : crossing oldHead oldTail new = cut)
    (hm : LongestCommon oldHead (new.take cut) m) (hn : LongestCommon oldTail (new.drop cut) n) :
    LongestCommon (oldHead ++ oldTail) new (m + n) := by
  obtain ⟨top, htop, hle⟩ := getElem?_crossing oldHead oldTail new
  rw [hcut] at htop
  obtain ⟨m', n', hm', hn', hsum⟩ := exists_of_getElem?_totals htop
  obtain rfl := hm.unique hm'
  obtain rfl := hn.unique hn'
  have key := hm.append hn ?_
  · rwa [List.take_append_drop] at key
  · intro k
    rw [List.take_append_drop]
    -- a cut behind the end is one at the end
    have hk : min k new.length < (totals oldHead oldTail new).length := by
      rw [length_totals]
      omega
    obtain ⟨i, j, hi, hj, hij⟩ := exists_of_getElem?_totals (List.getElem?_eq_getElem hk)
    refine ⟨i, j, ?_, ?_, ?_⟩
    · rwa [← List.take_eq_take_min] at hi
    · rwa [← List.drop_eq_drop_min] at hj
    · rw [hij, hsum]
      exact hle _ (List.getElem_mem hk)

end

end Script

end FlowTidy
