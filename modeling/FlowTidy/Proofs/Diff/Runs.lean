import FlowTidy.Proofs.Diff.Script
import Mathlib.Data.List.Chain

/-!
The order of the changes in an edit script. Nothing is removed right after something was added, so a
run of changes is what it removes followed by what it adds. Putting two halves together keeps this
because the script for the first half does not end with an added line: without that line it would be
optimal for a shorter part of the new list (`Optimal.of_concat_added`), and the crossing is the
first of the best cuts.
-/

namespace FlowTidy.Script

variable {α : Type} {s t script : Script α} {old new : List α}

/-- A script in which no removed line stands right after an added one. -/
def RemovesFirst (script : Script α) : Prop :=
  script.IsChain fun d e => ¬ (d.tag = .add ∧ e.tag = .remove)

/-- Scripts can be put together unless the first one ends with an addition. -/
theorem RemovesFirst.append (hs : RemovesFirst s) (ht : RemovesFirst t)
    (hlast : ∀ e ∈ s.getLast?, e.tag ≠ .add) : RemovesFirst (s ++ t) :=
  List.IsChain.append hs ht fun d hd _ _ h => hlast d hd h.1

/-- Before a kept line any script may end. -/
theorem RemovesFirst.append_kept (hs : RemovesFirst s) (ht : RemovesFirst t)
    (hhead : ∀ e ∈ t.head?, e.tag = .keep) : RemovesFirst (s ++ t) :=
  List.IsChain.append hs ht fun _ _ e he h => by
    rw [hhead e he] at h
    exact Tag.noConfusion h.2

theorem removesFirst_map_mk (tag : Tag) (xs : List α) : RemovesFirst (xs.map (Edit.mk tag)) := by
  refine (List.isChain_map _).mpr (List.pairwise_of_forall fun _ _ h => ?_).isChain
  obtain ⟨hadd, hremove⟩ := h
  exact Tag.noConfusion (hadd.symm.trans hremove)

/-! ## Runs of changes -/

/-- A run of changes is what it removes followed by what it adds. -/
theorem RemovesFirst.eq_removed_append_added (h : RemovesFirst script)
    (hchange : ∀ e ∈ script, e.tag ≠ .keep) :
    ∃ gone fresh : List α, script = removed gone ++ added fresh := by
  induction script with
  | nil => exact ⟨[], [], rfl⟩
  | cons e script ih =>
    obtain ⟨hhead, hrest⟩ := List.isChain_cons.mp h
    obtain ⟨hfirst, hmore⟩ := List.forall_mem_cons.mp hchange
    obtain ⟨gone, fresh, rfl⟩ := ih hrest hmore
    obtain ⟨tag, line⟩ := e
    cases tag with
    | keep => exact absurd rfl hfirst
    | remove => exact ⟨line :: gone, fresh, rfl⟩
    | add =>
      -- nothing can be removed after this line
      cases gone with
      | nil => exact ⟨[], line :: fresh, rfl⟩
      | cons x gone => exact absurd ⟨rfl, rfl⟩ (hhead ⟨.remove, x⟩ rfl)

/-! ## Halves -/

/-- An optimal script that ends with an added line is optimal without it. -/
theorem Optimal.of_concat_added {y : α} (h : Optimal (s ++ [⟨.add, y⟩]) old new) :
    ∃ new', new = new' ++ [y] ∧ Optimal s old new' := by
  have hnew : s.linesOf Tag.inNew ++ [y] = new := by simpa [Tag.inNew] using h.newLines
  have hold : s.linesOf Tag.inOld = old := by simpa [Tag.inOld] using h.oldLines
  have hkept : LongestCommon old new (s.linesOf Tag.isKept).length := by
    simpa [Tag.isKept] using h.kept
  refine ⟨s.linesOf Tag.inNew, hnew.symm, hold, rfl, ?_⟩
  refine .intro (hold ▸ linesOf_isKept_sublist rfl s) (linesOf_isKept_sublist rfl s) rfl ?_
  intro common hcommon hcommon'
  exact hkept.le hcommon (hnew ▸ hcommon'.trans (List.sublist_append_left _ _))

variable [DecidableEq α]

/-- The script for what is before the crossing does not end with an added line. -/
theorem tag_getLast?_of_crossing {oldHead oldTail : List α} {cut : Nat}
    (hcut : crossing oldHead oldTail new = cut) (h : Optimal script oldHead (new.take cut)) :
    ∀ e ∈ script.getLast?, e.tag ≠ .add := by
  rintro ⟨tag, y⟩ he rfl
  obtain ⟨s, rfl⟩ := List.getLast?_eq_some_iff.mp he
  obtain ⟨new', hnew, hs⟩ := h.of_concat_added
  have hprefix : new' <+: new := List.IsPrefix.trans ⟨[y], hnew.symm⟩ (List.take_prefix cut new)
  have hlength : new'.length < cut := by
    have := congrArg List.length hnew
    simp only [List.length_take, List.length_append, List.length_singleton] at this
    omega
  have hkept : LongestCommon oldHead (new.take cut) (linesOf Tag.isKept s).length := by
    simpa [Tag.isKept] using h.kept
  rw [List.prefix_iff_eq_take.mp hprefix] at hs
  have hle := crossing_le_of_longestCommon hcut (Nat.le_of_lt hlength) hkept hs.kept
  exact Nat.not_le_of_lt hlength hle

theorem removesFirst_alignOne (only : α) (new : List α) : RemovesFirst (alignOne only new) := by
  rw [alignOne]
  split
  · exact (removesFirst_map_mk .remove [only]).append (removesFirst_map_mk .add new) (by simp)
  · next after _ =>
    rw [List.append_assoc]
    refine (removesFirst_map_mk .add _).append_kept ?_ (by simp [kept])
    exact (removesFirst_map_mk .keep [only]).append (removesFirst_map_mk .add after) (by simp)

/-- Aligning two lists removes before it adds, in every run of changes. -/
theorem removesFirst_align (old new : List α) : RemovesFirst (align old new) := by
  fun_induction align old new with
  | case1 new => exact removesFirst_map_mk .add new
  | case2 new only => exact removesFirst_alignOne only new
  | case3 new first second more old middle cut hhead htail =>
    exact hhead.append htail (tag_getLast?_of_crossing rfl (optimal_align _ _))

theorem removesFirst_between (old new : List α) : RemovesFirst (between old new) := by
  have hbefore : ∀ old new : List α, RemovesFirst (beforeEnd old new) := fun old new =>
    (removesFirst_align _ _).append_kept (removesFirst_map_mk .keep _) (by simp [kept])
  fun_induction between old new with
  | case1 xs y ys ih => exact (removesFirst_map_mk .keep [y]).append ih (by simp)
  | case2 x xs y ys => exact hbefore (x :: xs) (y :: ys)
  | case3 old new => exact hbefore old new

/-- In the script for two lists no removed line stands right after an added one, and every run of
changes is what it removes followed by what it adds. -/
theorem between_removes_first (old new : List α) :
    ((between old new).IsChain fun d e => ¬ (d.tag = .add ∧ e.tag = .remove)) ∧
    ∀ before run after : Script α, between old new = before ++ (run ++ after) →
      (∀ e ∈ run, e.tag ≠ .keep) → ∃ gone fresh : List α, run = removed gone ++ added fresh := by
  have h : RemovesFirst (between old new) := removesFirst_between old new
  refine ⟨h, fun before run after hsplit hchange => ?_⟩
  have hrun : RemovesFirst run :=
    List.IsChain.infix h ⟨before, after, by rw [hsplit, List.append_assoc]⟩
  exact hrun.eq_removed_append_added hchange

end FlowTidy.Script
