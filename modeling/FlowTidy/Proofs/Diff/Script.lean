import FlowTidy.Proofs.Diff.Common
import Mathlib.Data.List.Basic
import Mathlib.Data.List.TakeWhile

/-!
Edit scripts are complete and as short as can be. A script is optimal if the lines that it has of
either list are that list, and the number of lines that it keeps is the length of a longest common
subsequence. Each way in which scripts are put together makes an optimal script from optimal ones.
-/

namespace FlowTidy

/-- Whether a member with this tag is kept. -/
def Tag.isKept : Tag → Bool
  | .keep => true
  | .remove | .add => false

namespace Script

variable {α : Type}

/-- The lines of a script whose tags satisfy `p`. -/
def linesOf (p : Tag → Bool) (script : Script α) : List α :=
  (script.filter fun e => p e.tag).map Edit.line

/-- The number of lines of a script that are not kept. -/
def changeCount (script : Script α) : Nat := (script.filter fun e => !e.tag.isKept).length

section
variable {p : Tag → Bool}

@[simp] theorem linesOf_nil : linesOf p ([] : Script α) = [] := rfl

@[simp] theorem linesOf_cons (e : Edit α) (script : Script α) :
    linesOf p (e :: script) = if p e.tag then e.line :: linesOf p script else linesOf p script := by
  simp only [linesOf, List.filter_cons]
  split <;> rfl

@[simp] theorem linesOf_append (s t : Script α) :
    linesOf p (s ++ t) = linesOf p s ++ linesOf p t := by
  simp [linesOf]

theorem linesOf_map_mk (tag : Tag) (xs : List α) :
    linesOf p (xs.map (Edit.mk tag)) = if p tag then xs else [] := by
  induction xs with
  | nil => simp
  | cons x xs ih =>
    rw [List.map_cons, linesOf_cons, ih]
    split <;> rfl

@[simp] theorem linesOf_kept (xs : List α) : linesOf p (kept xs) = if p .keep then xs else [] :=
  linesOf_map_mk .keep xs

@[simp] theorem linesOf_removed (xs : List α) :
    linesOf p (removed xs) = if p .remove then xs else [] :=
  linesOf_map_mk .remove xs

@[simp] theorem linesOf_added (xs : List α) : linesOf p (added xs) = if p .add then xs else [] :=
  linesOf_map_mk .add xs

theorem length_linesOf (script : Script α) :
    (script.linesOf p).length = script.countP fun e => p e.tag := by
  rw [linesOf, List.length_map, List.countP_eq_length_filter]

theorem line_mem_linesOf {script : Script α} {e : Edit α} (he : e ∈ script) (hp : p e.tag = true) :
    e.line ∈ script.linesOf p :=
  List.mem_map_of_mem (List.mem_filter.mpr ⟨he, hp⟩)

end

/-- What a script keeps is in both lists. -/
theorem linesOf_isKept_sublist {p : Tag → Bool} (hp : p .keep = true) (script : Script α) :
    (script.linesOf Tag.isKept).Sublist (script.linesOf p) := by
  refine List.Sublist.map _ (List.monotone_filter_right script fun e he => ?_)
  obtain ⟨tag, x⟩ := e
  cases tag with
  | keep => exact hp
  | remove | add => contradiction

/-- A kept line counts for both lists, and any other for one of them. -/
theorem length_sides (script : Script α) :
    (script.linesOf Tag.inOld).length + (script.linesOf Tag.inNew).length =
      2 * (script.linesOf Tag.isKept).length + script.changeCount := by
  induction script with
  | nil => rfl
  | cons e script ih =>
    obtain ⟨tag, x⟩ := e
    cases tag <;> simp [Tag.inOld, Tag.inNew, Tag.isKept, changeCount] at ih ⊢ <;> omega

/-! ## Optimal scripts -/

/-- A script for two lists that keeps as many lines as any can. -/
structure Optimal (script : Script α) (old new : List α) : Prop where
  oldLines : script.linesOf Tag.inOld = old
  newLines : script.linesOf Tag.inNew = new
  kept : LongestCommon old new (script.linesOf Tag.isKept).length

namespace Optimal

variable {script : Script α} {old new : List α}

theorem cons_kept (x : α) (h : Optimal script old new) :
    Optimal (⟨.keep, x⟩ :: script) (x :: old) (x :: new) where
  oldLines := by simp [Tag.inOld, h.oldLines]
  newLines := by simp [Tag.inNew, h.newLines]
  kept := by simpa [Tag.isKept] using h.kept.cons_same x

theorem append_kept (xs : List α) (h : Optimal script old new) :
    Optimal (script ++ Script.kept xs) (old ++ xs) (new ++ xs) where
  oldLines := by simp [Tag.inOld, h.oldLines]
  newLines := by simp [Tag.inNew, h.newLines]
  kept := by simpa [Tag.isKept] using h.kept.append_same xs

theorem line_mem (h : Optimal script old new) {e : Edit α} (he : e ∈ script) :
    e.line ∈ old ∨ e.line ∈ new := by
  cases htag : e.tag with
  | keep | remove => exact .inl (h.oldLines ▸ line_mem_linesOf he (by rw [htag]; rfl))
  | add => exact .inr (h.newLines ▸ line_mem_linesOf he (by rw [htag]; rfl))

/-- No script for the same lists changes less. -/
theorem changeCount_le (h : Optimal script old new) {other : Script α}
    (hold : other.linesOf Tag.inOld = old) (hnew : other.linesOf Tag.inNew = new) :
    script.changeCount ≤ other.changeCount := by
  have hkept : (other.linesOf Tag.isKept).length ≤ (script.linesOf Tag.isKept).length :=
    h.kept.le (hold ▸ linesOf_isKept_sublist rfl other) (hnew ▸ linesOf_isKept_sublist rfl other)
  have hscript := length_sides script
  have hother := length_sides other
  rw [h.oldLines, h.newLines] at hscript
  rw [hold, hnew] at hother
  omega

end Optimal

theorem optimal_added (new : List α) : Optimal (added new) [] new where
  oldLines := by simp [Tag.inOld]
  newLines := by simp [Tag.inNew]
  kept := by simpa [Tag.isKept] using LongestCommon.nil_left new

variable [DecidableEq α]

theorem optimal_alignOne (only : α) (new : List α) : Optimal (alignOne only new) [only] new := by
  have hsplit : new = new.takeWhile (· ≠ only) ++ new.dropWhile (· ≠ only) :=
    List.takeWhile_append_dropWhile.symm
  rw [alignOne]
  split
  · next hnil =>
    have hmem : only ∉ new := fun hmem => by
      have := List.dropWhile_eq_nil_iff.mp hnil only hmem
      simp at this
    refine ⟨by simp [Tag.inOld], by simp [Tag.inNew], ?_⟩
    simp only [linesOf_append, linesOf_removed, linesOf_added, Tag.isKept]
    refine .intro (List.nil_sublist _) (List.nil_sublist _) rfl fun t htone htnew => ?_
    cases t with
    | nil => exact Nat.le_refl 0
    | cons x t =>
      have hx : x = only := List.mem_singleton.mp (htone.subset List.mem_cons_self)
      exact absurd (htnew.subset (hx ▸ List.mem_cons_self)) hmem
  · next x after hcons =>
    have hx : x = only := by
      have := List.head?_dropWhile_not (· ≠ only) new
      rw [hcons] at this
      simpa using this
    subst hx
    rw [hcons] at hsplit
    refine ⟨by simp [Tag.inOld], by simpa [Tag.inNew] using hsplit.symm, ?_⟩
    simp only [linesOf_append, linesOf_kept, linesOf_added, Tag.isKept]
    have hnew : [x].Sublist new := List.singleton_sublist.mpr (hsplit ▸ by simp)
    exact .intro (List.Sublist.refl _) hnew rfl fun t htone _ => htone.length_le

/-- Cutting at the crossing, and aligning the parts, gives an optimal script. -/
theorem optimal_align (old new : List α) : Optimal (align old new) old new := by
  fun_induction align old new with
  | case1 new => exact optimal_added new
  | case2 new only => exact optimal_alignOne only new
  | case3 new first second more old middle cut hhead htail =>
    -- the halves are optimal, and the crossing makes the whole so
    refine ⟨?_, ?_, ?_⟩
    · rw [linesOf_append, hhead.oldLines, htail.oldLines, List.take_append_drop]
    · rw [linesOf_append, hhead.newLines, htail.newLines, List.take_append_drop]
    · rw [linesOf_append, List.length_append]
      have := longestCommon_crossing rfl hhead.kept htail.kept
      rwa [List.take_append_drop] at this

/-! ## Common ends -/

theorem take_commonStart (xs ys : List α) :
    xs.take (commonStart xs ys) = ys.take (commonStart xs ys) := by
  fun_induction commonStart xs ys with
  | case1 x xs ys ih => rw [List.take_succ_cons, List.take_succ_cons, ih]
  | case2 => rfl
  | case3 => rfl

theorem optimal_beforeEnd (old new : List α) : Optimal (beforeEnd old new) old new := by
  have hcommon := congrArg List.reverse (take_commonStart old.reverse new.reverse)
  rw [List.take_reverse, List.take_reverse, List.reverse_reverse, List.reverse_reverse] at hcommon
  rw [beforeEnd]
  have h := (optimal_align (old.take (old.length - commonStart old.reverse new.reverse))
    (new.take (new.length - commonStart old.reverse new.reverse))).append_kept
      (old.drop (old.length - commonStart old.reverse new.reverse))
  rw [List.take_append_drop, hcommon, List.take_append_drop] at h
  rwa [hcommon]

/-- The script for two lists is optimal. -/
theorem optimal_between (old new : List α) : Optimal (between old new) old new := by
  fun_induction between old new with
  | case1 xs y ys ih => exact ih.cons_kept y
  | case2 x xs y ys => exact optimal_beforeEnd (x :: xs) (y :: ys)
  | case3 old new => exact optimal_beforeEnd old new

/-- The script for two lists is complete, keeps as many lines as the lists have in common, and
changes no more than any other. -/
theorem between_shortest (old new : List α) :
    (between old new).linesOf Tag.inOld = old ∧ (between old new).linesOf Tag.inNew = new ∧
    LongestCommon old new ((between old new).linesOf Tag.isKept).length ∧
    ∀ other : Script α, other.linesOf Tag.inOld = old → other.linesOf Tag.inNew = new →
      (between old new).changeCount ≤ other.changeCount := by
  have h : Optimal (between old new) old new := optimal_between old new
  exact ⟨h.oldLines, h.newLines, h.kept, fun other hold hnew => h.changeCount_le hold hnew⟩

end Script

end FlowTidy
