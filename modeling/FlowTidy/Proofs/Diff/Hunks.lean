import FlowTidy.Diff.Unified
import FlowTidy.Proofs.Diff.Script
import Mathlib.Data.List.Pairwise

/-!
The hunks of a script. The changes of a script are cut into groups that are far from each other, and
every place close to a group is close to a change in it (`IsGroup`). So the places around a hunk are
kept lines, and a kept line in a hunk stands near a change. The lines of a script before a place are
counted on either side, which gives the ranges of a hunk.
-/

namespace FlowTidy.Script

/-! ## Groups of changes -/

/-- A group of changes: it starts and ends with changes, and whatever is at most three places away
from it is so from one of them. -/
structure IsGroup (changes : List Nat) (group : Nat × Nat) : Prop where
  first_mem : group.1 ∈ changes
  last_mem : group.2 ∈ changes
  first_le_last : group.1 ≤ group.2
  near : ∀ i, group.1 ≤ i + 3 → i ≤ group.2 + 3 →
    ∃ c ∈ changes, group.1 ≤ c ∧ c ≤ group.2 ∧ c ≤ i + 3 ∧ i ≤ c + 3

theorem IsGroup.cons {changes : List Nat} {group : Nat × Nat} (c : Nat)
    (h : IsGroup changes group) : IsGroup (c :: changes) group where
  first_mem := List.mem_cons_of_mem c h.first_mem
  last_mem := List.mem_cons_of_mem c h.last_mem
  first_le_last := h.first_le_last
  near := fun i hfirst hlast => by
    obtain ⟨d, hd, hnear⟩ := h.near i hfirst hlast
    exact ⟨d, List.mem_cons_of_mem c hd, hnear⟩

/-- A single change is a group. -/
theorem isGroup_single {changes : List Nat} {c : Nat} (h : c ∈ changes) : IsGroup changes (c, c) :=
  ⟨h, h, Nat.le_refl c, fun _ hfirst hlast => ⟨c, h, Nat.le_refl c, Nat.le_refl c, hfirst, hlast⟩⟩

/-- A change shortly before a group joins it. -/
theorem IsGroup.join {changes : List Nat} {c first last : Nat} (h : IsGroup changes (first, last))
    (hc : c ≤ first) (hnear : first ≤ c + 7) : IsGroup (c :: changes) (c, last) where
  first_mem := List.mem_cons_self
  last_mem := List.mem_cons_of_mem c h.last_mem
  first_le_last := Nat.le_trans hc h.first_le_last
  near := fun i hi hlast => by
    by_cases hfirst : first ≤ i + 3
    · obtain ⟨d, hd, hle, hge, hdi, hid⟩ := h.near i hfirst hlast
      exact ⟨d, List.mem_cons_of_mem c hd, Nat.le_trans hc hle, hge, hdi, hid⟩
    · have hlast : first ≤ last := h.first_le_last
      exact ⟨c, List.mem_cons_self, Nat.le_refl c, Nat.le_trans hc hlast, hi, by omega⟩

/-- The groups of some changes: each change is in one of them, and they are far from each other. -/
structure Grouped (changes : List Nat) (groups : List (Nat × Nat)) : Prop where
  isGroup : ∀ group ∈ groups, IsGroup changes group
  covers : ∀ c ∈ changes, ∃ group ∈ groups, group.1 ≤ c ∧ c ≤ group.2
  apart : groups.Pairwise fun g h => g.2 + 7 < h.1

theorem head?_groups (changes : List Nat) :
    (groups changes).head?.map Prod.fst = changes.head? := by
  cases changes with
  | nil => rfl
  | cons c changes =>
    rw [groups]
    split
    · rfl
    · split <;> rfl

theorem grouped_single (c : Nat) : Grouped [c] [(c, c)] where
  isGroup := List.forall_mem_singleton.mpr (isGroup_single List.mem_cons_self)
  covers := List.forall_mem_singleton.mpr ⟨_, List.mem_cons_self, Nat.le_refl c, Nat.le_refl c⟩
  apart := List.pairwise_singleton _ _

namespace Grouped

variable {changes : List Nat} {c first last : Nat} {more : List (Nat × Nat)}

/-- A change far before the groups is a group of its own. -/
theorem cons_far (h : Grouped changes ((first, last) :: more)) (hfar : c + 7 < first) :
    Grouped (c :: changes) ((c, c) :: (first, last) :: more) where
  isGroup := List.forall_mem_cons.mpr ⟨isGroup_single List.mem_cons_self,
    fun group hgroup => (h.isGroup group hgroup).cons c⟩
  covers := by
    refine List.forall_mem_cons.mpr ⟨⟨_, List.mem_cons_self, Nat.le_refl c, Nat.le_refl c⟩, ?_⟩
    intro d hd
    obtain ⟨group, hgroup, hin⟩ := h.covers d hd
    exact ⟨group, List.mem_cons_of_mem _ hgroup, hin⟩
  apart := by
    have hle : first ≤ last := (h.isGroup _ List.mem_cons_self).first_le_last
    refine List.pairwise_cons.mpr ⟨List.forall_mem_cons.mpr ⟨hfar, fun group hgroup => ?_⟩, h.apart⟩
    have hnext : last + 7 < group.1 := (List.pairwise_cons.mp h.apart).1 group hgroup
    change c + 7 < group.1
    omega

/-- A change shortly before the groups joins the first of them. -/
theorem cons_near (h : Grouped changes ((first, last) :: more)) (hc : ∀ d ∈ changes, c < d)
    (hnear : first ≤ c + 7) : Grouped (c :: changes) ((c, last) :: more) := by
  have hfirst : IsGroup changes (first, last) := h.isGroup _ List.mem_cons_self
  have hle : c ≤ first := Nat.le_of_lt (hc first hfirst.first_mem)
  refine ⟨?_, ?_, ?_⟩
  · refine List.forall_mem_cons.mpr ⟨hfirst.join hle hnear, fun group hgroup => ?_⟩
    exact (h.isGroup group (List.mem_cons_of_mem _ hgroup)).cons c
  · have hlast : c ≤ last := Nat.le_trans hle hfirst.first_le_last
    refine List.forall_mem_cons.mpr ⟨⟨_, List.mem_cons_self, Nat.le_refl c, hlast⟩, fun d hd => ?_⟩
    obtain ⟨group, hgroup, hin⟩ := h.covers d hd
    rcases List.mem_cons.mp hgroup with rfl | hgroup
    · exact ⟨_, List.mem_cons_self, Nat.le_of_lt (hc d hd), hin.2⟩
    · exact ⟨group, List.mem_cons_of_mem _ hgroup, hin⟩
  · obtain ⟨hnext, hmore⟩ := List.pairwise_cons.mp h.apart
    exact List.pairwise_cons.mpr ⟨hnext, hmore⟩

end Grouped

/-- The groups that increasing changes are cut into are their groups. -/
theorem grouped_groups {changes : List Nat} (h : changes.Pairwise (· < ·)) :
    Grouped changes (groups changes) := by
  induction changes with
  | nil => exact ⟨nofun, nofun, .nil⟩
  | cons c changes ih =>
    obtain ⟨hc, hrest⟩ := List.pairwise_cons.mp h
    have hgrouped := ih hrest
    have hhead := head?_groups changes
    rw [groups]
    split
    · next hnil =>
      rw [hnil] at hhead
      obtain rfl : changes = [] := List.head?_eq_none_iff.mp hhead.symm
      exact grouped_single c
    · next first last more hcons =>
      rw [hcons] at hgrouped
      split
      · next hfar =>
        refine hgrouped.cons_far ?_
        rw [contextLines] at hfar
        omega
      · next hnear =>
        refine hgrouped.cons_near hc ?_
        rw [contextLines] at hnear
        omega

/-- A change close to a group is in it. -/
theorem Grouped.mem_of_close {changes : List Nat} {groups : List (Nat × Nat)}
    (h : Grouped changes groups) {group : Nat × Nat} (hgroup : group ∈ groups) {c : Nat}
    (hc : c ∈ changes) (hfirst : group.1 ≤ c + 7) (hlast : c ≤ group.2 + 7) :
    group.1 ≤ c ∧ c ≤ group.2 := by
  obtain ⟨other, hother, hle, hge⟩ := h.covers c hc
  by_cases heq : group = other
  · exact heq ▸ ⟨hle, hge⟩
  · have hapart : groups.Pairwise fun g h => g.2 + 7 < h.1 ∨ h.2 + 7 < g.1 :=
      h.apart.imp fun hlt => .inl hlt
    have : Std.Symm fun g h : Nat × Nat => g.2 + 7 < h.1 ∨ h.2 + 7 < g.1 := ⟨fun _ _ h => h.symm⟩
    rcases hapart.forall hgroup hother heq with hlt | hlt <;> omega

/-! ## Parts of a script -/

section
variable {α : Type} {script : Script α} {i j : Nat}

/-- The part of a script from one place up to another. -/
def part (script : Script α) (i j : Nat) : Script α := (script.take j).drop i

theorem take_append_part (h : i ≤ j) : script.take i ++ script.part i j = script.take j := by
  have hsplit := List.take_append_drop i (script.take j)
  rwa [List.take_take, Nat.min_eq_left h] at hsplit

theorem part_append_drop (h : i ≤ j) : script.part i j ++ script.drop j = script.drop i := by
  have hsplit := List.take_append_drop (j - i) (script.drop i)
  rwa [List.drop_drop, Nat.add_sub_cancel' h, ← List.drop_take] at hsplit

theorem getElem?_part (k : Nat) :
    (script.part i j)[k]? = if i + k < j then script[i + k]? else none := by
  rw [part, List.getElem?_drop, List.getElem?_take]

/-- The number of lines before a place that the side with tags `p` has. -/
def linesBefore (p : Tag → Bool) (script : Script α) (i : Nat) : Nat :=
  (linesOf p (script.take i)).length

theorem linesBefore_zero (p : Tag → Bool) (script : Script α) : script.linesBefore p 0 = 0 := rfl

/-- Lines before a place are those before an earlier one and those between. -/
theorem linesBefore_add (p : Tag → Bool) (h : i ≤ j) :
    script.linesBefore p i + ((script.part i j).linesOf p).length = script.linesBefore p j := by
  rw [linesBefore, ← List.length_append, ← linesOf_append, take_append_part h, linesBefore]

theorem linesOf_of_kept {p : Tag → Bool} (hp : p .keep = true)
    (h : ∀ e ∈ script, e.tag = .keep) : script.linesOf p = script.map Edit.line := by
  induction script with
  | nil => rfl
  | cons e script ih =>
    rw [List.forall_mem_cons] at h
    rw [linesOf_cons, h.1, if_pos hp, ih h.2, List.map_cons]

end

/-! ## Changes -/

variable {script : Script Text}

/-- The changes of a script are the places of lines that are not kept. -/
theorem mem_changes_iff {i : Nat} :
    i ∈ script.changes ↔ ∃ e, script[i]? = some e ∧ e.tag ≠ .keep := by
  rw [changes, List.mem_map]
  constructor
  · rintro ⟨⟨e, j⟩, hmem, rfl⟩
    obtain ⟨he, htag⟩ := List.mem_filter.mp hmem
    exact ⟨e, List.mem_zipIdx_iff_getElem?.mp he, by simpa using htag⟩
  · rintro ⟨e, he, htag⟩
    exact ⟨(e, i), List.mem_filter.mpr ⟨List.mem_zipIdx_iff_getElem?.mpr he, by simpa using htag⟩,
      rfl⟩

theorem pairwise_changes (script : Script Text) : script.changes.Pairwise (· < ·) := by
  have hpositions : (script.zipIdx.map Prod.snd).Pairwise (· < ·) := by
    rw [List.zipIdx_map_snd]
    exact List.pairwise_lt_range'
  exact hpositions.sublist (List.filter_sublist.map Prod.snd)

theorem grouped_changes (script : Script Text) : Grouped script.changes (groups script.changes) :=
  grouped_groups (pairwise_changes script)

theorem kept_of_not_mem_changes {i : Nat} {e : Edit Text} (h : i ∉ script.changes)
    (he : script[i]? = some e) : e.tag = .keep := by
  by_contra htag
  exact h (mem_changes_iff.mpr ⟨e, he, htag⟩)

theorem kept_of_mem_part {i j : Nat} (h : ∀ c ∈ script.changes, i ≤ c → j ≤ c) :
    ∀ e ∈ script.part i j, e.tag = .keep := by
  intro e he
  obtain ⟨k, hk⟩ := List.mem_iff_getElem?.mp he
  rw [getElem?_part] at hk
  split at hk
  · next hlt =>
    refine kept_of_not_mem_changes (fun hmem => ?_) hk
    have := h _ hmem (Nat.le_add_right i k)
    omega
  · contradiction

theorem kept_of_mem_drop {i : Nat} (h : ∀ c ∈ script.changes, c < i) :
    ∀ e ∈ script.drop i, e.tag = .keep := by
  intro e he
  obtain ⟨k, hk⟩ := List.mem_iff_getElem?.mp he
  rw [List.getElem?_drop] at hk
  refine kept_of_not_mem_changes (fun hmem => ?_) hk
  have := h _ hmem
  omega

/-! ## Hunks -/

/-- The places where the hunk of a group starts and ends. -/
def hunkStart (group : Nat × Nat) : Nat := group.1 - 3

def hunkStop (group : Nat × Nat) : Nat := group.2 + 4

theorem edits_hunk (script : Script Text) (group : Nat × Nat) :
    (script.hunk group).edits = script.part (hunkStart group) (hunkStop group) := rfl

theorem oldStart_hunk (script : Script Text) (group : Nat × Nat) :
    (script.hunk group).oldStart = script.linesBefore Tag.inOld (hunkStart group) :=
  (length_linesOf _).symm

theorem newStart_hunk (script : Script Text) (group : Nat × Nat) :
    (script.hunk group).newStart = script.linesBefore Tag.inNew (hunkStart group) :=
  (length_linesOf _).symm

theorem mem_of_mem_hunk {hunk : Hunk} (h : hunk ∈ script.hunks) {e : Edit Text}
    (he : e ∈ hunk.edits) : e ∈ script := by
  obtain ⟨group, -, rfl⟩ := List.mem_map.mp h
  exact List.mem_of_mem_take (List.mem_of_mem_drop he)

/-- Every change is in a hunk. -/
theorem exists_hunk_of_mem {e : Edit Text} (he : e ∈ script) (htag : e.tag ≠ .keep) :
    ∃ hunk ∈ script.hunks, e ∈ hunk.edits := by
  obtain ⟨i, hi⟩ := List.mem_iff_getElem?.mp he
  obtain ⟨group, hgroup, hfirst, hlast⟩ :=
    (grouped_changes script).covers i (mem_changes_iff.mpr ⟨e, hi, htag⟩)
  refine ⟨script.hunk group, List.mem_map_of_mem hgroup,
    List.mem_iff_getElem?.mpr ⟨i - hunkStart group, ?_⟩⟩
  rw [edits_hunk, getElem?_part, hunkStart, hunkStop, Nat.add_sub_cancel' (by omega),
    if_pos (by omega), hi]

/-- Every kept line of a hunk is at most three lines away from a change in it. -/
theorem near_change_of_kept {group : Nat × Nat} (hgroup : group ∈ groups script.changes) {i : Nat}
    {e : Edit Text} (he : (script.hunk group).edits[i]? = some e) :
    ∃ j f, (script.hunk group).edits[j]? = some f ∧ f.tag ≠ .keep ∧ j ≤ i + 3 ∧ i ≤ j + 3 := by
  have h : IsGroup script.changes group := (grouped_changes script).isGroup group hgroup
  rw [edits_hunk, getElem?_part] at he
  split at he
  · next hlt =>
    rw [hunkStart, hunkStop] at hlt
    obtain ⟨c, hc, hfirst, hlast, hci, hic⟩ := h.near (group.1 - 3 + i) (by omega) (by omega)
    obtain ⟨f, hf, htag⟩ := mem_changes_iff.mp hc
    refine ⟨c - hunkStart group, f, ?_, htag, ?_, ?_⟩
    · rw [edits_hunk, getElem?_part, hunkStart, hunkStop, Nat.add_sub_cancel' (by omega),
        if_pos (by omega), hf]
    · rw [hunkStart]
      omega
    · rw [hunkStart]
      omega
  · contradiction

end FlowTidy.Script
