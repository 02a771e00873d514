import FlowTidy.Order
import Mathlib.Data.List.Lex
import Mathlib.Data.List.Nodup
import Mathlib.Data.List.Perm.Basic

/-!
Lists sorted by a key. Where the order of the keys is strict and total, sorting gives strictly
increasing keys (`pairwise_sortBy`), makes up no member (`mem_of_mem_sortBy`) and loses no key
(`mem_map_sortBy`). Members whose keys are all different are therefore only rearranged, into the one
order that is increasing (`sortBy_eq_of_perm`). Comparing lists member by member gives such an order
again (`lexBefore_iff`), so texts have one.
-/

namespace FlowTidy

/-! ## Increasing keys -/

section
variable {α κ : Type} (before : κ → κ → Bool) (key : α → κ)
  [IsStrictTotalOrder κ fun k l => before k l = true]

/-- Members in strictly increasing order have different keys. -/
theorem nodup_map_of_pairwise {as : List α}
    (h : as.Pairwise fun a b => before (key a) (key b) = true) : (as.map key).Nodup := by
  refine List.pairwise_map.mpr (h.imp fun {a b} hbefore heq => ?_)
  exact irrefl_of (fun k l => before k l = true) (key b) (heq ▸ hbefore)

/-- Two lists in strictly increasing order are the same if one rearranges the other. -/
theorem eq_of_perm_of_pairwise {as bs : List α} (h : as.Perm bs)
    (has : as.Pairwise fun a b => before (key a) (key b) = true)
    (hbs : bs.Pairwise fun a b => before (key a) (key b) = true) : as = bs := by
  refine h.eq_of_pairwise (fun a b _ _ hab hba => ?_) has hbs
  exact absurd hba (asymm_of (fun k l => before k l = true) hab)

end

/-! ## Sorting by a key -/

section
variable {α κ : Type} [DecidableEq κ] {before : κ → κ → Bool} {key : α → κ}

theorem mem_of_mem_insertBy {a b : α} {bs : List α} (h : b ∈ insertBy before key a bs) :
    b = a ∨ b ∈ bs := by
  induction bs with
  | nil => exact .inl (List.mem_singleton.mp h)
  | cons c bs ih =>
    rw [insertBy] at h
    split at h
    · exact .inr h
    · split at h
      · exact List.mem_cons.mp h
      · rcases List.mem_cons.mp h with rfl | h
        · exact .inr List.mem_cons_self
        · exact (ih h).imp_right (List.mem_cons_of_mem c)

theorem mem_map_insertBy {a : α} {bs : List α} {k : κ} :
    k ∈ (insertBy before key a bs).map key ↔ k = key a ∨ k ∈ bs.map key := by
  induction bs with
  | nil => simp [insertBy]
  | cons b bs ih =>
    rw [insertBy]
    split
    · next hsame => simp [hsame]
    · split
      · simp
      · rw [List.map_cons, List.mem_cons, ih, List.map_cons, List.mem_cons]
        exact or_left_comm

theorem mem_of_mem_sortBy {as : List α} : ∀ a ∈ sortBy before key as, a ∈ as := by
  rw [sortBy]
  refine List.foldlRecOn (motive := fun done => ∀ a ∈ done, a ∈ as) as _ (by simp)
    fun done hdone b hb a ha => ?_
  rcases mem_of_mem_insertBy ha with rfl | ha
  · exact hb
  · exact hdone a ha

variable (before key) in
/-- Sorting loses no key. -/
theorem mem_map_sortBy {as : List α} {k : κ} :
    k ∈ (sortBy before key as).map key ↔ k ∈ as.map key := by
  have hfold : ∀ done : List α,
      k ∈ (as.foldl (fun sorted a => insertBy before key a sorted) done).map key ↔
        k ∈ as.map key ∨ k ∈ done.map key := by
    induction as with
    | nil => simp
    | cons a as ih =>
      intro done
      rw [List.foldl_cons, ih, mem_map_insertBy, List.map_cons, List.mem_cons, or_assoc]
      exact or_left_comm
  rw [sortBy, hfold]
  simp

variable [IsStrictTotalOrder κ fun k l => before k l = true]

/-- Insertion keeps the keys in order. -/
theorem pairwise_insertBy (a : α) {bs : List α}
    (h : bs.Pairwise fun b c => before (key b) (key c) = true) :
    (insertBy before key a bs).Pairwise fun b c => before (key b) (key c) = true := by
  induction bs with
  | nil => exact List.pairwise_singleton _ a
  | cons b bs ih =>
    obtain ⟨hfirst, hrest⟩ := List.pairwise_cons.mp h
    rw [insertBy]
    split
    · exact h
    · next hne =>
      split
      · next hbefore =>
        refine List.pairwise_cons.mpr ⟨List.forall_mem_cons.mpr ⟨hbefore, fun c hc => ?_⟩, h⟩
        exact trans_of (fun k l => before k l = true) hbefore (hfirst c hc)
      · next hnot =>
        have hafter : before (key b) (key a) = true := by
          rcases trichotomous_of (fun k l => before k l = true) (key a) (key b) with h | h | h
          · contradiction
          · contradiction
          · exact h
        refine List.pairwise_cons.mpr ⟨fun c hc => ?_, ih hrest⟩
        rcases mem_of_mem_insertBy hc with rfl | hc
        · exact hafter
        · exact hfirst c hc

variable (before key) in
/-- Sorting puts members in strictly increasing order of their keys. -/
theorem pairwise_sortBy (as : List α) :
    (sortBy before key as).Pairwise fun a b => before (key a) (key b) = true := by
  rw [sortBy]
  exact List.foldlRecOn (motive := List.Pairwise fun a b => before (key a) (key b) = true) as _ .nil
    fun done hdone a _ => pairwise_insertBy a hdone

/-- Members with different keys are all kept. -/
theorem perm_sortBy {as : List α} (h : (as.map key).Nodup) : (sortBy before key as).Perm as := by
  have hnodup := (nodup_map_of_pairwise before key (pairwise_sortBy before key as)).of_map
  refine (List.perm_ext_iff_of_nodup hnodup h.of_map).mpr fun a =>
    ⟨mem_of_mem_sortBy a, fun ha => ?_⟩
  obtain ⟨b, hb, hkey⟩ := List.mem_map.mp ((mem_map_sortBy before key).mpr (List.mem_map_of_mem ha))
  rwa [← List.inj_on_of_nodup_map h (mem_of_mem_sortBy b hb) ha hkey]

/-- Members in any order are sorted into the one order that is increasing. -/
theorem sortBy_eq_of_perm {as bs : List α} (h : as.Perm bs)
    (hbs : bs.Pairwise fun a b => before (key a) (key b) = true) :
    sortBy before key as = bs := by
  have hnodup := (h.map key).nodup_iff.mpr (nodup_map_of_pairwise before key hbs)
  exact eq_of_perm_of_pairwise before key ((perm_sortBy hnodup).trans h)
    (pairwise_sortBy before key as) hbs

end

/-! ## Lists member by member -/

section
variable {α : Type} [DecidableEq α] {before : α → α → Bool}

/-- Comparing member by member is the lexicographic order. -/
theorem lexBefore_iff [Std.Irrefl fun a b => before a b = true] {as bs : List α} :
    lexBefore before as bs = true ↔ List.Lex (fun a b => before a b = true) as bs := by
  fun_induction lexBefore before as bs with
  | case1 as => simp [List.not_lex_nil]
  | case2 b bs => simp
  | case3 a as bs ih => rw [ih, List.lex_cons_iff]
  | case4 a as b bs hne =>
    rw [List.cons_lex_cons_iff]
    simp [hne]

instance isStrictTotalOrder_lexBefore [IsStrictTotalOrder α fun a b => before a b = true] :
    IsStrictTotalOrder (List α) fun as bs => lexBefore before as bs = true where
  irrefl as h :=
    List.lex_irrefl (irrefl_of fun a b => before a b = true) as (lexBefore_iff.mp h)
  trans as bs cs hab hbc := by
    rw [lexBefore_iff] at hab hbc ⊢
    exact List.lex_trans (trans_of fun a b => before a b = true) hab hbc
  trichotomous as bs hab hba := by
    rw [lexBefore_iff] at hab hba
    exact Std.Trichotomous.trichotomous as bs hab hba

end

/-! ## Texts -/

namespace Text

instance : IsStrictTotalOrder Char fun a b => decide (a.toNat < b.toNat) = true where
  irrefl a := by simp
  trans a b c hab hbc := by
    rw [decide_eq_true_eq] at hab hbc ⊢
    exact Nat.lt_trans hab hbc
  trichotomous a b hab hba := by
    rw [decide_eq_true_eq] at hab hba
    exact Char.toNat_inj.mp (Nat.le_antisymm (Nat.not_lt.mp hba) (Nat.not_lt.mp hab))

instance : IsStrictTotalOrder Text fun s t => before s t = true :=
  isStrictTotalOrder_lexBefore

theorem mem_sorted {t : Text} {ts : List Text} : t ∈ sorted ts ↔ t ∈ ts := by
  have hkey : t ∈ (sortBy before id ts).map id ↔ t ∈ ts.map id := mem_map_sortBy before id
  rwa [List.map_id, List.map_id] at hkey

theorem nodup_sorted (ts : List Text) : (sorted ts).Nodup := by
  have hnodup := nodup_map_of_pairwise before id (pairwise_sortBy before id ts)
  rwa [List.map_id] at hnodup

/-- Members in strictly increasing order of their keys. -/
def Ascending {α : Type} (members : List (Text × α)) : Prop :=
  members.Pairwise fun m n => before m.1 n.1 = true

/-- Members in any order are sorted into the one order that is ascending. -/
theorem sortedMembers_of_perm {α : Type} {members sorted : List (Text × α)}
    (hsorted : Ascending sorted) (h : members.Perm sorted) : sortedMembers members = sorted :=
  sortBy_eq_of_perm ((List.reverse_perm members).trans h) hsorted

end Text

end FlowTidy
