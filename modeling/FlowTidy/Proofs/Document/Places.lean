import FlowTidy.Proofs.Document.Blocks

/-!
Where the diagrams of a document are. `Document.Places` says by offsets in bytes which ranges are
diagrams, without a search: what each range spells, and where no fence may start outside of them.
The ranges are determined by that, and they are the ones that are found (`places_iff_eq_placed`).

A search for a mark stops where the mark starts for the first time (`firstAt_of_cut?`), and there is
only one such place (`FirstAt.unique`). So the search for a fence and the offset that a range gives
for it can only agree.
-/

namespace FlowTidy

open Text

/-! ## First places -/

namespace Text

/-- A mark starts nowhere from one offset on before another. -/
def Free (t mark : Text) (start stop : Nat) : Prop :=
  ∀ k, start ≤ k → k < stop → ¬ StandsAt t mark k

/-- From `start` on, `offset` is the first place of a mark. -/
structure FirstAt (t mark : Text) (start offset : Nat) : Prop where
  le : start ≤ offset
  standsAt : StandsAt t mark offset
  free : Free t mark start offset

section
variable {t mark front : Text} {start offset offset' : Nat}

theorem FirstAt.unique (h : FirstAt t mark start offset) (h' : FirstAt t mark start offset') :
    offset = offset' := by
  rcases Nat.lt_trichotomy offset offset' with hlt | heq | hlt
  · exact absurd h.standsAt (h'.free offset h.le hlt)
  · exact heq
  · exact absurd h'.standsAt (h.free offset' h'.le hlt)

theorem StandsAt.left {piece piece' : Text} (h : StandsAt t (piece ++ piece') offset) :
    StandsAt t piece offset := by
  obtain ⟨before, after, rfl, hsize⟩ := h
  exact ⟨before, piece' ++ after, by simp, hsize⟩

theorem StandsAt.right {piece piece' : Text} (h : StandsAt t (piece ++ piece') offset) :
    StandsAt t piece' (offset + byteSize piece) := by
  obtain ⟨before, after, rfl, rfl⟩ := h
  exact ⟨before ++ piece, after, by simp, byteSize_append _ _⟩

/-- What stands after some front stands in what follows the front. -/
theorem standsAt_append_iff {piece : Text} :
    StandsAt (front ++ t) piece (byteSize front + offset) ↔ StandsAt t piece offset := by
  constructor
  · rintro ⟨before, after, h, hsize⟩
    rcases List.append_eq_append_iff.mp h with ⟨x, rfl, rfl⟩ | ⟨x, rfl, hx⟩
    · rw [byteSize_append] at hsize
      exact ⟨x, after, rfl, by omega⟩
    · -- the piece starts no later than the front ends, so it starts there
      rw [byteSize_append] at hsize
      have hnil : x = [] := by
        by_contra hne
        have := byteSize_pos hne
        omega
      subst hnil
      exact ⟨[], after, by simpa using hx.symm, by rw [byteSize]; omega⟩
  · rintro ⟨before, after, rfl, rfl⟩
    exact ⟨front ++ before, after, by simp, byteSize_append _ _⟩

/-- Where a text is not cut at a mark, the mark stands nowhere in it. -/
theorem not_standsAt_of_cut? (h : cut? mark t = none) (k : Nat) (hk : byteSize front ≤ k) :
    ¬ StandsAt (front ++ t) mark k := by
  obtain ⟨k, rfl⟩ := Nat.exists_eq_add_of_le hk
  rw [standsAt_append_iff]
  rintro ⟨before, after, ht, -⟩
  have hholds : holds t mark = false := by
    rw [holds, h]
    rfl
  exact not_infix_of_holds hholds ⟨before, after, by rw [ht, List.append_assoc]⟩

/-- A text is cut at the first place of the mark. -/
theorem firstAt_of_cut? {before rest : Text} (hmark : mark ≠ [])
    (h : cut? mark t = some (before, rest)) :
    FirstAt (front ++ t) mark (byteSize front) (byteSize front + byteSize before) := by
  have ht := eq_append_of_cut? h
  refine ⟨Nat.le_add_right _ _, ?_, fun k hk hlt => ?_⟩
  · exact standsAt_append_iff.mpr ⟨before, rest, by rw [ht, List.append_assoc], rfl⟩
  · obtain ⟨k, rfl⟩ := Nat.exists_eq_add_of_le hk
    rw [standsAt_append_iff]
    rintro ⟨before', after, ht', rfl⟩
    -- an earlier mark is complete before the last character of this one
    have happend : before' ++ (mark ++ after) = before ++ (mark ++ rest) := by
      rw [← ht', ht, List.append_assoc]
    rcases List.append_eq_append_iff.mp happend with ⟨x, rfl, hx⟩ | ⟨x, rfl, -⟩
    · have hne : x ≠ [] := by
        rintro rfl
        simp at hlt
      have hlength : mark.length ≤ (x ++ mark).dropLast.length := by
        have := List.length_pos_of_ne_nil hne
        simp
        omega
      have hdropped : (x ++ mark).dropLast <+: x ++ (mark ++ rest) :=
        (List.dropLast_prefix _).trans ⟨rest, List.append_assoc _ _ _⟩
      have hpre : mark <+: (x ++ mark).dropLast :=
        List.prefix_of_prefix_length_le ⟨after, hx⟩ hdropped hlength
      refine not_infix_of_cut? hmark h (hpre.isInfix.trans ?_)
      rw [List.append_assoc, List.dropLast_append_of_ne_nil
        (List.append_ne_nil_of_left_ne_nil hne _)]
      exact (List.suffix_append _ _).isInfix
    · rw [byteSize_append] at hlt
      omega

end

end Text

/-! ## Places -/

/-- A diagram with the range of bytes that it takes in a text. -/
@[ext]
structure Placed where
  start : Nat
  stop : Nat
  body : Text

/-- The range of a diagram spells an opening fence, the body and a closing fence, which is the first
one after the opening. -/
structure Placed.Spelled (t : Text) (p : Placed) : Prop where
  standsAt : StandsAt t (openingFence ++ (p.body ++ closingFence)) p.start
  stop : p.stop = p.start + byteSize (openingFence ++ (p.body ++ closingFence))
  first : Free t closingFence (p.start + byteSize openingFence)
    (p.start + byteSize (openingFence ++ p.body))

theorem Placed.Spelled.firstAt {t : Text} {p : Placed} (h : p.Spelled t) : FirstAt t closingFence
    (p.start + byteSize openingFence) (p.start + byteSize (openingFence ++ p.body)) := by
  refine ⟨?_, ?_, h.first⟩
  · rw [byteSize_append]
    omega
  · rw [byteSize_append, ← Nat.add_assoc]
    exact h.standsAt.right.right

namespace Document

/-- Where the last of some diagrams stops, or `offset` if there is none. -/
def lastStop (offset : Nat) : List Placed → Nat
  | [] => offset
  | p :: places => lastStop p.stop places

/-- The first opening fence from `offset` on, if there is one, is not closed. -/
def Unclosed (t : Text) (offset : Nat) : Prop :=
  ∀ k, FirstAt t openingFence offset k → ∀ j, k + byteSize openingFence ≤ j →
    ¬ StandsAt t closingFence j

/-- The places of the diagrams in a text from `offset` on. -/
structure Places (t : Text) (offset : Nat) (places : List Placed) : Prop where
  after : ∀ p ∈ places, offset ≤ p.start
  ordered : places.Pairwise fun p q => p.stop ≤ q.start
  spelled : ∀ p ∈ places, p.Spelled t
  /-- No opening fence starts before the first diagram or between two of them. -/
  between : ∀ i p, places[i]? = some p →
    Free t openingFence (lastStop offset (places.take i)) p.start
  ending : Unclosed t (lastStop offset places)

/-- The diagrams of a document with the ranges that they take in its text. -/
def placed (d : Document) : List Placed :=
  List.zipWith (fun span b => ⟨span.1, span.2, b.body⟩) d.spans d.blocks

section
variable {t : Text} {offset : Nat} {p : Placed} {places : List Placed}

/-- The first diagram starts at the first fence, and the others are placed after it. -/
theorem places_cons_iff : Places t offset (p :: places) ↔
    (FirstAt t openingFence offset p.start ∧ p.Spelled t) ∧ Places t p.stop places := by
  constructor
  · rintro ⟨hafter, hordered, hspelled, hbetween, hending⟩
    obtain ⟨hle, -⟩ := List.forall_mem_cons.mp hafter
    obtain ⟨hnext, hordered⟩ := List.pairwise_cons.mp hordered
    obtain ⟨hp, hspelled⟩ := List.forall_mem_cons.mp hspelled
    exact ⟨⟨⟨hle, hp.standsAt.left, hbetween 0 p rfl⟩, hp⟩,
      ⟨hnext, hordered, hspelled, fun i => hbetween (i + 1), hending⟩⟩
  · rintro ⟨⟨hfirst, hp⟩, ⟨hafter, hordered, hspelled, hbetween, hending⟩⟩
    have hle : p.start ≤ p.stop := hp.stop ▸ Nat.le_add_right _ _
    refine ⟨List.forall_mem_cons.mpr ⟨hfirst.le, fun q hq => ?_⟩,
      List.pairwise_cons.mpr ⟨hafter, hordered⟩, List.forall_mem_cons.mpr ⟨hp, hspelled⟩,
      fun i q hq => ?_, hending⟩
    · exact hfirst.le.trans (hle.trans (hafter q hq))
    · cases i with
      | zero =>
        obtain rfl := Option.some.inj hq
        exact hfirst.free
      | succ i => exact hbetween i q hq

/-- A text whose first fence is not closed has no places of diagrams. -/
theorem places_iff_eq_nil (h : Unclosed t offset) : Places t offset places ↔ places = [] := by
  cases places with
  | nil => exact iff_of_true ⟨nofun, .nil, nofun, nofun, h⟩ rfl
  | cons p places =>
    refine iff_of_false (fun hplaces => ?_) (List.cons_ne_nil _ _)
    obtain ⟨⟨hfirst, hp⟩, -⟩ := places_cons_iff.mp hplaces
    exact h _ hfirst _ hp.firstAt.le hp.firstAt.standsAt

theorem unclosed_append {front : Text}
    (h : ∀ prose inside, cut? openingFence t = some (prose, inside) →
      cut? closingFence inside = none) : Unclosed (front ++ t) (byteSize front) := by
  intro k hk j hj
  cases hopened : cut? openingFence t with
  | none => exact absurd hk.standsAt (not_standsAt_of_cut? hopened k hk.le)
  | some cut =>
    obtain ⟨prose, inside⟩ := cut
    obtain rfl := hk.unique (firstAt_of_cut? openingFence_ne_nil hopened)
    rw [← byteSize_append, ← byteSize_append] at hj
    have hsplit : front ++ t = (front ++ prose ++ openingFence) ++ inside := by
      simp [eq_append_of_cut? hopened]
    rw [hsplit]
    exact not_standsAt_of_cut? (h prose inside hopened) j hj

/-- Where both fences are found, there is the first diagram. -/
theorem firstAt_and_spelled_iff (front : Text) {prose inside body after : Text}
    (hopened : cut? openingFence t = some (prose, inside))
    (hclosed : cut? closingFence inside = some (body, after)) (p : Placed) :
    FirstAt (front ++ t) openingFence (byteSize front) p.start ∧ p.Spelled (front ++ t) ↔
      p = ⟨byteSize front + byteSize prose,
        byteSize front + byteSize prose + byteSize (Block.fenced ⟨prose, body⟩), body⟩ := by
  rw [Block.fenced, List.append_assoc, ← byteSize_append front]
  have hopen : FirstAt (front ++ t) openingFence (byteSize front) (byteSize (front ++ prose)) := by
    rw [byteSize_append]
    exact firstAt_of_cut? openingFence_ne_nil hopened
  have hinside : front ++ t = (front ++ prose ++ openingFence) ++ inside := by
    simp [eq_append_of_cut? hopened]
  have hclose : FirstAt (front ++ t) closingFence
      (byteSize (front ++ prose) + byteSize openingFence)
      (byteSize (front ++ prose) + byteSize (openingFence ++ body)) := by
    rw [hinside, byteSize_append openingFence, ← Nat.add_assoc, ← byteSize_append]
    exact firstAt_of_cut? closingFence_ne_nil hclosed
  have ht : front ++ t = (front ++ prose) ++
      ((openingFence ++ (body ++ closingFence)) ++ after) := by
    simp [hinside, eq_append_of_cut? hclosed]
  constructor
  · rintro ⟨hfirst, hp⟩
    have hstart : p.start = byteSize (front ++ prose) := hfirst.unique hopen
    have hsize : byteSize p.body = byteSize body := by
      rw [← hstart] at hclose
      have := hp.firstAt.unique hclose
      rw [byteSize_append, byteSize_append] at this
      omega
    have hbody : p.body = body := by
      obtain ⟨before, rest, hbefore, hoffset⟩ := hp.standsAt
      obtain ⟨-, hpieces⟩ := append_inj_of_byteSize (hbefore.symm.trans ht) (hoffset.trans hstart)
      simp only [List.append_assoc, List.append_cancel_left_eq] at hpieces
      exact (append_inj_of_byteSize hpieces hsize).1
    exact Placed.ext hstart (by rw [hp.stop, hstart, hbody]) hbody
  · rintro rfl
    exact ⟨hopen, ⟨_, after, ht, rfl⟩, rfl, hclose.free⟩

/-- What is found in the rest of a text are the places in it. -/
theorem places_append_iff (t : Text) : ∀ front places, Places (front ++ t) (byteSize front) places ↔
    places = List.zipWith (fun span b => ⟨span.1, span.2, b.body⟩)
      (spansFrom (byteSize front) (parse t).blocks) (parse t).blocks := by
  fun_induction parse t with
  | case1 t hnone =>
    intro front places
    refine places_iff_eq_nil (unclosed_append fun prose inside hopened => ?_)
    rw [hnone] at hopened
    contradiction
  | case2 t prose inside hopened hnone =>
    intro front places
    refine places_iff_eq_nil (unclosed_append fun prose' inside' hopened' => ?_)
    rw [hopened] at hopened'
    obtain ⟨-, rfl⟩ := Prod.mk.inj (Option.some.inj hopened')
    exact hnone
  | case3 t prose inside hopened body after hclosed rest ih =>
    intro front places
    have hrest : front ++ t = front ++ prose ++ Block.fenced ⟨prose, body⟩ ++ after := by
      simp [eq_append_of_cut? hopened, eq_append_of_cut? hclosed, Block.fenced]
    have hfirst := firstAt_and_spelled_iff front hopened hclosed
    cases places with
    | nil =>
      -- a diagram that is there has to be among the places
      refine iff_of_false (fun h => ?_) (List.cons_ne_nil _ _).symm
      obtain ⟨hopen, hp⟩ := (hfirst _).mpr rfl
      exact h.ending _ hopen _ hp.firstAt.le hp.firstAt.standsAt
    | cons p places =>
      have hplaces := ih (front ++ prose ++ Block.fenced ⟨prose, body⟩) places
      rw [← hrest] at hplaces
      simp only [byteSize_append] at hplaces
      rw [places_cons_iff, hfirst, spansFrom, List.zipWith_cons_cons, List.cons.injEq]
      refine and_congr_right fun hp => ?_
      rw [hp]
      exact hplaces

end

/-- The diagrams of a text are found where they are, and nowhere else. -/
theorem places_iff_eq_placed (t : Text) (places : List Placed) :
    Places t 0 places ↔ places = (parse t).placed :=
  places_append_iff t [] places

end Document

end FlowTidy
