import FlowTidy.Document.Basic
import FlowTidy.Proofs.Text.Occurrence

/-!
Documents and their texts. The pieces that a text is cut into put together are the text
(`text_parse`), and they are well-formed: no fence is complete before the one that a piece ends at.
A well-formed document is what is read from its text (`parse_text`). The offset of a block is the
size of all that precedes its opening fence (`map_fst_spans`).
-/

namespace FlowTidy

open Text

theorem openingFence_ne_nil : openingFence ≠ [] := List.cons_ne_nil _ _

theorem closingFence_ne_nil : closingFence ≠ [] := List.cons_ne_nil _ _

/-- A newline keeps what precedes it apart from the closing fence. -/
theorem not_infix_closingFence {t : Text} (h : ¬ closingFence <:+: t) :
    ¬ closingFence <:+: (t ++ ['\n'] ++ closingFence).dropLast := by
  have hdrop : (t ++ ['\n'] ++ closingFence).dropLast = t ++ '\n' :: closingFence.dropLast := by
    rw [List.append_assoc, List.dropLast_append_of_ne_nil (by decide)]
    rfl
  rw [hdrop, infix_append_cons (by decide)]
  rintro (hin | hin)
  · exact h hin
  · exact absurd hin.length_le (by decide)

/-- A block at whose ends the fences are complete for the first time. -/
structure Block.WellFormed (b : Block) : Prop where
  opening : ¬ openingFence <:+: (b.prose ++ openingFence).dropLast
  closing : ¬ closingFence <:+: (b.body ++ closingFence).dropLast

theorem Block.WellFormed.not_infix_body {b : Block} (h : b.WellFormed) :
    ¬ closingFence <:+: b.body := by
  intro hin
  refine h.closing (hin.trans (List.IsPrefix.isInfix ?_))
  rw [List.dropLast_append_of_ne_nil closingFence_ne_nil]
  exact List.prefix_append _ _

namespace Document

/-- A document of well-formed blocks in whose ending no block is closed. -/
structure WellFormed (d : Document) : Prop where
  blocks : ∀ b ∈ d.blocks, b.WellFormed
  ending : ∀ prose inside, cut? openingFence d.ending = some (prose, inside) →
    cut? closingFence inside = none

theorem text_cons (b : Block) (blocks : List Block) (ending : Text) :
    ({ blocks := b :: blocks, ending } : Document).text =
      b.prose ++ openingFence ++ (b.body ++ closingFence ++
        ({ blocks, ending } : Document).text) := by
  simp [text, Block.fenced]

/-- The pieces of a document put together are its text. -/
theorem text_parse (t : Text) : (parse t).text = t := by
  fun_induction parse t with
  | case1 => rfl
  | case2 => rfl
  | case3 t prose inside hopened body after hclosed rest ih =>
    rw [text_cons, eq_append_of_cut? hopened, eq_append_of_cut? hclosed]
    exact congrArg (fun u => prose ++ openingFence ++ (body ++ closingFence ++ u)) ih

/-- A text is cut at the first fences that there are. -/
theorem wellFormed_parse (t : Text) : (parse t).WellFormed := by
  fun_induction parse t with
  | case1 t hnone =>
    refine ⟨nofun, fun prose inside hopened => ?_⟩
    rw [hnone] at hopened
    contradiction
  | case2 t prose inside hopened hnone =>
    refine ⟨nofun, fun prose' inside' hopened' => ?_⟩
    rw [hopened] at hopened'
    obtain ⟨-, rfl⟩ := Prod.mk.inj (Option.some.inj hopened')
    exact hnone
  | case3 t prose inside hopened body after hclosed rest ih =>
    refine ⟨?_, ih.ending⟩
    rw [List.forall_mem_cons]
    exact ⟨⟨not_infix_of_cut? openingFence_ne_nil hopened,
      not_infix_of_cut? closingFence_ne_nil hclosed⟩, ih.blocks⟩

/-- A text whose first fence is not closed has no diagram. -/
theorem parse_of_ending {t : Text} (h : ∀ prose inside, cut? openingFence t = some (prose, inside) →
    cut? closingFence inside = none) : parse t = { blocks := [], ending := t } := by
  fun_cases parse t with
  | case1 => rfl
  | case2 => rfl
  | case3 prose inside hopened body after hclosed =>
    rw [h prose inside hopened] at hclosed
    contradiction

/-- A text is cut at its first opening fence and the closing fence after it. -/
theorem parse_of_cut? {t prose inside body after : Text}
    (hopened : cut? openingFence t = some (prose, inside))
    (hclosed : cut? closingFence inside = some (body, after)) :
    parse t =
      { blocks := { prose, body } :: (parse after).blocks, ending := (parse after).ending } := by
  rw [parse]
  split
  · next hnone =>
    rw [hopened] at hnone
    contradiction
  · next hopened' =>
    rw [hopened] at hopened'
    obtain ⟨rfl, rfl⟩ := Prod.mk.inj (Option.some.inj hopened')
    split
    · next hnone =>
      rw [hclosed] at hnone
      contradiction
    · next hclosed' =>
      rw [hclosed] at hclosed'
      obtain ⟨rfl, rfl⟩ := Prod.mk.inj (Option.some.inj hclosed')
      rfl

/-- Well-formed documents are read back from their texts. -/
theorem parse_text {d : Document} (h : d.WellFormed) : parse d.text = d := by
  obtain ⟨blocks, ending⟩ := d
  induction blocks with
  | nil => exact parse_of_ending h.ending
  | cons b blocks ih =>
    obtain ⟨⟨hopening, hclosing⟩, hblocks⟩ := List.forall_mem_cons.mp h.blocks
    rw [text_cons, parse_of_cut? (cut?_append openingFence_ne_nil hopening)
      (cut?_append closingFence_ne_nil hclosing), ih ⟨hblocks, h.ending⟩]

/-! ## Offsets -/

/-- What precedes the opening fence of the block at a position. -/
def lead (d : Document) (i : Nat) : Text :=
  (d.blocks.take i).flatMap (fun b => b.prose ++ b.fenced) ++ (d.blocks[i]?.map Block.prose).getD []

theorem lead_cons_zero (b : Block) (blocks : List Block) (ending : Text) :
    lead { blocks := b :: blocks, ending } 0 = b.prose := rfl

theorem lead_cons_succ (b : Block) (blocks : List Block) (ending : Text) (i : Nat) :
    lead { blocks := b :: blocks, ending } (i + 1) =
      b.prose ++ b.fenced ++ lead { blocks, ending } i := by
  simp [lead]

/-- A block stands in the text right after its lead. -/
theorem lead_append_isPrefix {d : Document} {i : Nat} {b : Block} (h : d.blocks[i]? = some b) :
    d.lead i ++ b.fenced <+: d.text := by
  obtain ⟨hi, rfl⟩ := List.getElem?_eq_some_iff.mp h
  have hsplit : d.blocks = d.blocks.take i ++ d.blocks[i] :: d.blocks.drop (i + 1) := by
    rw [← List.drop_eq_getElem_cons hi, List.take_append_drop]
  have hpieces := congrArg (List.flatMap fun b => b.prose ++ b.fenced) hsplit
  rw [List.flatMap_append, List.flatMap_cons] at hpieces
  refine ⟨(d.blocks.drop (i + 1)).flatMap (fun b => b.prose ++ b.fenced) ++ d.ending, ?_⟩
  rw [text, hpieces, lead, h]
  simp

/-- Spans start where the text before their blocks ends. -/
theorem map_fst_spansFrom (offset : Nat) (blocks : List Block) (ending : Text) :
    (spansFrom offset blocks).map Prod.fst =
      (List.range blocks.length).map fun i => offset + byteSize (lead { blocks, ending } i) := by
  induction blocks generalizing offset with
  | nil => rfl
  | cons b blocks ih =>
    rw [spansFrom, List.map_cons, ih, List.length_cons, List.range_succ_eq_map, List.map_cons,
      List.map_map, lead_cons_zero]
    refine congrArg (_ :: ·) (List.map_congr_left fun i _ => ?_)
    rw [Function.comp_apply, Nat.succ_eq_add_one, lead_cons_succ, byteSize_append, byteSize_append]
    omega

/-- Each diagram starts where its lead ends. -/
theorem map_fst_spans (d : Document) :
    d.spans.map Prod.fst = (List.range d.blocks.length).map fun i => byteSize (d.lead i) := by
  rw [spans, map_fst_spansFrom 0 d.blocks d.ending]
  simp only [Nat.zero_add]

end Document

end FlowTidy
