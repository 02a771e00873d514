import FlowTidy.Document.Report
import FlowTidy.Proofs.Document.Blocks
import Mathlib.Data.List.Forall2
import Mathlib.Data.List.Zip

/-!
Splicing tidied diagrams into a document. The document that is written is well-formed as long as no
tidied diagram holds a closing fence, because a newline keeps the last line of a diagram apart from
the fence. So it is read back as it was put together: block by block, with the same prose.
-/

namespace FlowTidy

open Text

/-- The error of a result, if it is one. -/
def failure? {ε α : Type} : Except ε α → Option ε
  | .ok _ => none
  | .error e => some e

/-! ## Blocks -/

/-- How a block stands in a document after its diagram was tidied, or was left as it is. -/
structure Block.Spliced (style : Style) (b b' : Block) : Prop where
  prose : b'.prose = b.prose
  tidied : ∀ o, tidy style b.body = .ok o → b'.body = o.formatted ++ ['\n']
  failed : ∀ e, tidy style b.body = .error e → b'.body = b.body

theorem Block.spliced_tidied (style : Style) (b : Block) :
    b.Spliced style (b.tidied (tidy style b.body)) := by
  refine ⟨?_, fun o h => ?_, fun e h => ?_⟩
  · cases tidy style b.body <;> rfl
  · rw [h]
    rfl
  · rw [h]
    rfl

/-- A tidied body without a closing fence keeps its block well-formed. -/
theorem Block.WellFormed.tidied {b : Block} (hb : b.WellFormed) {result : Except Difference Tidied}
    (h : ∀ o, result = .ok o → ¬ closingFence <:+: o.formatted) : (b.tidied result).WellFormed := by
  cases result with
  | ok o => exact ⟨hb.opening, not_infix_closingFence (h o rfl)⟩
  | error => exact hb

/-! ## Documents -/

/-- A document with its diagrams tidied. -/
def Document.tidied (style : Style) (d : Document) : Document :=
  { d with blocks := d.blocks.map fun b => b.tidied (tidy style b.body) }

/-- The text of a report is that of the document with its diagrams tidied. -/
theorem formatted_processDocument (style : Style) (t : Text) :
    (processDocument style t).formatted = ((Document.parse t).tidied style).text := by
  simp only [processDocument, Document.report, Document.tidied, List.zipWith_map_right,
    List.zipWith_self]

theorem Document.WellFormed.tidied {style : Style} {d : Document} (hd : d.WellFormed)
    (h : ∀ b ∈ d.blocks, ∀ o, tidy style b.body = .ok o → ¬ closingFence <:+: o.formatted) :
    (d.tidied style).WellFormed := by
  refine ⟨fun b' hb' => ?_, hd.ending⟩
  obtain ⟨b, hb, rfl⟩ := List.mem_map.mp hb'
  exact (hd.blocks b hb).tidied (h b hb)

theorem changed_processDocument (style : Style) (t : Text) :
    (processDocument style t).changed =
      ((Document.parse t).blocks.filterMap fun b => (tidy style b.body).toOption).countP
        Tidied.changed := by
  rw [List.countP_filterMap]
  simp only [processDocument, Document.report, List.countP_map]
  refine List.countP_congr fun b _ => ?_
  rw [Function.comp_apply]
  cases tidy style b.body <;> rfl

theorem blockFault?_eq (offset : Nat) (result : Except Difference Tidied) :
    blockFault? offset result =
      (failure? result).map fun e => .diagramFailed offset e.fault.message := by
  cases result <;> rfl

/-- The faults of a document: one for each diagram that could not be tidied, in order. -/
theorem faults_processDocument (style : Style) (t : Text) :
    (processDocument style t).faults =
      (Document.parse t).blocks.zipIdx.filterMap fun p =>
        (failure? (tidy style p.1.body)).map fun e =>
          .diagramFailed (byteSize ((Document.parse t).lead p.2)) e.fault.message := by
  have hzip : (Document.parse t).blocks.zipIdx.map Prod.swap =
      (List.range (Document.parse t).blocks.length).zip (Document.parse t).blocks := by
    rw [List.zipIdx_eq_zip_range', ← List.range_eq_range', List.zip_swap]
  have hstarts : (processDocument style t).faults =
      ((((Document.parse t).spans.map Prod.fst).zip
        ((Document.parse t).blocks.map fun b => tidy style b.body)).filterMap
          fun p => blockFault? p.1 p.2) := by
    rw [List.zip_map_left, List.filterMap_map]
    rfl
  rw [hstarts, Document.map_fst_spans, List.zip_map, ← hzip, List.filterMap_map, List.filterMap_map]
  exact List.filterMap_congr fun p _ => blockFault?_eq _ _

/-- Splicing keeps the blocks of a document if no tidied diagram holds a closing fence: prose and
ending are the same, and each body is the tidied one or, where that failed, the one before. Each
fault gives the offset at which its block starts. -/
theorem processDocument_keeps_blocks {style : Style} {t : Text}
    (hfence : ∀ b ∈ (Document.parse t).blocks, ∀ o, tidy style b.body = .ok o →
      ¬ closingFence <:+: o.formatted) :
    let d := Document.parse t
    let report := processDocument style t
    let d' := Document.parse report.formatted
    d.text = t ∧ d'.text = report.formatted ∧
    List.Forall₂ (Block.Spliced style) d.blocks d'.blocks ∧ d'.ending = d.ending ∧
    (∀ i b, d.blocks[i]? = some b → d.lead i ++ b.fenced <+: t) ∧
    report.faults = d.blocks.zipIdx.filterMap
      (fun p => (failure? (tidy style p.1.body)).map fun e =>
        .diagramFailed (byteSize (d.lead p.2)) e.fault.message) ∧
    report.changed =
      (d.blocks.filterMap fun b => (tidy style b.body).toOption).countP Tidied.changed := by
  intro d report d'
  have hd' : d' = d.tidied style :=
    (congrArg Document.parse (formatted_processDocument style t)).trans
      (Document.parse_text ((Document.wellFormed_parse t).tidied hfence))
  refine ⟨Document.text_parse t, Document.text_parse _, ?_, ?_, fun i b hb => ?_,
    faults_processDocument style t, changed_processDocument style t⟩
  · rw [hd', Document.tidied, List.forall₂_map_right_iff]
    exact List.forall₂_same.mpr fun b _ => b.spliced_tidied style
  · rw [hd']
    rfl
  · have h := Document.lead_append_isPrefix hb
    rwa [Document.text_parse] at h

/-- Of two diagrams the first is tidied, and the second fails and is left as it is. The fence that
is not closed belongs to the ending. -/
theorem processDocument_keeps_blocks_failing :
    let t := "a```mermaid\nA-->B\n```` b```mermaid\nend[\"\"]\n```c```mermaid\n".toList
    let report := processDocument .passthrough t
    (∃ b c, (Document.parse report.formatted).blocks = [b, c] ∧
      b.prose = "a".toList ∧ b.body = "flowchart TB\n  A --> B\n".toList ∧
      c.prose = "` b".toList ∧ c.body = "end[\"\"]\n".toList) ∧
    (Document.parse report.formatted).ending = "c```mermaid\n".toList ∧
    report.faults = [.diagramFailed 24
      "Round-trip check failed: node count changed from 1 to 0".toList] ∧
    report.changed = 1 := by
  intro t report
  have hparse : Document.parse t = ⟨[⟨"a".toList, "A-->B\n".toList⟩,
      ⟨"` b".toList, "end[\"\"]\n".toList⟩], "c```mermaid\n".toList⟩ := by decide +kernel
  have hok : tidy .passthrough "A-->B\n".toList =
      .ok ⟨"flowchart TB\n  A --> B".toList, true⟩ := by decide +kernel
  have herror : tidy .passthrough "end[\"\"]\n".toList = .error (.nodeCount 1 0) := by
    decide +kernel
  have hfence : ∀ b ∈ (Document.parse t).blocks, ∀ o, tidy .passthrough b.body = .ok o →
      ¬ closingFence <:+: o.formatted := by
    intro b hb o ho
    rw [hparse] at hb
    rcases List.mem_cons.mp hb with rfl | hb
    · cases hok.symm.trans ho
      decide
    · obtain rfl := List.mem_singleton.mp hb
      cases herror.symm.trans ho
  obtain ⟨-, -, hblocks, hending, -, hfaults, hchanged⟩ := processDocument_keeps_blocks hfence
  rw [hparse] at hblocks hending
  obtain ⟨b, rest, hb, hrest, hcons⟩ := List.forall₂_cons_left_iff.mp hblocks
  obtain ⟨c, rest', hc, hnil, rfl⟩ := List.forall₂_cons_left_iff.mp hrest
  obtain rfl := List.forall₂_nil_left_iff.mp hnil
  exact ⟨⟨b, c, hcons, hb.prose, hb.tidied _ hok, hc.prose, hc.failed _ herror⟩, hending,
    hfaults.trans (by decide +kernel), hchanged.trans (by decide +kernel)⟩

end FlowTidy
