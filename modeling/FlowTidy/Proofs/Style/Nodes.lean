import FlowTidy.Style.Basic
import FlowTidy.Proofs.Text.Occurrence
import FlowTidy.Proofs.Order

/-!
What the classes of nodes mean. Going through the elements of a diagram keeps one mark, which a
workflow subgraph sets and any `end` takes away. At each position the mark says whether a workflow
subgraph was opened before with no `end` since (`markBefore_eq_true_iff`), whatever the nesting. The
nodes that are mentioned and are not subgraphs are then divided into the two classes
(`NodeClasses.of_divides`).
-/

namespace FlowTidy

open Text

/-! ## Meaning -/

/-- The identifier of a node on a line of its own or of an end of a connection. -/
def MentionsNode (es : List Element) (id : Text) : Prop :=
  (∃ n, .node n ∈ es ∧ n.id = id) ∨ ∃ c, .connection c ∈ es ∧ (c.source = id ∨ c.target = id)

/-- The identifier of a subgraph, wherever it starts. -/
def HasSubgraph (es : List Element) (id : Text) : Prop := ∃ label, .subgraphStart id label ∈ es

/-- The letter `W` and digits, at least one. -/
def IsWorkflowName (id : Text) : Prop :=
  ∃ digits : Text, id = 'W' :: digits ∧ digits ≠ [] ∧ ∀ c ∈ digits, c.isDigit = true

/-- At position `j` a subgraph starts whose identifier or label holds the mark of workflows. -/
def OpensWorkflow (es : List Element) (j : Nat) : Prop :=
  ∃ id label, es[j]? = some (.subgraphStart id label) ∧
    (workflowMark <:+: id ∨ ∃ l, label = some l ∧ workflowMark <:+: l)

/-- A workflow subgraph starts before position `i`, and none of the subgraphs ends between the
two. -/
def InWorkflow (es : List Element) (i : Nat) : Prop :=
  ∃ j < i, OpensWorkflow es j ∧ ∀ k, j < k → k < i → es[k]? ≠ some .subgraphEnd

theorem isWorkflowId_iff {id : Text} : isWorkflowId id = true ↔ IsWorkflowName id := by
  constructor
  · intro h
    unfold isWorkflowId at h
    split at h
    · next digits =>
      rw [Bool.and_eq_true, List.all_eq_true] at h
      exact ⟨digits, rfl, by simpa using h.1, h.2⟩
    · contradiction
  · rintro ⟨digits, rfl, hne, hall⟩
    rw [isWorkflowId, Bool.and_eq_true, List.all_eq_true]
    exact ⟨by simpa using hne, hall⟩

theorem isWorkflowSubgraph_iff {id : Text} {label : Option Text} :
    isWorkflowSubgraph id label = true ↔
      workflowMark <:+: id ∨ ∃ l, label = some l ∧ workflowMark <:+: l := by
  rw [isWorkflowSubgraph, Bool.or_eq_true, holds_iff_isInfix]
  cases label with
  | none => simp
  | some l => simp [holds_iff_isInfix]

theorem mentionsNode_iff {es : List Element} {id : Text} :
    id ∈ es.flatMap Element.nodeIds ↔ MentionsNode es id := by
  rw [List.mem_flatMap]
  constructor
  · rintro ⟨e, he, hid⟩
    cases e with
    | node n => exact .inl ⟨n, he, (List.mem_singleton.mp hid).symm⟩
    | connection c =>
      have hend : id = c.source ∨ id = c.target := by simpa [Element.nodeIds] using hid
      exact .inr ⟨c, he, hend.imp Eq.symm Eq.symm⟩
    | _ => contradiction
  · rintro (⟨n, hn, rfl⟩ | ⟨c, hc, hend⟩)
    · exact ⟨_, hn, List.mem_singleton_self _⟩
    · exact ⟨_, hc, by simpa [Element.nodeIds] using hend.imp Eq.symm Eq.symm⟩

theorem hasSubgraph_iff {es : List Element} {id : Text} :
    id ∈ es.filterMap Element.subgraphId? ↔ HasSubgraph es id := by
  rw [List.mem_filterMap]
  constructor
  · rintro ⟨e, he, hid⟩
    cases e with
    | subgraphStart id' label =>
      obtain rfl := Option.some.inj hid
      exact ⟨label, he⟩
    | _ => contradiction
  · rintro ⟨label, h⟩
    exact ⟨_, h, rfl⟩

/-! ## The mark along a diagram -/

/-- The mark after an element, given the mark before it. -/
def Element.markAfter (inside : Bool) : Element → Bool
  | .subgraphStart id label => inside || isWorkflowSubgraph id label
  | .subgraphEnd => false
  | _ => inside

/-- The mark before position `i`. -/
def markBefore (inside : Bool) (es : List Element) (i : Nat) : Bool :=
  (es.take i).foldl Element.markAfter inside

theorem markBefore_succ {inside : Bool} {es : List Element} {i : Nat} {e : Element}
    (h : es[i]? = some e) :
    markBefore inside es (i + 1) = e.markAfter (markBefore inside es i) := by
  rw [markBefore, List.take_add_one, h, List.foldl_append]
  rfl

theorem markedNodes_cons (inside : Bool) (e : Element) (es : List Element) :
    markedNodes inside (e :: es) =
      (if inside then (e.node?.map Node.id).toList else []) ++
        markedNodes (e.markAfter inside) es := by
  cases e with
  | node n => rfl
  | subgraphEnd | subgraphStart => cases inside <;> rfl
  | _ => cases inside <;> rfl

/-- The marked nodes are those that stand where the mark is set. -/
theorem mem_markedNodes_iff {inside : Bool} {es : List Element} {id : Text} :
    id ∈ markedNodes inside es ↔
      ∃ i n, es[i]? = some (.node n) ∧ n.id = id ∧ markBefore inside es i = true := by
  induction es generalizing inside with
  | nil => simp [markedNodes]
  | cons e es ih =>
    rw [markedNodes_cons, List.mem_append, ih]
    constructor
    · rintro (h | ⟨i, n, hi, hid, hmark⟩)
      · split at h
        · next hinside =>
          obtain ⟨n, hn, rfl⟩ := Option.map_eq_some_iff.mp (Option.mem_toList.mp h)
          refine ⟨0, n, ?_, rfl, hinside⟩
          cases e <;> simp_all [Element.node?]
        · contradiction
      · exact ⟨i + 1, n, hi, hid, hmark⟩
    · rintro ⟨i, n, hi, hid, hmark⟩
      cases i with
      | zero =>
        obtain rfl := Option.some.inj hi
        have hinside : inside = true := hmark
        exact .inl (by simp [hinside, Element.node?, hid])
      | succ i => exact .inr ⟨i, n, hi, hid, hmark⟩

/-- What an element does to the mark at its position. -/
theorem inWorkflow_succ_iff {es : List Element} {i : Nat} {e : Element} (h : es[i]? = some e) :
    InWorkflow es (i + 1) ↔ OpensWorkflow es i ∨ e ≠ .subgraphEnd ∧ InWorkflow es i := by
  constructor
  · rintro ⟨j, hj, hopens, hends⟩
    rcases Nat.lt_succ_iff_lt_or_eq.mp hj with hj | rfl
    · refine .inr ⟨fun he => hends i hj (Nat.lt_succ_self i) (he ▸ h), j, hj, hopens, ?_⟩
      exact fun k hjk hki => hends k hjk (Nat.lt_succ_of_lt hki)
    · exact .inl hopens
  · rintro (hopens | ⟨he, j, hj, hopens, hends⟩)
    · exact ⟨i, Nat.lt_succ_self i, hopens, fun k hik hki => by omega⟩
    · refine ⟨j, Nat.lt_succ_of_lt hj, hopens, fun k hjk hki => ?_⟩
      rcases Nat.lt_succ_iff_lt_or_eq.mp hki with hki | rfl
      · exact hends k hjk hki
      · rw [h]
        exact fun heq => he (Option.some.inj heq)

theorem opensWorkflow_iff {es : List Element} {i : Nat} {e : Element} (h : es[i]? = some e) :
    OpensWorkflow es i ↔ e.markAfter false = true := by
  cases e with
  | subgraphStart id label =>
    rw [Element.markAfter, Bool.false_or, isWorkflowSubgraph_iff]
    constructor
    · rintro ⟨id', label', hstart, hmark⟩
      rw [h] at hstart
      obtain ⟨rfl, rfl⟩ := Element.subgraphStart.inj (Option.some.inj hstart)
      exact hmark
    · exact fun hmark => ⟨id, label, h, hmark⟩
  | _ =>
    constructor
    · rintro ⟨id, label, hstart, -⟩
      rw [h] at hstart
      simp at hstart
    · exact fun hmark => absurd hmark (by simp [Element.markAfter])

/-- The mark holds where a workflow subgraph was opened with no `end` since. -/
theorem markBefore_eq_true_iff {es : List Element} {i : Nat} (hi : i ≤ es.length) :
    markBefore false es i = true ↔ InWorkflow es i := by
  induction i with
  | zero => simp [markBefore, InWorkflow]
  | succ i ih =>
    have h : es[i]? = some es[i] := List.getElem?_eq_getElem hi
    rw [markBefore_succ h, inWorkflow_succ_iff h, opensWorkflow_iff h, ← ih (Nat.le_of_lt hi)]
    generalize es[i] = e
    cases e with
    | subgraphStart id label => simp [Element.markAfter, or_comm]
    | subgraphEnd => simp [Element.markAfter]
    | _ => simp [Element.markAfter]

/-! ## Classes -/

/-- The nodes that are in some class. -/
theorem mem_styled_iff {es : List Element} {id : Text} :
    id ∈ (es.flatMap Element.nodeIds).filter
        (fun id => !(es.filterMap Element.subgraphId?).contains id) ↔
      MentionsNode es id ∧ ¬ HasSubgraph es id := by
  rw [List.mem_filter, mentionsNode_iff, ← hasSubgraph_iff, Bool.not_eq_true', List.contains_eq_mem,
    decide_eq_false_iff_not]

/-- A node is in some class just if it is mentioned and is no subgraph. -/
theorem mem_classes_iff {es : List Element} {id : Text} :
    id ∈ (NodeClasses.of es).content ∨ id ∈ (NodeClasses.of es).workflow ↔
      MentionsNode es id ∧ ¬ HasSubgraph es id := by
  rw [← mem_styled_iff]
  -- what is styled and not in one class is in the other
  have hsplit {p : Text → Bool} {ids : List Text} :
      id ∈ sorted (ids.filter fun id => !p id) ∨ id ∈ sorted (ids.filter p) ↔ id ∈ ids := by
    rw [mem_sorted, mem_sorted, List.mem_filter, List.mem_filter, ← and_or_left]
    exact and_iff_left (by cases p id <;> simp)
  exact hsplit

/-- A node is in the workflow by its name, or by where it stands. -/
theorem mem_workflow_iff {es : List Element} {id : Text} :
    id ∈ (NodeClasses.of es).workflow ↔ (MentionsNode es id ∧ ¬ HasSubgraph es id) ∧
      (IsWorkflowName id ∨ ∃ i n, es[i]? = some (.node n) ∧ n.id = id ∧ InWorkflow es i) := by
  have hmarked : id ∈ markedNodes false es ↔
      ∃ i n, es[i]? = some (.node n) ∧ n.id = id ∧ InWorkflow es i := by
    rw [mem_markedNodes_iff]
    refine exists_congr fun i => exists_congr fun n => and_congr_right fun hi => ?_
    rw [markBefore_eq_true_iff (Nat.le_of_lt (List.getElem?_eq_some_iff.mp hi).1)]
  rw [← mem_styled_iff, ← hmarked, ← isWorkflowId_iff, NodeClasses.of, mem_sorted, List.mem_filter,
    Bool.or_eq_true, List.contains_eq_mem, decide_eq_true_iff, or_comm]

/-- Each node is in one class and only once. -/
theorem nodup_classes (es : List Element) :
    ((NodeClasses.of es).content ++ (NodeClasses.of es).workflow).Nodup := by
  refine List.nodup_append.mpr ⟨nodup_sorted _, nodup_sorted _, ?_⟩
  rintro id hcontent id' hworkflow rfl
  have hnot := (List.mem_filter.mp (mem_sorted.mp hcontent)).2
  have hin := (List.mem_filter.mp (mem_sorted.mp hworkflow)).2
  simp only [hin, Bool.not_true] at hnot
  contradiction

/-- The nodes of a diagram that are not subgraphs are divided into the two classes, each of which
has no duplicates. The workflow has those whose name is of its form, and those that stand at some
place where a workflow subgraph was opened with no `end` since. -/
theorem NodeClasses.of_divides (d : Diagram) :
    ((NodeClasses.of d.elements).content ++ (NodeClasses.of d.elements).workflow).Nodup ∧
    (∀ id, id ∈ (NodeClasses.of d.elements).content ∨ id ∈ (NodeClasses.of d.elements).workflow ↔
      MentionsNode d.elements id ∧ ¬ HasSubgraph d.elements id) ∧
    ∀ id, MentionsNode d.elements id → ¬ HasSubgraph d.elements id →
      (id ∈ (NodeClasses.of d.elements).workflow ↔ IsWorkflowName id ∨
        ∃ i n, d.elements[i]? = some (.node n) ∧ n.id = id ∧ InWorkflow d.elements i) := by
  refine ⟨nodup_classes d.elements, fun id => mem_classes_iff, fun id hnode hsubgraph => ?_⟩
  rw [mem_workflow_iff]
  exact and_iff_right ⟨hnode, hsubgraph⟩

example : NodeClasses.of [.subgraphStart workflowMark none, .subgraphStart ['I'] none,
    .node ⟨['X'], none, .rectangle⟩, .subgraphEnd, .node ⟨['Y'], none, .rectangle⟩, .subgraphEnd] =
      { content := [['Y']], workflow := [['X']] } := by decide

end FlowTidy
