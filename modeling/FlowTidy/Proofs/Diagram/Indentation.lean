import FlowTidy.Proofs.Diagram.Enforcement
import Mathlib.Data.Finset.Lattice.Fold

/-!
Indentation follows nesting. The depth of a line is kept by a counter that stops at 0, so it is not
the starts less the ends before the line. It is the largest such difference over all places to count
from (`nestingAt_eq_depthAt`): where the counter was 0 last is the place that gives it. Between a
start and its matching end the counter does not stop at 0, hence all lines there are deeper
(`Matching.depthAt_eq`).
-/

namespace FlowTidy

open Text

/-! ## Meaning -/

/-- Whether an element starts a subgraph. -/
def Element.isStart : Element → Bool
  | .subgraphStart _ _ => true
  | _ => false

/-- Whether an element ends a subgraph. -/
def Element.isEnd : Element → Bool
  | .subgraphEnd => true
  | _ => false

/-- The number of elements from position `i` on and before position `k` that satisfy `p`. -/
def countBetween (p : Element → Bool) (es : List Element) (i k : Nat) : Nat :=
  ((es.take k).drop i).countP p

/-- The levels of nesting at position `i`: the larger of 0 and the maximum, over the positions `j`
up to `i`, of the starts from `j` on and before `i` less the ends from `j` on and up to `i`. -/
def nestingAt (es : List Element) (i : Nat) : Int :=
  max 0 ((Finset.range (i + 1)).sup' Finset.nonempty_range_add_one fun j =>
    (countBetween Element.isStart es j i : Int) - countBetween Element.isEnd es j (i + 1))

/-- The end at position `k` closes the subgraph that starts at position `i`: what is between them
ends as many subgraphs as it starts, and on the way never more. -/
structure Matching (es : List Element) (i k : Nat) : Prop where
  start : ∃ id label, es[i]? = some (.subgraphStart id label)
  stop : es[k]? = some .subgraphEnd
  lt : i < k
  level : countBetween Element.isStart es (i + 1) k = countBetween Element.isEnd es (i + 1) k
  inside : ∀ m, i < m → m ≤ k →
    countBetween Element.isEnd es (i + 1) m ≤ countBetween Element.isStart es (i + 1) m

/-! ## Depths along a body -/

theorem Element.depthAfter_eq (depth : Nat) (e : Element) :
    e.depthAfter depth = depth + e.isStart.toNat - e.isEnd.toNat := by
  cases e <;> rfl

theorem Element.ownDepth_eq (depth : Nat) (e : Element) :
    e.ownDepth depth = depth - e.isEnd.toNat := by
  cases e <;> rfl

theorem finalDepth_append (depth : Nat) (xs ys : List Element) :
    finalDepth depth (xs ++ ys) = finalDepth (finalDepth depth xs) ys := List.foldl_append

theorem finalDepth_singleton (depth : Nat) (e : Element) :
    finalDepth depth [e] = depth + e.isStart.toNat - e.isEnd.toNat := e.depthAfter_eq depth

theorem countP_singleton_toNat (p : Element → Bool) (e : Element) : [e].countP p = (p e).toNat := by
  cases h : p e <;> simp [h]

/-- What is opened towards the end of a body and not closed there is open. -/
theorem countP_isStart_le {s xs : List Element} (h : s <:+ xs) :
    s.countP Element.isStart ≤ finalDepth 0 xs + s.countP Element.isEnd := by
  induction xs using List.reverseRecOn generalizing s with
  | nil => simp [List.suffix_nil.mp h]
  | append_singleton xs e ih =>
    rcases List.suffix_concat_iff.mp h with rfl | ⟨s, rfl, hs⟩
    · simp
    · have := ih hs
      rw [finalDepth_append, finalDepth_singleton, List.countP_append, List.countP_append,
        countP_singleton_toNat, countP_singleton_toNat]
      omega

/-- What is open was opened towards the end of the body. -/
theorem exists_suffix_finalDepth (xs : List Element) : ∃ s, s <:+ xs ∧
    s.countP Element.isStart = finalDepth 0 xs + s.countP Element.isEnd := by
  induction xs using List.reverseRecOn with
  | nil => exact ⟨[], List.suffix_rfl, rfl⟩
  | append_singleton xs e ih =>
    obtain ⟨s, hs, hcount⟩ := ih
    rw [finalDepth_append, finalDepth_singleton]
    by_cases hclosed : e.isEnd.toNat ≤ finalDepth 0 xs + e.isStart.toNat
    · refine ⟨s ++ [e], ?_, ?_⟩
      · obtain ⟨front, rfl⟩ := hs
        exact ⟨front, by simp⟩
      · rw [List.countP_append, List.countP_append, countP_singleton_toNat, countP_singleton_toNat]
        omega
    · exact ⟨[], List.nil_suffix, by simp; omega⟩

/-- The depth of the line at position `i` when `depth` subgraphs are open before the body. -/
def depthAt (depth : Nat) (es : List Element) (i : Nat) : Nat :=
  finalDepth depth (es.take i) - (es[i]?.any Element.isEnd).toNat

/-- The depths that formatting keeps along a body are those at its positions. -/
theorem nesting_eq_map (depth : Nat) (es : List Element) :
    nesting depth es = (List.range es.length).map (depthAt depth es) := by
  induction es generalizing depth with
  | nil => rfl
  | cons e es ih =>
    rw [nesting, ih, List.length_cons, List.range_succ_eq_map, List.map_cons, List.map_map,
      Element.ownDepth_eq]
    rfl

theorem countBetween_succ {p : Element → Bool} {es : List Element} {j i : Nat} (h : j ≤ i) :
    countBetween p es j (i + 1) = countBetween p es j i + (es[i]?.any p).toNat := by
  rw [countBetween, countBetween, List.take_add_one]
  cases hi : es[i]? with
  | none => simp
  | some e =>
    have hlength : j ≤ (es.take i).length := by
      have := (List.getElem?_eq_some_iff.mp hi).1
      rw [List.length_take]
      omega
    rw [Option.toList_some, List.drop_append_of_le_length hlength, List.countP_append,
      countP_singleton_toNat, Option.any_some]

/-- The depth of a line is what the counts of starts and ends say. -/
theorem nestingAt_eq_depthAt (es : List Element) (i : Nat) : nestingAt es i = depthAt 0 es i := by
  have hends : ∀ j ∈ Finset.range (i + 1),
      countBetween Element.isEnd es j (i + 1) =
        countBetween Element.isEnd es j i + (es[i]?.any Element.isEnd).toNat :=
    fun j hj => countBetween_succ (Nat.lt_succ_iff.mp (Finset.mem_range.mp hj))
  apply le_antisymm
  · refine max_le (by simp) (Finset.sup'_le _ _ fun j hj => ?_)
    have hle : countBetween Element.isStart es j i ≤
        finalDepth 0 (es.take i) + countBetween Element.isEnd es j i :=
      countP_isStart_le (List.drop_suffix j _)
    rw [hends j hj, depthAt]
    omega
  · -- the counter was at zero for the last time before some suffix, from which on nothing was lost
    obtain ⟨s, hs, hcount⟩ := exists_suffix_finalDepth (es.take i)
    have hj : (es.take i).length - s.length ∈ Finset.range (i + 1) := by
      rw [Finset.mem_range, List.length_take]
      omega
    have hdrop := List.suffix_iff_eq_drop.mp hs
    rcases Nat.eq_zero_or_pos (depthAt 0 es i) with hzero | hpos
    · rw [hzero]
      exact le_max_left _ _
    · refine le_max_of_le_right (Finset.le_sup'_of_le _ hj ?_)
      rw [hends _ hj, countBetween, countBetween, ← hdrop, hcount, depthAt]
      rw [depthAt] at hpos
      omega

/-! ## Matching ends -/

/-- Where nothing is closed that was open before, depths add up. -/
theorem finalDepth_add_countP {depth : Nat} {xs : List Element}
    (h : ∀ p, p <+: xs → p.countP Element.isEnd ≤ p.countP Element.isStart) :
    finalDepth depth xs + xs.countP Element.isEnd = depth + xs.countP Element.isStart := by
  induction xs using List.reverseRecOn with
  | nil => rfl
  | append_singleton xs e ih =>
    have hfront := ih fun p hp => h p (hp.trans (List.prefix_append xs [e]))
    have hwhole := h _ List.prefix_rfl
    rw [List.countP_append, List.countP_append, countP_singleton_toNat, countP_singleton_toNat]
      at hwhole ⊢
    rw [finalDepth_append, finalDepth_singleton]
    omega

theorem finalDepth_take {es : List Element} {i m : Nat} {e : Element} (he : es[i]? = some e)
    (h : i < m) : finalDepth 0 (es.take m) =
      finalDepth (e.depthAfter (finalDepth 0 (es.take i))) ((es.take m).drop (i + 1)) := by
  have htake : (es.take m).take (i + 1) = es.take i ++ [e] := by
    rw [List.take_take, Nat.min_eq_left h, List.take_add_one, he]
    rfl
  have hsplit : es.take m = es.take i ++ [e] ++ (es.take m).drop (i + 1) := by
    rw [← htake, List.take_append_drop]
  calc finalDepth 0 (es.take m)
      = finalDepth 0 (es.take i ++ [e] ++ (es.take m).drop (i + 1)) :=
        congrArg (finalDepth 0) hsplit
    _ = finalDepth (e.depthAfter (finalDepth 0 (es.take i))) ((es.take m).drop (i + 1)) := by
      rw [finalDepth_append, finalDepth_append]
      rfl

namespace Matching

variable {es : List Element} {i k m : Nat} (h : Matching es i k)
include h

/-- From the start on, at no place have more subgraphs ended than were started. -/
theorem prefix_le {p : List Element} (hp : p <+: (es.take k).drop (i + 1)) :
    p.countP Element.isEnd ≤ p.countP Element.isStart := by
  have hlt := h.lt
  have hpiece : p = (es.take (min (i + 1 + p.length) k)).drop (i + 1) := by
    rw [← List.take_take, ← List.take_drop]
    exact List.prefix_iff_eq_take.mp hp
  rw [hpiece]
  exact h.inside _ (by omega) (Nat.min_le_right _ _)

/-- Between the start and the end nothing is closed but what was opened there. -/
theorem finalDepth_take (him : i < m) (hmk : m ≤ k) :
    finalDepth 0 (es.take m) + countBetween Element.isEnd es (i + 1) m =
      finalDepth 0 (es.take i) + 1 + countBetween Element.isStart es (i + 1) m := by
  obtain ⟨id, label, hstart⟩ := h.start
  rw [FlowTidy.finalDepth_take hstart him, countBetween, countBetween]
  refine finalDepth_add_countP fun p hp => h.prefix_le (hp.trans ?_)
  exact (List.take_prefix_take_left hmk).drop _

/-- A subgraph starts and ends at one depth, and all between is deeper. -/
theorem depthAt_eq : depthAt 0 es k = depthAt 0 es i ∧
    ∀ m, i < m → m < k → depthAt 0 es i < depthAt 0 es m := by
  obtain ⟨id, label, hstart⟩ := h.start
  have hfirst : depthAt 0 es i = finalDepth 0 (es.take i) := by
    rw [depthAt, hstart]
    rfl
  refine ⟨?_, fun m him hmk => ?_⟩
  · have hdepth := h.finalDepth_take h.lt le_rfl
    have hlevel := h.level
    have hlast : depthAt 0 es k = finalDepth 0 (es.take k) - 1 := by
      rw [depthAt, h.stop]
      rfl
    omega
  · have hdepth := h.finalDepth_take him hmk.le
    have hbefore := h.inside m him hmk.le
    -- if there is an end at `m`, it closes a subgraph that was opened after `i`
    have hafter := h.inside (m + 1) (by omega) hmk
    have hnext : i + 1 ≤ m := him
    rw [countBetween_succ hnext, countBetween_succ hnext] at hafter
    have hone : (es[m]?.any Element.isStart).toNat + (es[m]?.any Element.isEnd).toNat ≤ 1 := by
      cases es[m]? with
      | none => simp
      | some e => cases e <;> simp [Element.isStart, Element.isEnd]
    rw [hfirst, depthAt]
    omega

end Matching

/-! ## Lines without their indentation -/

/-- A line that starts with no blank. -/
structure Text.Flush (line : Text) : Prop where
  ne_nil : line ≠ []
  start : Stops isBlank line
  newline : '\n' ∉ line

/-- A style that passes validation, writes no init block, and has properties that fit on a line. -/
structure Style.Unbroken (style : Style) : Prop where
  valid : style.validate = .ok style
  initBlock : style.initBlock = none
  classProperties : '\n' ∉ style.contentProperties ∧ '\n' ∉ style.workflowProperties
  linkProperties : '\n' ∉ style.mainLink ∧ '\n' ∉ style.workflowLink ∧
    '\n' ∉ style.crossReferenceLink

theorem flush_render {e : Element} (h : e.Neat) (hfree : '\n' ∉ e.freeText) : e.render.Flush where
  ne_nil := e.render_ne_nil h
  start := (trim_eq_self_iff.mp (Element.trim_render h)).1
  newline := fun hm => by
    have hforeign : Foreign ['\n'] := ⟨by decide, '\n', by decide, rfl⟩
    have hin := (Element.framed_render h).infix_free hforeign
      ((List.singleton_infix_iff _ _).mpr hm)
    exact hfree ((List.singleton_infix_iff _ _).mp hin)

theorem not_mem_joined {pieces : List Text} (h : ∀ piece ∈ pieces, IsIdent piece) :
    '\n' ∉ joined [','] pieces := fun hm => by
  have hplain := Element.plain_joined (fun piece hpiece => (h piece hpiece).plain) _ hm
  contradiction

theorem flush_renderClassDef {name properties : Text} (hname : name.IsIdent)
    (hproperties : '\n' ∉ properties) : (renderClassDef name properties).Flush where
  ne_nil := List.cons_ne_nil _ _
  start := stops_cons.mpr rfl
  newline := by simp [renderClassDef, hname.not_mem (c := '\n') rfl, hproperties]

theorem flush_renderClassUse {ids : List Text} {className : Text} (hids : ∀ id ∈ ids, IsIdent id)
    (hclass : className.IsIdent) : (renderClassUse ids className).Flush where
  ne_nil := List.cons_ne_nil _ _
  start := stops_cons.mpr rfl
  newline := by simp [renderClassUse, hclass.not_mem (c := '\n') rfl, not_mem_joined hids]

theorem flush_renderLinkStyle (positions : List Nat) {properties : Text}
    (hproperties : '\n' ∉ properties) :
    (renderLinkStyle positions (properties ++ [';'])).Flush where
  ne_nil := List.cons_ne_nil _ _
  start := stops_cons.mpr rfl
  newline := by
    have hpositions : ∀ piece ∈ positions.map Text.ofNat, IsIdent piece := by
      intro piece hpiece
      obtain ⟨n, -, rfl⟩ := List.mem_map.mp hpiece
      exact isIdent_ofNat n
    simp [renderLinkStyle, hproperties, not_mem_joined hpositions]

theorem flush_canonical {style : Style} (hstyle : style.Unbroken) {es : List Element}
    (hes : ∀ e ∈ es, e.Neat) {kind : StyleKind} : ∀ line ∈ style.canonical es kind, line.Flush := by
  have hcontent : style.contentClass.IsIdent :=
    Style.isIdent_of_isIdentifier (Style.valid_iff.mp hstyle.valid).2.1
  have hworkflow : style.workflowClass.IsIdent :=
    Style.isIdent_of_isIdentifier (Style.valid_iff.mp hstyle.valid).2.2
  intro line hline
  cases kind with
  | classDef =>
    obtain ⟨hcontent', hworkflow'⟩ := hstyle.classProperties
    rcases List.mem_cons.mp hline with rfl | hline
    · exact flush_renderClassDef hcontent hcontent'
    · obtain rfl := List.mem_singleton.mp hline
      exact flush_renderClassDef hworkflow hworkflow'
  | classUse =>
    obtain ⟨⟨ids, className⟩, hpair, hsome⟩ := List.mem_filterMap.mp hline
    dsimp only at hsome
    split at hsome
    · contradiction
    · obtain rfl := Option.some.inj hsome
      have hids : ∀ id, id ∈ (NodeClasses.of es).content ∨ id ∈ (NodeClasses.of es).workflow →
          id.IsIdent := fun id hid => by
        obtain ⟨e, he, hmem⟩ := exists_nodeIds_of_mem_classes hid
        exact (hes e he).isIdent_of_mem_nodeIds hmem
      rcases List.mem_cons.mp hpair with heq | hpair
      · obtain ⟨rfl, rfl⟩ := Prod.mk.inj heq
        exact flush_renderClassUse (fun id hid => hids id (.inl hid)) hcontent
      · obtain ⟨rfl, rfl⟩ := Prod.mk.inj (List.mem_singleton.mp hpair)
        exact flush_renderClassUse (fun id hid => hids id (.inr hid)) hworkflow
  | linkStyle =>
    obtain ⟨⟨category, properties⟩, hpair, hsome⟩ := List.mem_filterMap.mp hline
    dsimp only at hsome
    split at hsome
    · contradiction
    · obtain rfl := Option.some.inj hsome
      refine flush_renderLinkStyle _ ?_
      obtain ⟨hmain, hworkflow, hcross⟩ := hstyle.linkProperties
      have hproperties :
          properties ∈ [style.mainLink, style.workflowLink, style.crossReferenceLink] :=
        List.mem_map_of_mem (f := Prod.snd) hpair
      simp only [List.mem_cons, List.not_mem_nil, or_false] at hproperties
      rcases hproperties with rfl | rfl | rfl <;> assumption

theorem mem_enforcedLines {canonical : StyleKind → List Text} {seen : List StyleKind}
    {es : List Element} {line : Text} (h : line ∈ (enforcedLines canonical seen es).flatten) :
    (∃ e ∈ es, line = e.render) ∨ ∃ kind, line ∈ canonical kind := by
  induction es generalizing seen with
  | nil => contradiction
  | cons e es ih =>
    rw [enforcedLines] at h
    split at h
    · rcases List.mem_append.mp h with h | h
      · exact .inl ⟨e, List.mem_cons_self, List.mem_singleton.mp h⟩
      · exact (ih h).imp_left fun ⟨x, hx, hline⟩ => ⟨x, List.mem_cons_of_mem _ hx, hline⟩
    · next kind _ =>
      rcases List.mem_append.mp h with h | h
      · split at h
        · contradiction
        · exact .inr ⟨kind, h⟩
      · exact (ih h).imp_left fun ⟨x, hx, hline⟩ => ⟨x, List.mem_cons_of_mem _ hx, hline⟩

theorem length_enforcedLines (canonical : StyleKind → List Text) (seen : List StyleKind)
    (es : List Element) : (enforcedLines canonical seen es).length = es.length := by
  induction es generalizing seen with
  | nil => rfl
  | cons e es ih =>
    rw [enforcedLines]
    split <;> simp [ih]

theorem getElem?_enforcedLines_of_content {canonical : StyleKind → List Text}
    {seen : List StyleKind} {es : List Element} {i : Nat} {e : Element} (hi : es[i]? = some e)
    (he : e.styleKind? = none) : (enforcedLines canonical seen es)[i]? = some [e.render] := by
  induction es generalizing seen i with
  | nil => contradiction
  | cons x es ih =>
    cases i with
    | zero =>
      obtain rfl : x = e := Option.some.inj hi
      rw [enforcedLines, he]
      rfl
    | succ i =>
      rw [enforcedLines]
      split <;> exact ih hi

/-- The first style of a kind gets the canonical lines and the later ones get none. -/
theorem getElem?_enforcedLines_of_style {canonical : StyleKind → List Text}
    {seen : List StyleKind} {es : List Element} {i : Nat} {e : Element} {kind : StyleKind}
    (hi : es[i]? = some e) (he : e.styleKind? = some kind) :
    (enforcedLines canonical seen es)[i]? = some
      (if kind ∈ seen ∨ ∃ x ∈ es.take i, x.styleKind? = some kind then [] else canonical kind) := by
  induction es generalizing seen i with
  | nil => contradiction
  | cons x es ih =>
    cases i with
    | zero =>
      obtain rfl : x = e := Option.some.inj hi
      rw [enforcedLines, he]
      simp
    | succ i =>
      rw [enforcedLines]
      cases hx : x.styleKind? with
      | none => simpa [hx] using ih hi
      | some other =>
        have hseen : kind ∈ other :: seen ↔ other = kind ∨ kind ∈ seen := by
          rw [List.mem_cons, eq_comm]
        have hrest := @ih (other :: seen) i hi
        simpa [hx, hseen, or_assoc, or_left_comm] using hrest

theorem length_linesOf (style : Style) (es : List Element) :
    (style.linesOf es).length = es.length := by
  rw [Style.linesOf]
  split
  · exact length_enforcedLines _ _ _
  · exact List.length_map _

/-- A statement has its own line unless it is a style and styles are enforced. -/
theorem getElem?_linesOf_of_content {style : Style} {es : List Element} {i : Nat} {e : Element}
    (hi : es[i]? = some e) (he : style.enforce = true → e.isContent = true) :
    (style.linesOf es)[i]? = some [e.render] := by
  rw [Style.linesOf]
  split
  · next henforce =>
    exact getElem?_enforcedLines_of_content hi (Option.isNone_iff_eq_none.mp (he henforce))
  · rw [List.getElem?_map, hi, Option.map_some]

/-- The first style of a kind has the canonical lines and the later ones have none. -/
theorem getElem?_linesOf_of_style {style : Style} (henforce : style.enforce = true)
    {es : List Element} {i : Nat} {e : Element} {kind : StyleKind} (hi : es[i]? = some e)
    (he : e.styleKind? = some kind) : (style.linesOf es)[i]? = some
      (if ∃ x ∈ es.take i, x.styleKind? = some kind then [] else style.canonical es kind) := by
  rw [Style.linesOf, if_pos henforce, getElem?_enforcedLines_of_style hi he]
  simp

section
variable {style : Style} (hstyle : style.Unbroken) {es : List Element} (hes : ∀ e ∈ es, e.Neat)
  (hfree : ∀ e ∈ es, '\n' ∉ e.freeText)
include hstyle hes hfree

theorem flush_linesOf :
    ∀ line ∈ (style.linesOf es).flatten ++ style.closingLines es, line.Flush := by
  refine List.forall_mem_append.mpr ⟨fun line hline => ?_, fun line hline => ?_⟩
  · have hsource : (∃ e ∈ es, line = e.render) ∨ ∃ kind, line ∈ style.canonical es kind := by
      rw [Style.linesOf] at hline
      split at hline
      · exact mem_enforcedLines hline
      · exact .inl (by simpa using hline)
    rcases hsource with ⟨e, he, rfl⟩ | ⟨kind, hkind⟩
    · exact flush_render (hes e he) (hfree e he)
    · exact flush_canonical hstyle hes line hkind
  · rw [Style.closingLines] at hline
    split at hline
    · exact flush_canonical hstyle hes line hline
    · contradiction

end

/-! ## Whole diagrams -/

/-- A line with one unit of indentation for each level. -/
def Style.atLevel (style : Style) (levels : Int) (line : Text) : Text :=
  copies levels.toNat style.indentUnit ++ line

theorem finalDepth_eq_depthAt (es : List Element) : finalDepth 0 es = depthAt 0 es es.length := by
  rw [depthAt, List.take_length, List.getElem?_eq_none le_rfl]
  rfl

/-- A line at the depth of a position is at one level more than the nesting there. -/
theorem indented_depthAt (style : Style) (es : List Element) (i : Nat) :
    style.indented (depthAt 0 es i) = style.atLevel (1 + nestingAt es i) := by
  funext line
  have hlevels : (1 + nestingAt es i).toNat = depthAt 0 es i + 1 := by
    rw [nestingAt_eq_depthAt]
    omega
  rw [Style.atLevel, hlevels, Style.indented]

/-- The lines of a body, those of each element at its level. -/
theorem bodyLines_eq_atLevel (style : Style) (es : List Element) :
    style.bodyLines es =
      ((style.linesOf es).zipIdx.flatMap fun own =>
        own.1.map (style.atLevel (1 + nestingAt es own.2))) ++
      (style.closingLines es).map (style.atLevel (1 + nestingAt es es.length)) := by
  have hzip : (nesting 0 es).zip (style.linesOf es) =
      (style.linesOf es).zipIdx.map fun own => (depthAt 0 es own.2, own.1) := by
    refine (List.zip_of_prod ?_ ?_).symm
    · rw [nesting_eq_map, ← length_linesOf style, List.range_eq_range', ← List.zipIdx_map_snd,
        List.map_map, List.map_map]
      rfl
    · rw [List.map_map]
      exact List.zipIdx_map_fst 0 _
  rw [Style.bodyLines, finalDepth_eq_depthAt, hzip, List.flatMap_map]
  simp only [indented_depthAt]

theorem not_mem_atLevel {style : Style} (h : style.IndentsBlank) {line : Text} (hline : '\n' ∉ line)
    (levels : Int) : '\n' ∉ style.atLevel levels line := by
  have hcopies : '\n' ∉ copies levels.toNat style.indentUnit := fun hm => by
    rcases mem_copies h hm with hc | hc <;> contradiction
  exact List.not_mem_append hcopies hline

/-- The lines of a canonical text are the declaration and the lines of the body. -/
theorem lines_format {style : Style} (hstyle : style.Unbroken) {d : Diagram}
    (hes : ∀ e ∈ d.elements, e.Neat) (hfree : ∀ e ∈ d.elements, '\n' ∉ e.freeText) :
    lines (d.format style) = (d.declaration.getD {}).render :: style.bodyLines d.elements := by
  have hindent := (Style.valid_iff.mp hstyle.valid).1
  have hflush := flush_linesOf hstyle hes hfree
  rw [Diagram.format, hstyle.initBlock]
  refine lines_joined (List.cons_ne_nil _ _) (List.forall_mem_cons.mpr ⟨?_, fun line hline => ?_⟩)
  · exact (flush_render (e := .declaration (d.declaration.getD {})) trivial
      List.not_mem_nil).newline
  · rw [bodyLines_eq_atLevel, List.mem_append, List.mem_flatMap, List.mem_map] at hline
    rcases hline with ⟨⟨own, i⟩, hown, hline⟩ | ⟨l, hl, rfl⟩
    · obtain ⟨l, hl, rfl⟩ := List.mem_map.mp hline
      have hmem : own ∈ style.linesOf d.elements := List.fst_mem_of_mem_zipIdx hown
      exact not_mem_atLevel hindent
        (hflush l (List.mem_append_left _ (List.mem_flatten_of_mem hmem hl))).newline _
    · exact not_mem_atLevel hindent (hflush l (List.mem_append_right _ hl)).newline _

/-- A diagram whose canonical text is indented by nesting. -/
structure Diagram.IndentedByNesting (style : Style) (d : Diagram) : Prop where
  /-- Each statement has its lines, which may be none or several. -/
  owners : (style.linesOf d.elements).length = d.statements.length
  /-- A statement has one line, itself, unless it is a style and styles are enforced. -/
  content : ∀ (i : Nat) (e : Element), d.elements[i]? = some e →
    (style.enforce = true → e.isContent = true) → (style.linesOf d.elements)[i]? = some [e.render]
  /-- The first style of a kind has the canonical lines where styles are enforced, and the later
  ones have none. -/
  styles : style.enforce = true → ∀ (i : Nat) (e : Element) (kind : StyleKind),
    d.elements[i]? = some e → e.styleKind? = some kind → (style.linesOf d.elements)[i]? = some
      (if ∃ x ∈ d.elements.take i, x.styleKind? = some kind then []
      else style.canonical d.elements kind)
  /-- Under the declaration, the lines of each statement are at one level more than its nesting, and
  those that are put at the end at one more than the nesting after the last statement. -/
  levels : lines (d.format style) = (d.declaration.getD {}).render ::
    (((style.linesOf d.elements).zipIdx.flatMap fun own =>
        own.1.map (style.atLevel (1 + nestingAt d.elements own.2))) ++
      (style.closingLines d.elements).map
        (style.atLevel (1 + nestingAt d.elements d.elements.length)))
  /-- No blank is added to the indentation. -/
  flush : ∀ line ∈ (style.linesOf d.elements).flatten ++ style.closingLines d.elements, line.Flush
  /-- Ends without a start do not take a line below one level. -/
  base : ∀ i, 1 ≤ 1 + nestingAt d.elements i
  /-- A start is at the level of its end, and all between them is deeper. -/
  matching : ∀ i k, Matching d.elements i k → nestingAt d.elements k = nestingAt d.elements i ∧
    ∀ m, i < m → m < k → nestingAt d.elements i < nestingAt d.elements m

/-- Every text is laid out with the indentation that its nesting asks for. -/
theorem format_indents_by_nesting {style : Style} (hstyle : style.Unbroken) (t : Text) :
    (Diagram.parse t).IndentedByNesting style where
  owners := by rw [length_linesOf, Diagram.elements, List.length_map]
  content := fun _ _ => getElem?_linesOf_of_content
  styles := fun henforce _ _ _ => getElem?_linesOf_of_style henforce
  levels := by
    rw [lines_format hstyle (fun e he => (readFrom_of_mem_parse he).readable.neat)
      fun e he => (readFrom_of_mem_parse he).line, bodyLines_eq_atLevel]
  flush := flush_linesOf hstyle (fun e he => (readFrom_of_mem_parse he).readable.neat)
    fun e he => (readFrom_of_mem_parse he).line
  base := fun i => by
    have hpos : 0 ≤ nestingAt (Diagram.parse t).elements i := le_max_left _ _
    omega
  matching := fun i k h => by
    obtain ⟨hsame, hinside⟩ := h.depthAt_eq
    simp only [nestingAt_eq_depthAt, hsame, true_and]
    exact fun m him hmk => Int.ofNat_lt.mpr (hinside m him hmk)

/-- Ends without a start, before a subgraph and after it, leave the nesting as it is, and only what
is in the subgraph is one level deeper. -/
theorem format_indents_by_nesting_unmatched :
    let t := "end\nsubgraph a\nclassDef x y\nA --> B\nend\nend\nC".toList
    Style.default.Unbroken ∧ (Diagram.parse t).IndentedByNesting .default ∧
      Matching (Diagram.parse t).elements 1 4 ∧
      (List.range 8).map (nestingAt (Diagram.parse t).elements) = [0, 0, 1, 1, 0, 0, 0, 0] ∧
      nestingAt (Diagram.parse t).elements 1 < nestingAt (Diagram.parse t).elements 2 := by
  intro t
  have hstyle : Style.default.Unbroken := ⟨rfl, rfl, by decide +kernel, by decide +kernel⟩
  have helements : (Diagram.parse t).elements = [.subgraphEnd, .subgraphStart ['a'] none,
      .classDef ['x'] ['y'], .connection ⟨['A'], ['B'], .solid, none⟩, .subgraphEnd, .subgraphEnd,
      .node ⟨['C'], none, .rectangle⟩] := by decide +kernel
  have hinside : ∀ m ≤ 4, countBetween Element.isEnd (Diagram.parse t).elements 2 m ≤
      countBetween Element.isStart (Diagram.parse t).elements 2 m := by
    rw [helements]
    decide
  have hmatching : Matching (Diagram.parse t).elements 1 4 := by
    refine ⟨⟨['a'], none, ?_⟩, ?_, by decide, ?_, fun m _ => hinside m⟩ <;> rw [helements] <;> rfl
  have hindented := format_indents_by_nesting hstyle t
  refine ⟨hstyle, hindented, hmatching, ?_, ?_⟩
  · rw [helements]
    decide +kernel
  · exact (hindented.matching 1 4 hmatching).2 2 (by decide) (by decide)

end FlowTidy
