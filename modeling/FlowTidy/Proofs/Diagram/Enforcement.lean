import FlowTidy.Proofs.Diagram.Reading
import FlowTidy.Proofs.Order

/-!
Enforced styling as a rewriting of elements (`enforced`): the first element of each style kind is
replaced by the canonical ones and later ones are dropped. Elements that are not styles are kept in
order (`content_enforced`), and enforcing the styling of what was enforced changes nothing, also
when it was read again in between (`enforced_map_enforced`).
-/

namespace FlowTidy

open Text

/-- Whether an element is one that enforced styling leaves alone. -/
def Element.isContent (e : Element) : Bool := e.styleKind?.isNone

/-! ## Replacing styles -/

/-- Some elements with the first of each style kind replaced by `canonical` and later ones dropped.
`seen` holds the kinds that were replaced before. -/
def enforced (canonical : StyleKind → List Element) :
    (seen : List StyleKind) → List Element → List Element
  | _, [] => []
  | seen, e :: es =>
    match e.styleKind? with
    | none => e :: enforced canonical seen es
    | some kind =>
      (if kind ∈ seen then [] else canonical kind) ++ enforced canonical (kind :: seen) es

section
variable {canonical : StyleKind → List Element} {seen : List StyleKind} {e : Element}
  {es : List Element}

theorem enforced_of_none (h : e.styleKind? = none) :
    enforced canonical seen (e :: es) = e :: enforced canonical seen es := by
  rw [enforced, h]

theorem enforced_of_some {kind : StyleKind} (h : e.styleKind? = some kind) :
    enforced canonical seen (e :: es) =
      (if kind ∈ seen then [] else canonical kind) ++ enforced canonical (kind :: seen) es := by
  rw [enforced, h]

/-- What comes first decides which kinds are replaced later. -/
theorem enforced_append (xs ys : List Element) :
    enforced canonical seen (xs ++ ys) = enforced canonical seen xs ++
      enforced canonical ((xs.filterMap Element.styleKind?).reverse ++ seen) ys := by
  induction xs generalizing seen with
  | nil => rfl
  | cons x xs ih =>
    cases hx : x.styleKind? with
    | none =>
      rw [List.cons_append, enforced_of_none hx, enforced_of_none hx, ih,
        List.filterMap_cons_none hx, List.cons_append]
    | some kind =>
      rw [List.cons_append, enforced_of_some hx, enforced_of_some hx, ih,
        List.filterMap_cons_some hx, List.append_assoc, List.reverse_cons, List.append_assoc,
        List.singleton_append]

/-- Enforced styling leaves content and canonical elements, and nothing else. -/
theorem mem_enforced (h : e ∈ enforced canonical seen es) :
    (e ∈ es ∧ e.isContent = true) ∨ ∃ kind, e ∈ canonical kind := by
  induction es generalizing seen with
  | nil => contradiction
  | cons x es ih =>
    cases hx : x.styleKind? with
    | none =>
      rw [enforced_of_none hx] at h
      rcases List.mem_cons.mp h with rfl | h
      · exact .inl ⟨List.mem_cons_self, by rw [Element.isContent, hx]; rfl⟩
      · exact (ih h).imp_left fun ⟨hmem, hcontent⟩ => ⟨List.mem_cons_of_mem _ hmem, hcontent⟩
    | some kind =>
      rw [enforced_of_some hx] at h
      rcases List.mem_append.mp h with h | h
      · split at h
        · contradiction
        · exact .inr ⟨kind, h⟩
      · exact (ih h).imp_left fun ⟨hmem, hcontent⟩ => ⟨List.mem_cons_of_mem _ hmem, hcontent⟩

variable (hcanonical : ∀ kind, ∀ e ∈ canonical kind, e.styleKind? = some kind)
include hcanonical

/-- Enforced styling keeps all that is not a style, in order. -/
theorem content_enforced :
    (enforced canonical seen es).filter Element.isContent = es.filter Element.isContent := by
  have hkind : ∀ kind, (canonical kind).filter Element.isContent = [] := by
    intro kind
    rw [List.filter_eq_nil_iff]
    intro e he
    rw [Element.isContent, hcanonical kind e he]
    simp
  induction es generalizing seen with
  | nil => rfl
  | cons x es ih =>
    cases hx : x.styleKind? with
    | none =>
      have hcontent : x.isContent = true := by rw [Element.isContent, hx]; rfl
      rw [enforced_of_none hx, List.filter_cons_of_pos hcontent,
        List.filter_cons_of_pos hcontent, ih]
    | some kind =>
      have hcontent : ¬ x.isContent = true := by rw [Element.isContent, hx]; simp
      rw [enforced_of_some hx, List.filter_append, ih, List.filter_cons_of_neg hcontent]
      split
      · rfl
      · rw [hkind, List.nil_append]

omit hcanonical in
theorem enforced_of_seen {kind : StyleKind} (hkind : kind ∈ seen)
    (h : ∀ e ∈ es, e.styleKind? = some kind) : enforced canonical seen es = [] := by
  induction es generalizing seen with
  | nil => rfl
  | cons x es ih =>
    rw [enforced_of_some (h x List.mem_cons_self), if_pos hkind, List.nil_append]
    exact ih (List.mem_cons_of_mem _ hkind) fun e he => h e (List.mem_cons_of_mem _ he)

theorem enforced_canonical {kind : StyleKind} (hkind : kind ∉ seen) :
    enforced canonical seen (canonical kind) = canonical kind := by
  have hall := hcanonical kind
  cases hk : canonical kind with
  | nil => rfl
  | cons x xs =>
    rw [hk] at hall
    rw [enforced_of_some (hall x List.mem_cons_self), if_neg hkind, hk,
      enforced_of_seen List.mem_cons_self fun e he => hall e (List.mem_cons_of_mem _ he),
      List.append_nil]

theorem filter_styleKind_canonical (other kind : StyleKind) :
    (canonical other).filter (fun e => e.styleKind? = some kind) =
      if other = kind then canonical other else [] := by
  split
  · next hkind =>
    rw [List.filter_eq_self]
    intro e he
    rw [hcanonical other e he, hkind, decide_eq_true rfl]
  · next hkind =>
    rw [List.filter_eq_nil_iff]
    intro e he
    rw [hcanonical other e he]
    simpa using hkind

/-- Of each kind that a body has, the canonical styles are written and nothing else. -/
theorem filter_styleKind_enforced (kind : StyleKind) :
    (enforced canonical seen es).filter (fun e => e.styleKind? = some kind) =
      if kind ∉ seen ∧ ∃ e ∈ es, e.styleKind? = some kind then canonical kind else [] := by
  induction es generalizing seen with
  | nil => simp [enforced]
  | cons x es ih =>
    cases hx : x.styleKind? with
    | none =>
      rw [enforced_of_none hx, List.filter_cons_of_neg (by simp [hx]), ih]
      simp [hx]
    | some other =>
      rw [enforced_of_some hx, List.filter_append, ih]
      by_cases hkind : other = kind
      · subst hkind
        by_cases hseen : other ∈ seen
        · simp [hseen]
        · simp [hseen, hx, filter_styleKind_canonical hcanonical]
      · have hne : kind ≠ other := Ne.symm hkind
        by_cases hseen : other ∈ seen
        · simp [hseen, hx, hkind, hne]
        · simp [hseen, hx, hkind, hne, filter_styleKind_canonical hcanonical]

/-- Enforcing a second time changes nothing, even if what is not a style was changed in between.
Kinds without canonical elements are not seen the second time. -/
theorem enforced_map_enforced {f : Element → Element}
    (hf : ∀ e, e.styleKind? = none → (f e).styleKind? = none)
    (hfixed : ∀ kind, (canonical kind).map f = canonical kind) {seen' : List StyleKind}
    (hseen : ∀ kind, kind ∈ seen' ↔ kind ∈ seen ∧ canonical kind ≠ []) :
    enforced canonical seen' ((enforced canonical seen es).map f) =
      (enforced canonical seen es).map f := by
  induction es generalizing seen seen' with
  | nil => rfl
  | cons x es ih =>
    cases hx : x.styleKind? with
    | none => rw [enforced_of_none hx, List.map_cons, enforced_of_none (hf x hx), ih hseen]
    | some kind =>
      rw [enforced_of_some hx, List.map_append]
      by_cases hmem : kind ∈ seen
      · rw [if_pos hmem, List.map_nil, List.nil_append]
        refine ih fun k => ?_
        rw [hseen, List.mem_cons]
        exact and_congr_left fun _ =>
          ⟨.inr, fun h => h.elim (fun hk => hk ▸ hmem) id⟩
      · have hmem' : kind ∉ seen' := fun h => hmem ((hseen kind).mp h).1
        rw [if_neg hmem, hfixed, enforced_append, enforced_canonical hcanonical hmem']
        refine congrArg (canonical kind ++ ·) (ih fun k => ?_)
        have hkinds : k ∈ (canonical kind).filterMap Element.styleKind? ↔
            k = kind ∧ canonical kind ≠ [] := by
          rw [List.mem_filterMap]
          constructor
          · rintro ⟨e, he, hek⟩
            rw [hcanonical kind e he] at hek
            exact ⟨(Option.some.inj hek).symm, List.ne_nil_of_mem he⟩
          · rintro ⟨rfl, hne⟩
            obtain ⟨e, he⟩ := List.exists_mem_of_ne_nil _ hne
            exact ⟨e, he, hcanonical k e he⟩
        rw [List.mem_append, List.mem_reverse, hkinds, hseen, List.mem_cons, or_and_right]
        refine or_congr_left ⟨?_, ?_⟩
        · rintro ⟨rfl, hne⟩
          exact ⟨rfl, hne⟩
        · rintro ⟨rfl, hne⟩
          exact ⟨rfl, hne⟩

end

/-! ## Canonical styles -/

/-- The elements whose lines are the canonical ones of each kind. -/
def Style.canonicalElements (style : Style) (es : List Element) : StyleKind → List Element
  | .classDef =>
    [.classDef style.contentClass style.contentProperties,
      .classDef style.workflowClass style.workflowProperties]
  | .classUse =>
    let classes := NodeClasses.of es
    [(classes.content, style.contentClass), (classes.workflow, style.workflowClass)].filterMap
      fun (ids, className) => if ids = [] then none else some (.classUse ids className)
  | .linkStyle =>
    let connections := es.filterMap Element.connection?
    [(LinkCategory.main, style.mainLink), (.workflow, style.workflowLink),
        (.crossReference, style.crossReferenceLink)].filterMap fun (category, properties) =>
      let positions := linkPositions category connections
      if positions = [] then none else some (.linkStyle positions (properties ++ [';']))

/-- The properties that enforced styling gives to classes. -/
def classTexts : List Text := [Style.default.contentProperties, Style.default.workflowProperties]

/-- The properties that enforced styling gives to connections. -/
def linkTexts : List Text :=
  [Style.default.mainLink, Style.default.workflowLink, Style.default.crossReferenceLink]

/-- What enforced styling can write for a body with the elements `es`. -/
inductive IsCanonical (es : List Element) : StyleKind → Element → Prop
  | classDef {name properties : Text} (hname : name.IsIdent)
      (hproperties : properties ∈ classTexts) : IsCanonical es .classDef (.classDef name properties)
  | classUse {ids : List Text} {name : Text} (hne : ids ≠ [])
      (hids : ∀ id ∈ ids, ∃ e ∈ es, id ∈ e.nodeIds) (hname : name.IsIdent) :
      IsCanonical es .classUse (.classUse ids name)
  | linkStyle {positions : List Nat} {properties : Text} (hne : positions ≠ [])
      (hlt : ∀ i ∈ positions, i < (es.filterMap Element.connection?).length)
      (hproperties : properties ∈ linkTexts) :
      IsCanonical es .linkStyle (.linkStyle positions (properties ++ [';']))

theorem exists_nodeIds_of_mem_classes {es : List Element} {id : Text}
    (h : id ∈ (NodeClasses.of es).content ∨ id ∈ (NodeClasses.of es).workflow) :
    ∃ e ∈ es, id ∈ e.nodeIds := by
  have hknown : id ∈ es.flatMap Element.nodeIds := by
    rcases h with h | h
    · exact List.mem_of_mem_filter (List.mem_of_mem_filter (mem_sorted.mp h))
    · exact List.mem_of_mem_filter (List.mem_of_mem_filter (mem_sorted.mp h))
  exact List.mem_flatMap.mp hknown

theorem Element.Neat.isIdent_of_mem_nodeIds {e : Element} (h : e.Neat) {id : Text}
    (hid : id ∈ e.nodeIds) : id.IsIdent := by
  cases e with
  | node n =>
    obtain rfl := List.mem_singleton.mp hid
    exact h
  | connection c =>
    rcases List.mem_cons.mp hid with rfl | hid
    · exact h.1
    · obtain rfl := List.mem_singleton.mp hid
      exact h.2
  | _ => contradiction

theorem lt_of_mem_linkPositions {category : LinkCategory} {connections : List Connection} {i : Nat}
    (h : i ∈ linkPositions category connections) : i < connections.length := by
  obtain ⟨⟨c, j⟩, hc, rfl⟩ := List.mem_map.mp h
  have hmem := List.mem_of_mem_filter hc
  have := List.snd_lt_of_mem_zipIdx hmem
  simpa using this

/-- What a standard style puts in has one of the three canonical forms. -/
theorem isCanonical_of_mem {style : Style} (hstyle : style.Standard) {es : List Element}
    {kind : StyleKind} {e : Element} (h : e ∈ style.canonicalElements es kind) :
    IsCanonical es kind e := by
  cases kind with
  | classDef =>
    have hcontent : style.contentProperties ∈ classTexts := by
      rw [hstyle.contentProperties]; exact List.mem_cons_self
    have hworkflow : style.workflowProperties ∈ classTexts := by
      rw [hstyle.workflowProperties]; exact List.mem_cons_of_mem _ List.mem_cons_self
    rcases List.mem_cons.mp h with rfl | h
    · exact .classDef hstyle.contentClass hcontent
    · obtain rfl := List.mem_singleton.mp h
      exact .classDef hstyle.workflowClass hworkflow
  | classUse =>
    obtain ⟨⟨ids, name⟩, hpair, hsome⟩ := List.mem_filterMap.mp h
    dsimp only at hsome
    split at hsome
    · contradiction
    · next hne =>
      obtain rfl := Option.some.inj hsome
      rcases List.mem_cons.mp hpair with heq | hpair
      · obtain ⟨rfl, rfl⟩ := Prod.mk.inj heq
        exact .classUse hne (fun id hid => exists_nodeIds_of_mem_classes (.inl hid))
          hstyle.contentClass
      · obtain ⟨rfl, rfl⟩ := Prod.mk.inj (List.mem_singleton.mp hpair)
        exact .classUse hne (fun id hid => exists_nodeIds_of_mem_classes (.inr hid))
          hstyle.workflowClass
  | linkStyle =>
    obtain ⟨⟨category, properties⟩, hpair, hsome⟩ := List.mem_filterMap.mp h
    have hproperties : properties ∈ linkTexts := by
      rw [linkTexts, ← hstyle.mainLink, ← hstyle.workflowLink, ← hstyle.crossReferenceLink]
      exact List.mem_map_of_mem (f := Prod.snd) hpair
    dsimp only at hsome
    split at hsome
    · contradiction
    · next hne =>
      obtain rfl := Option.some.inj hsome
      exact .linkStyle hne (fun i hi => lt_of_mem_linkPositions hi) hproperties

/-- What is the same for all default properties. -/
theorem defaultTexts {p : Text} (h : p ∈ classTexts ++ linkTexts) :
    p ≠ [] ∧ trim p = p ∧ p.getLast? ≠ some ';' ∧ p.head? ≠ some ',' ∧ '\n' ∉ p ∧ '{' ∉ p ∧
      '`' ∉ p := by
  have hall : ∀ p ∈ classTexts ++ linkTexts, p ≠ [] ∧ trim p = p ∧ p.getLast? ≠ some ';' ∧
      p.head? ≠ some ',' ∧ '\n' ∉ p ∧ '{' ∉ p ∧ '`' ∉ p := by decide +kernel
  exact hall p h

namespace IsCanonical

variable {es : List Element} {kind : StyleKind} {e : Element} (h : IsCanonical es kind e)
include h

theorem styleKind? : e.styleKind? = some kind := by cases h <;> rfl

theorem declaration? : e.declaration? = none := by cases h <;> rfl

/-- Properties with a semicolon after them are trimmed as they are without it. -/
theorem neat (hes : ∀ x ∈ es, x.Neat) : e.Neat := by
  cases h with
  | classDef hname => exact hname
  | classUse hne hids hname =>
    refine ⟨fun id hid => ?_, hname⟩
    obtain ⟨x, hx, hmem⟩ := hids id hid
    exact (hes x hx).isIdent_of_mem_nodeIds hmem
  | linkStyle hne hlt hproperties =>
    obtain ⟨hpne, htrim, -⟩ := defaultTexts (List.mem_append_right _ hproperties)
    exact ⟨by simp, trim_append_mark hpne (trim_eq_self_iff.mp htrim).1 rfl⟩

/-- The canonical styles hold no character that ends a line, opens an init block or closes a
fence. -/
theorem free : '\n' ∉ e.freeText ∧ '{' ∉ e.freeText ∧ '`' ∉ e.freeText := by
  cases h with
  | classDef hname hproperties =>
    obtain ⟨-, -, -, -, hfree⟩ := defaultTexts (List.mem_append_left _ hproperties)
    exact hfree
  | classUse => simp [Element.freeText]
  | linkStyle hne hlt hproperties =>
    obtain ⟨-, -, -, -, hnewline, hbrace, hquote⟩ :=
      defaultTexts (List.mem_append_right _ hproperties)
    simp [Element.freeText, hnewline, hbrace, hquote]

/-- The canonical styles are readable if positions are not too large to be read. -/
theorem readable (hes : ∀ x ∈ es, x.Neat)
    (hsize : kind = .linkStyle → (es.filterMap Element.connection?).length ≤ Nat.pow 2 64) :
    e.Readable := by
  have hneat := h.neat hes
  cases h with
  | classDef hname hproperties =>
    obtain ⟨hne, htrim, -⟩ := defaultTexts (List.mem_append_left _ hproperties)
    exact ⟨hname, hne, htrim⟩
  | classUse hne hids hname => exact ⟨hne, hneat⟩
  | @linkStyle positions properties hne hlt hproperties =>
    obtain ⟨hpne, htrim, -, hcomma, -⟩ := defaultTexts (List.mem_append_right _ hproperties)
    refine ⟨fun i hi => Nat.lt_of_lt_of_le (hlt i hi) (hsize rfl), hneat.1, hneat.2, fun _ => ?_⟩
    refine Scanner.afterComma_of_head ((trim_eq_self_iff.mp htrim).1.append hpne) ?_
    rwa [List.head?_append_of_ne_nil _ hpne]

/-- The canonical styles read back as they are. -/
theorem reread : e.reread = e := by
  cases h with
  | @classDef name properties hname hproperties =>
    obtain ⟨hne, htrim, hlast, -⟩ := defaultTexts (List.mem_append_left _ hproperties)
    have hend : trimEnd properties = properties :=
      dropEnd_eq_self_iff.mpr (trim_eq_self_iff.mp htrim).2
    rw [Element.reread, dropEnd_of_getLast?_ne hlast, if_neg hne, hend]
  | classUse | linkStyle => rfl

end IsCanonical

end FlowTidy
