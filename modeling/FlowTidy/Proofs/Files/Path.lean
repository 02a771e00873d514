import FlowTidy.Files.Path
import FlowTidy.Proofs.Text.Basic
import FlowTidy.Proofs.Order

/-!
Paths by their components. A name that is joined to a path is one more component of it
(`components_join`), and its extension decides whether the path names a document (`isMarkdown_iff`).
The order of components is strict and total, so sorting gives paths with strictly increasing
components (`ascending_sorted`) and loses none of them (`mem_map_components_sorted`).
-/

namespace FlowTidy

open Text

/-! ## The order of components -/

namespace Component

instance : IsStrictTotalOrder Component fun a b => before a b = true where
  irrefl a := by
    cases a with
    | name t => exact irrefl_of (fun s t => Text.before s t = true) t
    | _ => exact Bool.false_ne_true
  trans a b c hab hbc := by
    cases a <;> cases b <;> cases c <;> try simp_all [before, rank]
    exact trans_of (fun s t => Text.before s t = true) hab hbc
  trichotomous a b hab hba := by
    cases a <;> cases b <;> simp_all [before, rank]
    next s t =>
      rcases trichotomous_of (fun s t => Text.before s t = true) s t with h | h | h
      · simp [h] at hab
      · exact h
      · simp [h] at hba

instance : IsStrictTotalOrder (List Component) fun as bs => listBefore as bs = true :=
  isStrictTotalOrder_lexBefore

theorem listBefore_irrefl (as : List Component) : listBefore as as = false :=
  Bool.eq_false_iff.mpr (irrefl_of (fun as bs => listBefore as bs = true) as)

/-- Lists of components in strictly increasing order. -/
def Ascending (lists : List (List Component)) : Prop :=
  lists.Pairwise fun as bs => listBefore as bs = true

/-- There is one strictly increasing list with given members. -/
theorem Ascending.eq_of_mem_iff {lists lists' : List (List Component)} (h : Ascending lists)
    (h' : Ascending lists') (hmem : ∀ as, as ∈ lists ↔ as ∈ lists') : lists = lists' := by
  have hnodup : ∀ {lists : List (List Component)}, Ascending lists → lists.Nodup := fun h => by
    have hmap := nodup_map_of_pairwise listBefore id h
    rwa [List.map_id] at hmap
  exact eq_of_perm_of_pairwise listBefore id
    ((List.perm_ext_iff_of_nodup (hnodup h) (hnodup h')).mpr hmem) h h'

end Component

namespace Path

/-! ## Joining -/

/-- A name that a directory can have an entry by. -/
structure IsName (name : Text) : Prop where
  ne_nil : name ≠ []
  slash : '/' ∉ name
  dot : name ≠ ['.']
  dots : name ≠ ['.', '.']

instance (name : Text) : Decidable (IsName name) :=
  decidable_of_iff (name ≠ [] ∧ '/' ∉ name ∧ name ≠ ['.'] ∧ name ≠ ['.', '.'])
    ⟨fun ⟨hne, hslash, hdot, hdots⟩ => ⟨hne, hslash, hdot, hdots⟩,
      fun h => ⟨h.ne_nil, h.slash, h.dot, h.dots⟩⟩

theorem segments_append_cons (a b : Text) :
    segments (a ++ '/' :: b) = segments a ++ segments b := by
  rw [segments, List.splitOn, List.splitOnP_append_cons a b (by rfl), List.filter_append]
  rfl

theorem segments_append_replicate (t : Text) (n : Nat) :
    segments (t ++ List.replicate n '/') = segments t := by
  induction n with
  | zero => rw [List.replicate_zero, List.append_nil]
  | succ n ih =>
    rw [List.replicate_succ', ← List.append_assoc, segments_append_cons, ih]
    exact List.append_nil _

theorem endsInSlash_append_replicate (t : Text) (n : Nat) :
    endsInSlash (t ++ List.replicate (n + 1) '/') = true := by
  rw [endsInSlash, List.replicate_succ', ← List.append_assoc, List.getLast?_concat]
  rfl

section
variable {directory name : Text}

theorem IsName.segments (h : IsName name) : Path.segments name = [name] := by
  rw [Path.segments, List.splitOn_eq_singleton h.slash]
  simp [h.ne_nil]

theorem segments_join (h : IsName name) :
    segments (join directory name) = segments directory ++ [name] := by
  rw [join]
  split
  · next hdirectory =>
    rcases hdirectory with rfl | hslash
    · exact h.segments
    · obtain ⟨front, rfl⟩ := List.getLast?_eq_some_iff.mp (of_decide_eq_true hslash)
      have hfront : segments (front ++ ['/']) = segments front := by
        rw [segments_append_cons]
        exact List.append_nil _
      rw [List.append_assoc, List.singleton_append, segments_append_cons, h.segments, hfront]
  · rw [segments_append_cons, h.segments]

theorem isAbsolute_join (h : IsName name) :
    isAbsolute (join directory name) = isAbsolute directory := by
  cases directory with
  | nil =>
    have hhead : name.head? ≠ some '/' := fun hhead => h.slash (List.mem_of_head? hhead)
    simpa [isAbsolute, join] using hhead
  | cons c directory =>
    rw [join]
    split <;> rfl

/-- A name that is joined to a path is one more component. -/
theorem components_join (h : IsName name) :
    components (join directory name) = components directory ++ [.name name] := by
  have hname : component? name = some (.name name) := by
    rw [component?, if_neg h.dot, if_neg h.dots]
  rw [components, components, isAbsolute_join h, segments_join h]
  split
  · simp [hname]
  · cases segments directory with
    | nil =>
      rw [List.nil_append]
      split
      · next heq => exact absurd (List.cons.inj heq).1 h.dot
      · simp [hname]
    | cons first more =>
      by_cases hfirst : first = ['.']
      · simp [hfirst, hname]
      · rw [List.cons_append]
        split
        · next heq => exact absurd (List.cons.inj heq).1 hfirst
        · split
          · next heq => exact absurd (List.cons.inj heq).1 hfirst
          · rw [← List.cons_append, List.filterMap_append]
            simp [hname]

theorem fileName?_join (h : IsName name) : fileName? (join directory name) = some name := by
  rw [fileName?, components_join h, List.getLast?_concat]

end

/-! ## Documents -/

/-- A name with the extension of a Markdown document, after a dot that is not its first
character. -/
def IsDocumentName (name : Text) : Prop :=
  ∃ stem extension, name = stem ++ '.' :: extension ∧ stem ≠ [] ∧ '.' ∉ extension ∧
    (sameLetters extension ['m', 'd'] = true ∨
      sameLetters extension ['m', 'a', 'r', 'k', 'd', 'o', 'w', 'n'] = true)

/-- The extension of a name follows its last dot, which is not the first character. -/
theorem extension?_eq_some_iff {name extension : Text} : extension? name = some extension ↔
    ∃ stem, name = stem ++ '.' :: extension ∧ stem ≠ [] ∧ '.' ∉ extension := by
  rw [extension?]
  constructor
  · intro h
    have hsplit : name.reverse.takeWhile (· ≠ '.') ++ name.reverse.dropWhile (· ≠ '.') =
        name.reverse :=
      List.takeWhile_append_dropWhile
    have hstops := stops_dropWhile (· ≠ '.') name.reverse
    split at h
    · contradiction
    · contradiction
    · next hnil hdot =>
      obtain ⟨c, front, hfront⟩ := List.exists_cons_of_ne_nil hnil
      rw [hfront] at hsplit hstops hdot
      obtain rfl : c = '.' := by simpa using hstops
      obtain rfl := Option.some.inj h
      refine ⟨front.reverse, ?_, fun hempty => ?_, fun hmem => ?_⟩
      · have hname := congrArg List.reverse hsplit
        rw [List.reverse_reverse, List.reverse_append, List.reverse_cons, List.append_assoc]
          at hname
        exact hname.symm
      · exact hdot (by rw [List.reverse_eq_nil_iff.mp hempty])
      · simpa using mem_takeWhile (List.mem_reverse.mp hmem)
  · rintro ⟨stem, rfl, hstem, hextension⟩
    have hreverse : (stem ++ '.' :: extension).reverse =
        extension.reverse ++ '.' :: stem.reverse := by simp
    have hrun : ∀ c ∈ extension.reverse, decide (c ≠ '.') = true := by
      intro c hc
      rw [decide_eq_true_eq]
      rintro rfl
      exact hextension (List.mem_reverse.mp hc)
    rw [hreverse, dropWhile_append hrun (stops_cons.mpr rfl),
      takeWhile_append hrun (stops_cons.mpr rfl), List.reverse_reverse]
    split
    · contradiction
    · next heq => exact absurd (List.reverse_eq_nil_iff.mp (List.cons.inj heq).2) hstem
    · rfl

/-- A path names a document just if its last component is the name of one. -/
theorem isMarkdown_iff {path : Text} :
    isMarkdown path = true ↔ ∃ name, fileName? path = some name ∧ IsDocumentName name := by
  have hname : ∀ {name : Text}, IsDocumentName name ↔
      ∃ extension, extension? name = some extension ∧
        (sameLetters extension ['m', 'd'] = true ∨
          sameLetters extension ['m', 'a', 'r', 'k', 'd', 'o', 'w', 'n'] = true) := by
    intro name
    simp only [IsDocumentName, extension?_eq_some_iff]
    constructor
    · rintro ⟨stem, extension, hname, hstem, hdot, hletters⟩
      exact ⟨extension, ⟨stem, hname, hstem, hdot⟩, hletters⟩
    · rintro ⟨extension, ⟨stem, hname, hstem, hdot⟩, hletters⟩
      exact ⟨stem, extension, hname, hstem, hdot, hletters⟩
  simp only [hname]
  rw [isMarkdown]
  cases fileName? path with
  | none => simp
  | some name =>
    cases hextension : extension? name with
    | none => simp [hextension]
    | some extension => simp [hextension]

/-! ## Sorting -/

/-- Sorting puts the components of paths in strictly increasing order. -/
theorem ascending_sorted (ps : List Text) : Component.Ascending ((sorted ps).map components) :=
  List.pairwise_map.mpr (pairwise_sortBy Component.listBefore components ps)

theorem mem_of_mem_sorted {ps : List Text} : ∀ p ∈ sorted ps, p ∈ ps := mem_of_mem_sortBy

/-- Sorting keeps a path for each list of components that there is. -/
theorem mem_map_components_sorted {ps : List Text} {cs : List Component} :
    cs ∈ (sorted ps).map components ↔ cs ∈ ps.map components :=
  mem_map_sortBy Component.listBefore components

end Path

end FlowTidy
