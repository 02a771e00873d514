import FlowTidy.Proofs.Files.Collect
import Mathlib.Data.List.Pairwise

/-!
Files that are named by more than one path. Where a path leads is decided by its components
(`leadsTo_of_follow`): names lead down, and two dots lead up. Of the paths with the same components
only one is collected, but different components may lead to the same file, with a dot at the
beginning and without. No file is named twice just if an argument that lies below another one is
spelled as that one with the names between them (`pairwise_collect_iff`). Without two dots, only a
dot at the beginning can make a difference (`pairwise_collect_plain`).
-/

namespace FlowTidy

namespace Component

/-- The place that a component leads to. -/
def lead (place : List Text) : Component → List Text
  | root => []
  | here => place
  | parent => place.dropLast
  | name text => place ++ [text]

theorem foldl_lead_names (place names : List Text) :
    (names.map Component.name).foldl lead place = place ++ names := by
  induction names generalizing place with
  | nil => exact (List.append_nil place).symm
  | cons name names ih =>
    rw [List.map_cons, List.foldl_cons, ih, lead, List.append_assoc]
    rfl

end Component

namespace Path

/-- The dot that a path begins with, if it does. -/
def dot (path : Text) : List Component :=
  if (components path).head? = some .here then [.here] else []

theorem dot_eq_nil_or (path : Text) : dot path = [] ∨ dot path = [.here] := by
  rw [dot]
  split
  · exact .inr rfl
  · exact .inl rfl

/-- A path from the working directory down. -/
structure IsPlain (path : Text) : Prop where
  relative : isAbsolute path = false
  parent : .parent ∉ components path

instance (path : Text) : Decidable (IsPlain path) :=
  decidable_of_iff (isAbsolute path = false ∧ .parent ∉ components path)
    ⟨fun ⟨hrelative, hparent⟩ => ⟨hrelative, hparent⟩, fun h => ⟨h.relative, h.parent⟩⟩

/-- Segments other than two dots are names, or none. -/
theorem exists_names_of_segments {segments : List Text}
    (h : .parent ∉ segments.filterMap component?) :
    ∃ names : List Text, segments.filterMap component? = names.map .name := by
  induction segments with
  | nil => exact ⟨[], rfl⟩
  | cons segment segments ih =>
    rw [List.filterMap_cons] at h ⊢
    cases hsegment : component? segment with
    | none =>
      rw [hsegment] at h
      exact ih h
    | some c =>
      simp only [hsegment, List.mem_cons, not_or] at h
      obtain ⟨names, hnames⟩ := ih h.2
      refine ⟨segment :: names, ?_⟩
      rw [component?] at hsegment
      split at hsegment
      · contradiction
      · split at hsegment
        · exact absurd (Option.some.inj hsegment) h.1
        · rw [hnames, ← Option.some.inj hsegment]
          rfl

/-- A path from the working directory down is a dot, or none, and names. -/
theorem IsPlain.components {path : Text} (h : IsPlain path) :
    ∃ names : List Text, Path.components path = dot path ++ names.map .name := by
  have hparent := h.parent
  rw [dot]
  rw [Path.components, h.relative, if_neg Bool.false_ne_true] at hparent ⊢
  split at hparent
  · next more =>
    obtain ⟨names, hnames⟩ := exists_names_of_segments fun hmem =>
      hparent (List.mem_cons_of_mem _ hmem)
    exact ⟨names, by rw [hnames]; rfl⟩
  · obtain ⟨names, hnames⟩ := exists_names_of_segments hparent
    refine ⟨names, ?_⟩
    rw [hnames]
    cases names <;> rfl

end Path

namespace Files

open FlowTidy.Tree FlowTidy.Path

/-- The place that components lead to from the working directory. -/
def leadsTo (fs : Files) (cs : List Component) : List Text := cs.foldl Component.lead fs.workingDir

/-- Two paths lead to the same file. -/
def SameFile (fs : Files) (p q : Text) : Prop :=
  fs.leadsTo (components p) = fs.leadsTo (components q) ∧
    ∃ content, fs.root.viewAt? (fs.leadsTo (components p)) = some (.file content)

theorem SameFile.symm {fs : Files} {p q : Text} (h : fs.SameFile p q) : fs.SameFile q p := by
  obtain ⟨hplace, content, hview⟩ := h
  exact ⟨hplace.symm, content, hplace ▸ hview⟩

/-- A document that is found from two arguments: it is some names below the inner one, which lies as
many names below the outer one as there are in the middle. -/
structure Shares (fs : Files) (outer inner : Text) (middle names : List Text) : Prop where
  place : fs.leadsTo (components inner) = fs.leadsTo (components outer) ++ middle
  fromOuter : fs.Finds outer (components outer ++ (middle ++ names).map .name)
  fromInner : fs.Finds inner (components inner ++ names.map .name)
  file : ∃ content, fs.root.viewAt? (fs.leadsTo (components inner) ++ names) = some (.file content)

/-! ## Where paths lead -/

theorem leadsTo_append_names (fs : Files) (cs : List Component) (names : List Text) :
    fs.leadsTo (cs ++ names.map .name) = fs.leadsTo cs ++ names := by
  rw [leadsTo, List.foldl_append, Component.foldl_lead_names, leadsTo]

theorem place_of_step {root : Tree} {place next : List Text} {segment : Text}
    (h : step root place segment = .ok next) :
    (component? segment).elim place (Component.lead place) = next := by
  rw [step] at h
  split at h
  · rw [component?]
    split at h
    · next hdot =>
      cases h
      rw [if_pos hdot]
      rfl
    · next hdot =>
      rw [if_neg hdot]
      split at h
      · next hdots =>
        cases h
        rw [if_pos hdots]
        rfl
      · next hdots =>
        rw [if_neg hdots]
        split at h
        · contradiction
        · split at h
          · cases h
            rfl
          · contradiction
  · contradiction
  · contradiction

theorem place_of_steps {root : Tree} {start place : List Text} {segments : List Text}
    (h : segments.foldlM (step root) start = .ok place) :
    (segments.filterMap component?).foldl Component.lead start = place := by
  induction segments generalizing start with
  | nil => exact Except.ok.inj h
  | cons segment segments ih =>
    rw [List.foldlM_cons, bind_eq_ok_iff] at h
    obtain ⟨next, hstep, hrest⟩ := h
    have hnext := place_of_step hstep
    rw [← ih hrest, ← hnext, List.filterMap_cons]
    cases component? segment <;> rfl

/-- Where a path leads is decided by its components. -/
theorem leadsTo_of_follow {fs : Files} {path : Text} {place : List Text}
    (h : fs.follow (isAbsolute path) (segments path) = .ok place) :
    fs.leadsTo (components path) = place := by
  rw [← place_of_steps h, leadsTo, components]
  cases isAbsolute path with
  | true => rfl
  | false =>
    rw [if_neg Bool.false_ne_true, if_neg Bool.false_ne_true]
    split
    · next more hsegments =>
      rw [hsegments]
      rfl
    · rfl

theorem sameFile_of_filePlace? {fs : Files} {p q : Text} {place : List Text}
    (hp : fs.filePlace? p = some place) (hq : fs.filePlace? q = some place) : fs.SameFile p q := by
  obtain ⟨-, hfollow, -, content, hview⟩ := filePlace?_eq_some_iff.mp hp
  obtain ⟨-, hfollow', -, -⟩ := filePlace?_eq_some_iff.mp hq
  rw [SameFile, leadsTo_of_follow hfollow, leadsTo_of_follow hfollow']
  exact ⟨rfl, content, hview⟩

/-! ## What is found -/

theorem Finds.exists_names {fs : Files} {argument : Text} {cs : List Component}
    (h : fs.Finds argument cs) :
    ∃ names : List Text, cs = components argument ++ names.map .name := by
  cases h with
  | file => exact ⟨[], (List.append_nil _).symm⟩
  | @below content names => exact ⟨names, rfl⟩
  | @unseen names => exact ⟨names, rfl⟩

theorem Finds.getLast? {fs : Files} {argument : Text} {cs : List Component}
    (h : fs.Finds argument cs) : ∃ name, cs.getLast? = some (.name name) := by
  cases h with
  | @file content name view last =>
    rw [fileName?] at last
    split at last
    · next text hlast => exact ⟨text, hlast⟩
    · contradiction
  | @below content names name view last =>
    exact ⟨name, by rw [List.getLast?_append, List.getLast?_map, last]; rfl⟩
  | @unseen names name view last =>
    exact ⟨name, by rw [List.getLast?_append, List.getLast?_map, last]; rfl⟩

section
variable {fs : Files} {paths : List Text}

/-- What holds of documents that are found from arguments, the first one before the second, holds of
the collected paths. -/
theorem pairwise_collect_of_finds (h : fs.root.WellFormed) {R : Text → Text → Prop}
    (hR : ∀ p q, ∀ a ∈ paths, ∀ b ∈ paths, fs.Finds a (components p) → fs.Finds b (components q) →
      Component.listBefore (components p) (components q) = true → R p q) :
    (fs.collect paths).Pairwise R := by
  refine (List.pairwise_map.mp (ascending_collect fs paths)).imp_of_mem
    fun {p q} hp hq hbefore => ?_
  obtain ⟨a, ha, hcs⟩ := (mem_map_collect_iff h).mp (List.mem_map_of_mem hp)
  obtain ⟨b, hb, hds⟩ := (mem_map_collect_iff h).mp (List.mem_map_of_mem hq)
  exact hR p q a ha b hb hcs hds hbefore

/-- No two of the collected paths lead to the same file just if all arguments that a document is
found from give it the same components. -/
theorem pairwise_collect_iff_finds (h : fs.root.WellFormed) :
    (fs.collect paths).Pairwise (fun p q => ¬ fs.SameFile p q) ↔
      ∀ a ∈ paths, ∀ b ∈ paths, ∀ cs ds, fs.Finds a cs → fs.Finds b ds →
        fs.leadsTo cs = fs.leadsTo ds →
        (∃ content, fs.root.viewAt? (fs.leadsTo cs) = some (.file content)) → cs = ds := by
  constructor
  · intro hpairwise a ha b hb cs ds hcs hds hplace hfile
    obtain ⟨p, hp, rfl⟩ := List.mem_map.mp ((mem_map_collect_iff h).mpr ⟨a, ha, hcs⟩)
    obtain ⟨q, hq, rfl⟩ := List.mem_map.mp ((mem_map_collect_iff h).mpr ⟨b, hb, hds⟩)
    have hsymm : Std.Symm fun p q : Text => ¬ fs.SameFile p q :=
      ⟨fun _ _ hnot hsame => hnot hsame.symm⟩
    by_contra hne
    exact hpairwise.forall hp hq (fun heq => hne (congrArg components heq)) ⟨hplace, hfile⟩
  · intro hfinds
    refine pairwise_collect_of_finds h fun p q a ha b hb hcs hds hbefore hsame => ?_
    rw [hfinds a ha b hb _ _ hcs hds hsame.1 hsame.2, Component.listBefore_irrefl] at hbefore
    contradiction

/-- No two of the collected paths lead to the same file just if an argument below another one is
spelled as that one with the names between them, wherever a document is found from both. -/
theorem pairwise_collect_iff (h : fs.root.WellFormed) :
    (fs.collect paths).Pairwise (fun p q => ¬ fs.SameFile p q) ↔
      ∀ outer ∈ paths, ∀ inner ∈ paths, ∀ middle names, fs.Shares outer inner middle names →
        components inner = components outer ++ middle.map .name := by
  rw [pairwise_collect_iff_finds h]
  constructor
  · intro hfinds outer houter inner hinner middle names hshares
    have hplace : fs.leadsTo (components outer ++ (middle ++ names).map .name) =
        fs.leadsTo (components inner ++ names.map .name) := by
      rw [leadsTo_append_names, leadsTo_append_names, hshares.place, List.append_assoc]
    have hfile : ∃ content, fs.root.viewAt?
        (fs.leadsTo (components outer ++ (middle ++ names).map .name)) = some (.file content) := by
      rw [hplace, leadsTo_append_names]
      exact hshares.file
    have hsame := hfinds outer houter inner hinner _ _ hshares.fromOuter hshares.fromInner hplace
      hfile
    rw [List.map_append, ← List.append_assoc, List.append_cancel_right_eq] at hsame
    exact hsame.symm
  · intro hshares a ha b hb cs ds hcs hds hplace hfile
    obtain ⟨names, rfl⟩ := hcs.exists_names
    obtain ⟨names', rfl⟩ := hds.exists_names
    rw [leadsTo_append_names] at hfile
    rw [leadsTo_append_names, leadsTo_append_names] at hplace
    -- one of the arguments lies below the other one
    rcases List.append_eq_append_iff.mp hplace with ⟨middle, hinner, rfl⟩ | ⟨middle, hinner, rfl⟩
    · rw [hshares a ha b hb middle names' ⟨hinner, hcs, hds, by rwa [hinner, List.append_assoc]⟩,
        List.map_append, List.append_assoc]
    · rw [hshares b hb a ha middle names ⟨hinner, hds, hcs, hfile⟩, List.map_append,
        List.append_assoc]

end

/-! ## Paths from the working directory down -/

theorem leadsTo_dot_append (fs : Files) (path : Text) (names : List Text) :
    fs.leadsTo (dot path ++ names.map .name) = fs.workingDir ++ names := by
  rw [leadsTo_append_names]
  rcases dot_eq_nil_or path with hdot | hdot <;> rw [hdot] <;> rfl

/-- For two plain arguments the components agree just if both begin with a dot or neither does. -/
theorem Shares.components_eq_iff {fs : Files} {outer inner : Text} {middle names : List Text}
    (h : fs.Shares outer inner middle names) (houter : IsPlain outer) (hinner : IsPlain inner) :
    components inner = components outer ++ middle.map .name ↔ dot outer = dot inner := by
  obtain ⟨front, hfront⟩ := houter.components
  obtain ⟨back, hback⟩ := hinner.components
  have hplace := h.place
  rw [hfront, hback, leadsTo_dot_append, leadsTo_dot_append, List.append_assoc,
    List.append_cancel_left_eq] at hplace
  rw [hfront, hback, hplace, List.map_append, ← List.append_assoc, List.append_cancel_right_eq,
    List.append_cancel_right_eq]
  exact eq_comm

/-- A document that a plain argument finds has names, and before them at most the dot of the
argument. -/
theorem Finds.of_plain {fs : Files} {argument : Text} {cs : List Component}
    (h : fs.Finds argument cs) (hplain : IsPlain argument) :
    ∃ name names, cs = dot argument ++ List.map .name (name :: names) := by
  obtain ⟨front, hfront⟩ := hplain.components
  obtain ⟨back, hback⟩ := h.exists_names
  obtain ⟨last, hlast⟩ := h.getLast?
  rw [hfront, List.append_assoc, ← List.map_append] at hback
  cases hnames : front ++ back with
  | cons name names => exact ⟨name, names, hnames ▸ hback⟩
  | nil =>
    rw [hback, hnames] at hlast
    rcases dot_eq_nil_or argument with hdot | hdot <;> simp [hdot] at hlast

/-- By arguments from the working directory down, a file is collected twice only with a dot before
it and without. -/
theorem pairwise_collect_plain {fs : Files} (h : fs.root.WellFormed) {paths : List Text}
    (hplain : ∀ path ∈ paths, IsPlain path) :
    (fs.collect paths).Pairwise
      fun p q => fs.SameFile p q → components p = .here :: components q := by
  refine pairwise_collect_of_finds h fun p q a ha b hb hcs hds hbefore hsame => ?_
  obtain ⟨name, names, hp⟩ := hcs.of_plain (hplain a ha)
  obtain ⟨name', names', hq⟩ := hds.of_plain (hplain b hb)
  have hplace := hsame.1
  rw [hp, hq, leadsTo_dot_append, leadsTo_dot_append, List.append_cancel_left_eq] at hplace
  rw [hp, hq, ← hplace] at hbefore ⊢
  rcases dot_eq_nil_or a with hdot | hdot <;> rcases dot_eq_nil_or b with hdot' | hdot' <;>
    rw [hdot, hdot'] at hbefore ⊢
  · rw [Component.listBefore_irrefl] at hbefore
    contradiction
  · -- the dot comes first
    contradiction
  · rfl
  · rw [Component.listBefore_irrefl] at hbefore
    contradiction

/-- No two of the collected paths name the same file just if every argument below another one is
spelled as that one with the names between them, wherever a document is found from both. By
arguments from the working directory down a file is named twice only with a dot before it and
without, and no file is just if arguments that a document is found from all begin with a dot or none
does. -/
theorem collect_names_once_iff {fs : Files} (h : fs.root.WellFormed) (paths : List Text) :
    (∀ p q place, fs.filePlace? p = some place → fs.filePlace? q = some place → fs.SameFile p q) ∧
    ((fs.collect paths).Pairwise (fun p q => ¬ fs.SameFile p q) ↔
      ∀ outer ∈ paths, ∀ inner ∈ paths, ∀ middle names, fs.Shares outer inner middle names →
        components inner = components outer ++ middle.map .name) ∧
    ((∀ path ∈ paths, IsPlain path) →
      ((fs.collect paths).Pairwise
        fun p q => fs.SameFile p q → components p = .here :: components q) ∧
      ((fs.collect paths).Pairwise (fun p q => ¬ fs.SameFile p q) ↔
        ∀ outer ∈ paths, ∀ inner ∈ paths, ∀ middle names, fs.Shares outer inner middle names →
          dot outer = dot inner)) := by
  refine ⟨fun p q place => sameFile_of_filePlace?, pairwise_collect_iff h, fun hplain => ?_⟩
  refine ⟨pairwise_collect_plain h hplain, (pairwise_collect_iff h).trans ?_⟩
  refine forall₂_congr fun outer houter => forall₂_congr fun inner hinner => ?_
  refine forall₃_congr fun middle names hshares => ?_
  exact hshares.components_eq_iff (hplain outer houter) (hplain inner hinner)

/-- A directory, one inside it and a file, all of which begin with a dot, have their documents named
once. -/
theorem collect_names_once_iff_dots :
    let document : Tree := .file (.text [])
    let fs : Files := { root := .dir [(['a'], .dir [(['x', '.', 'm', 'd'], document)]),
      (['b', '.', 'm', 'd'], document)] }
    let paths : List Text := [['.'], ['.', '/', 'a'], ['.', '/', 'b', '.', 'm', 'd']]
    fs.root.WellFormed ∧ (∀ path ∈ paths, IsPlain path) ∧
      fs.Shares ['.'] ['.', '/', 'a'] [['a']] [['x', '.', 'm', 'd']] ∧
      fs.collect paths =
        [['.', '/', 'a', '/', 'x', '.', 'm', 'd'], ['.', '/', 'b', '.', 'm', 'd']] ∧
      (fs.collect paths).Pairwise fun p q => ¬ fs.SameFile p q := by
  intro document fs paths
  have hwell : fs.root.WellFormed := by
    have hinner : WellFormed (.dir [(['x', '.', 'm', 'd'], document)]) :=
      .dir (by decide) (by decide) (by simpa using .file _)
    exact .dir (by decide) (by decide) (by simpa using ⟨hinner, .file _⟩)
  have hplain : ∀ path ∈ paths, IsPlain path := by decide
  have hdots : ∀ outer ∈ paths, ∀ inner ∈ paths, dot outer = dot inner := by decide
  refine ⟨hwell, hplain, ⟨rfl, ?_, ?_, .text [], rfl⟩, by decide +kernel, ?_⟩
  · exact (mem_map_documentsAt_iff hwell).mp (by decide +kernel)
  · exact (mem_map_documentsAt_iff hwell).mp (by decide +kernel)
  · refine ((collect_names_once_iff hwell paths).2.2 hplain).2.mpr
      fun outer houter inner hinner _ _ _ => ?_
    exact hdots outer houter inner hinner

/-- A file is listed twice when it is found from the working directory and by its name. -/
theorem collect_dot_and_name :
    let name : Text := ['a', '.', 'm', 'd']
    let fs : Files := { root := .dir [(name, .file (.text []))] }
    fs.root.WellFormed ∧ fs.collect [['.'], name] = [['.', '/'] ++ name, name] ∧
      fs.filePlace? (['.', '/'] ++ name) = some [name] ∧ fs.filePlace? name = some [name] ∧
      ¬ (fs.collect [['.'], name]).Pairwise fun p q => ¬ fs.SameFile p q := by
  intro name fs
  have hwell : fs.root.WellFormed := .dir (by decide) (by decide) (by simpa using .file _)
  have hcollect : fs.collect [['.'], name] = [['.', '/'] ++ name, name] := by decide +kernel
  have hdot : fs.filePlace? (['.', '/'] ++ name) = some [name] := by decide +kernel
  have hname : fs.filePlace? name = some [name] := by decide +kernel
  refine ⟨hwell, hcollect, hdot, hname, fun hpairwise => ?_⟩
  rw [hcollect] at hpairwise
  exact List.rel_of_pairwise_cons hpairwise List.mem_cons_self (sameFile_of_filePlace? hdot hname)

end Files

end FlowTidy
