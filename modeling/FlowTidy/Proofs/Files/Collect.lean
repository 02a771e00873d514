import FlowTidy.Files.Collect
import FlowTidy.Proofs.Files.Path
import FlowTidy.Proofs.Files.Tree

/-!
Which documents are collected. From a path the walk goes down all directories whose paths are not
too long, and lists what it meets there with the name of a document (`mem_documents_iff`). That
depends on what is seen at each place only (`viewBelow?_congr`), which is the same in whatever order
directories list their entries (`Reordered.wellFormed_and_viewAt?_eq`), and sorting forgets the
order of the arguments.

A path that is too long shows nothing, not even that there is a directory. So what is below it is
missed, and the directory itself is listed if its name is that of a document (`Files.Finds.unseen`).
-/

namespace FlowTidy

/-! ## Trees -/

namespace Tree

/-- Entries have names of their own in every directory. -/
inductive WellFormed : Tree → Prop where
  | file (content : Content) : WellFormed (.file content)
  | dir {entries : List (Text × Tree)} (nodup : (entries.map Prod.fst).Nodup)
      (names : ∀ e ∈ entries, Path.IsName e.1) (trees : ∀ e ∈ entries, WellFormed e.2) :
      WellFormed (.dir entries)

/-- Trees that differ in the order only in which directories list their entries. -/
inductive Reordered : Tree → Tree → Prop where
  | refl (t : Tree) : Reordered t t
  | trans {t u v : Tree} : Reordered t u → Reordered u v → Reordered t v
  | perm {entries entries' : List (Text × Tree)} :
      entries.Perm entries' → Reordered (.dir entries) (.dir entries')
  | entry {front back : List (Text × Tree)} {name : Text} {t t' : Tree} : Reordered t t' →
      Reordered (.dir (front ++ (name, t) :: back)) (.dir (front ++ (name, t') :: back))

theorem child?_eq_some_iff {entries : List (Text × Tree)} (h : (entries.map Prod.fst).Nodup)
    {name : Text} {t : Tree} : child? name entries = some t ↔ (name, t) ∈ entries := by
  induction entries with
  | nil => simp [child?]
  | cons e entries ih =>
    obtain ⟨hnew, hnodup⟩ := List.nodup_cons.mp h
    obtain ⟨name', t'⟩ := e
    by_cases hname : name' = name
    · subst hname
      have hother : (name', t) ∉ entries := fun hmem => hnew (List.mem_map.mpr ⟨_, hmem, rfl⟩)
      simp [child?, hother, eq_comm]
    · simpa [child?, hname, Ne.symm hname] using ih hnodup

theorem child?_append_cons (front back : List (Text × Tree)) (name other : Text) (t : Tree) :
    child? other (front ++ (name, t) :: back) =
      (child? other front).or (if name = other then some t else child? other back) := by
  rw [child?, List.find?_append, Option.map_or, List.find?_cons]
  by_cases hname : name = other <;> simp [child?, hname]

theorem viewAt?_nil (t : Tree) : t.viewAt? [] = some t.view := by cases t <;> rfl

theorem viewAt?_cons (entries : List (Text × Tree)) (name : Text) (names : List Text) :
    (Tree.dir entries).viewAt? (name :: names) =
      (child? name entries).bind fun t => t.viewAt? names := by
  rw [viewAt?, get?]
  cases child? name entries <;> rfl

section
variable {entries entries' front back : List (Text × Tree)} {name : Text} {t t' : Tree}

theorem WellFormed.perm (h : WellFormed (.dir entries)) (hperm : entries.Perm entries') :
    WellFormed (.dir entries') := by
  cases h with
  | dir hnodup hnames htrees =>
    exact .dir ((hperm.map Prod.fst).nodup_iff.mp hnodup)
      (fun e he => hnames e (hperm.mem_iff.mpr he)) fun e he => htrees e (hperm.mem_iff.mpr he)

/-- What is seen at a place does not depend on the order of entries. -/
theorem WellFormed.viewAt?_perm (h : WellFormed (.dir entries)) (hperm : entries.Perm entries')
    (place : List Text) : (Tree.dir entries').viewAt? place = (Tree.dir entries).viewAt? place := by
  cases place with
  | nil => rfl
  | cons name names =>
    cases h with
    | dir hnodup _ _ =>
      have hchild : child? name entries' = child? name entries := by
        apply Option.ext
        intro t
        rw [child?_eq_some_iff hnodup,
          child?_eq_some_iff ((hperm.map Prod.fst).nodup_iff.mp hnodup), hperm.mem_iff]
      rw [viewAt?_cons, viewAt?_cons, hchild]

theorem WellFormed.of_entry (h : WellFormed (.dir (front ++ (name, t) :: back))) :
    t.WellFormed := by
  cases h with
  | dir _ _ htrees => exact htrees (name, t) (by simp)

theorem WellFormed.set_entry (h : WellFormed (.dir (front ++ (name, t) :: back)))
    (ht' : t'.WellFormed) : WellFormed (.dir (front ++ (name, t') :: back)) := by
  cases h with
  | dir hnodup hnames htrees =>
    refine .dir (by simpa using hnodup) (by simpa [or_imp, forall_and] using hnames) fun e he => ?_
    rcases List.mem_cons.mp (List.perm_middle.mem_iff.mp he) with rfl | he
    · exact ht'
    · exact htrees e (List.perm_middle.mem_iff.mpr (List.mem_cons_of_mem _ he))

theorem viewAt?_entry (h : ∀ place, t'.viewAt? place = t.viewAt? place) (place : List Text) :
    (Tree.dir (front ++ (name, t') :: back)).viewAt? place =
      (Tree.dir (front ++ (name, t) :: back)).viewAt? place := by
  cases place with
  | nil => rfl
  | cons other names =>
    rw [viewAt?_cons, viewAt?_cons, child?_append_cons, child?_append_cons]
    cases child? other front with
    | some u => rfl
    | none =>
      by_cases hname : name = other
      · simpa [hname] using h names
      · simp [hname]

end

/-- At every place of a reordered tree there is what there was. -/
theorem Reordered.wellFormed_and_viewAt?_eq {t t' : Tree} (h : Reordered t t') (ht : t.WellFormed) :
    t'.WellFormed ∧ ∀ place, t'.viewAt? place = t.viewAt? place := by
  induction h with
  | refl t => exact ⟨ht, fun _ => rfl⟩
  | trans _ _ ih₁ ih₂ =>
    obtain ⟨hu, hview⟩ := ih₁ ht
    obtain ⟨hv, hview'⟩ := ih₂ hu
    exact ⟨hv, fun place => (hview' place).trans (hview place)⟩
  | perm hperm => exact ⟨ht.perm hperm, ht.viewAt?_perm hperm⟩
  | entry _ ih =>
    obtain ⟨hwell, hview⟩ := ih ht.of_entry
    exact ⟨ht.set_entry hwell, viewAt?_entry hview⟩

end Tree

/-! ## The walk -/

/-- A path with names joined to it, one after the other. -/
def Path.below (path : Text) (names : List Text) : Text := names.foldl Path.join path

/-- No directory on the way to what some names lead to below a path has a path that is too long. -/
def Files.Reaches (path : Text) (names : List Text) : Prop :=
  ∀ front, front <+: names → front ≠ names → Text.byteSize (Path.below path front) ≤ maxPath

theorem Files.reaches_nil (path : Text) : Reaches path [] :=
  fun _ hfront hne => absurd (List.prefix_nil.mp hfront) hne

namespace Tree

open FlowTidy.Files FlowTidy.Path

/-- What the walk lists at the end of some names below a path: no directory that it could go
down. -/
structure Listed (t : Tree) (path : Text) (names : List Text) : Prop where
  view : ∃ view, t.viewAt? names = some view ∧
    (view = .dir → maxPath < Text.byteSize (below path names))
  reaches : Reaches path names

/-- A tree is listed itself unless it is a directory that the walk goes down. -/
theorem listed_nil_iff {t : Tree} {path : Text} :
    t.Listed path [] ↔ (t.view = .dir → maxPath < Text.byteSize path) := by
  constructor
  · rintro ⟨⟨view, hview, hlong⟩, -⟩ hdir
    rw [viewAt?_nil, hdir] at hview
    exact hlong (Option.some.inj hview).symm
  · intro h
    exact ⟨⟨t.view, viewAt?_nil t, h⟩, reaches_nil path⟩

/-- The walk goes down a directory unless its path is too long. -/
theorem listed_cons_iff {entries : List (Text × Tree)} {path name : Text} {names : List Text} :
    (Tree.dir entries).Listed path (name :: names) ↔ Text.byteSize path ≤ maxPath ∧
      ∃ t, child? name entries = some t ∧ t.Listed (join path name) names := by
  constructor
  · rintro ⟨⟨view, hview, hlong⟩, hway⟩
    rw [viewAt?_cons] at hview
    obtain ⟨t, ht, hview⟩ := Option.bind_eq_some_iff.mp hview
    refine ⟨hway [] List.nil_prefix (List.cons_ne_nil _ _).symm, t, ht, ⟨view, hview, hlong⟩,
      fun front hfront hne => ?_⟩
    exact hway (name :: front) ((List.prefix_cons_inj name).mpr hfront) (by simpa using hne)
  · rintro ⟨hshort, t, ht, ⟨view, hview, hlong⟩, hway⟩
    refine ⟨⟨view, ?_, hlong⟩, fun front hfront hne => ?_⟩
    · rw [viewAt?_cons, ht]
      exact hview
    · cases front with
      | nil => exact hshort
      | cons other front =>
        obtain ⟨rfl, hrest⟩ := List.cons_prefix_cons.mp hfront
        exact hway front hrest (by simpa using hne)

/-- Below a path that is too long nothing is seen. -/
theorem documents_of_long {path : Text} (h : maxPath < Text.byteSize path) (t : Tree) :
    t.documents path = Path.listed path := by
  cases t with
  | file content => rw [documents]
  | dir entries => rw [documents, if_pos h]

theorem mem_documentsIn {path document : Text} {entries : List (Text × Tree)} :
    document ∈ documentsIn path entries ↔
      ∃ e ∈ entries, document ∈ e.2.documents (join path e.1) := by
  induction entries with
  | nil => simp [documentsIn]
  | cons e entries ih => rw [documentsIn, List.mem_append, ih, List.exists_mem_cons_iff]

theorem mem_listed {path document : Text} :
    document ∈ Path.listed path ↔ isMarkdown path = true ∧ document = path := by
  rw [Path.listed]
  split <;> simp_all

/-- A tree that is listed itself has nothing listed below it. -/
theorem mem_listed_iff_exists {t : Tree} {path document : Text}
    (hself : t.view = .dir → maxPath < Text.byteSize path)
    (hbelow : ∀ name names, ¬ t.Listed path (name :: names)) : document ∈ Path.listed path ↔
      ∃ names, t.Listed path names ∧ isMarkdown document = true ∧ document = below path names := by
  rw [mem_listed]
  constructor
  · rintro ⟨hmarkdown, rfl⟩
    exact ⟨[], listed_nil_iff.mpr hself, hmarkdown, rfl⟩
  · rintro ⟨names, hlisted, hmarkdown, rfl⟩
    cases names with
    | nil => exact ⟨hmarkdown, rfl⟩
    | cons name names => exact absurd hlisted (hbelow name names)

/-- The walk finds what is listed, if it has the name of a document. -/
theorem mem_documents_iff {t : Tree} (h : t.WellFormed) (path document : Text) :
    document ∈ t.documents path ↔
      ∃ names, t.Listed path names ∧ isMarkdown document = true ∧ document = below path names := by
  -- along the tree, with the path that the walk has come by
  induction h generalizing path with
  | file content =>
    rw [documents]
    refine mem_listed_iff_exists nofun fun name names hlisted => ?_
    obtain ⟨view, hview, -⟩ := hlisted.view
    contradiction
  | @dir entries hnodup _ _ ih =>
    rw [documents]
    split
    · next hlong =>
      refine mem_listed_iff_exists (fun _ => hlong) fun name names hlisted => ?_
      exact absurd (listed_cons_iff.mp hlisted).1 (Nat.not_le.mpr hlong)
    · next hshort =>
      rw [mem_documentsIn]
      constructor
      · rintro ⟨⟨name, t⟩, he, hdocument⟩
        obtain ⟨names, hlisted, hmarkdown, heq⟩ := (ih _ he _).mp hdocument
        exact ⟨name :: names, listed_cons_iff.mpr ⟨Nat.not_lt.mp hshort, t,
          (child?_eq_some_iff hnodup).mpr he, hlisted⟩, hmarkdown, heq⟩
      · rintro ⟨names, hlisted, hmarkdown, heq⟩
        cases names with
        | nil => exact absurd (listed_nil_iff.mp hlisted rfl) hshort
        | cons name names =>
          obtain ⟨-, t, ht, hlisted⟩ := listed_cons_iff.mp hlisted
          have he := (child?_eq_some_iff hnodup).mp ht
          exact ⟨(name, t), he, (ih _ he _).mpr ⟨names, hlisted, hmarkdown, heq⟩⟩

/-! ## Names -/

theorem WellFormed.get? {t u : Tree} (h : t.WellFormed) {names : List Text}
    (hu : t.get? names = some u) : u.WellFormed ∧ ∀ name ∈ names, IsName name := by
  induction names generalizing t with
  | nil =>
    obtain rfl : t = u := by cases t <;> exact Option.some.inj hu
    exact ⟨h, by simp⟩
  | cons name names ih =>
    cases h with
    | file content => contradiction
    | @dir entries hnodup hnames htrees =>
      rw [Tree.get?] at hu
      obtain ⟨v, hv, hu⟩ := Option.bind_eq_some_iff.mp hu
      have he := (child?_eq_some_iff hnodup).mp hv
      obtain ⟨hwell, hmore⟩ := ih (htrees _ he) hu
      exact ⟨hwell, List.forall_mem_cons.mpr ⟨hnames _ he, hmore⟩⟩

theorem WellFormed.isName_of_viewAt? {t : Tree} (h : t.WellFormed) {names : List Text} {view : View}
    (hview : t.viewAt? names = some view) : ∀ name ∈ names, IsName name := by
  obtain ⟨u, hu, -⟩ := Option.map_eq_some_iff.mp hview
  exact (h.get? hu).2

end Tree

namespace Path

/-- Names that are joined to a path are components of it. -/
theorem components_below {path : Text} {names : List Text} (h : ∀ name ∈ names, IsName name) :
    components (below path names) = components path ++ names.map .name := by
  induction names generalizing path with
  | nil => exact (List.append_nil _).symm
  | cons name names ih =>
    obtain ⟨hname, hnames⟩ := List.forall_mem_cons.mp h
    rw [below, List.foldl_cons, ← below, ih hnames, components_join hname, List.map_cons,
      List.append_assoc]
    rfl

/-- Below a path, the last name decides whether there is a document. -/
theorem isMarkdown_below_iff {path name : Text} {names : List Text}
    (h : ∀ name ∈ names, IsName name) (hlast : names.getLast? = some name) :
    isMarkdown (below path names) = true ↔ IsDocumentName name := by
  have hfile : fileName? (below path names) = some name := by
    rw [fileName?, components_below h, List.getLast?_append, List.getLast?_map, hlast]
    rfl
  rw [isMarkdown_iff, hfile]
  simp

end Path

namespace Files

open FlowTidy.Tree FlowTidy.Path

/-- What is seen at the end of some names below a path. -/
def viewBelow? (fs : Files) (path : Text) (names : List Text) : Option View :=
  match fs.lookup path with
  | .ok t => t.viewAt? names
  | .error _ => none

/-- The components of the documents that an argument stands for. -/
inductive Finds (fs : Files) (argument : Text) : List Component → Prop where
  /-- A file that the argument names. -/
  | file {content : Content} {name : Text} (view : fs.viewBelow? argument [] = some (.file content))
      (last : fileName? argument = some name) (document : IsDocumentName name) :
      Finds fs argument (components argument)
  /-- A file below the directory that the argument names. -/
  | below {content : Content} {names : List Text} {name : Text}
      (view : fs.viewBelow? argument names = some (.file content))
      (last : names.getLast? = some name) (document : IsDocumentName name)
      (reaches : Reaches argument names) :
      Finds fs argument (components argument ++ names.map .name)
  /-- A directory that is taken for a file, because by a path that is too long nothing is seen. -/
  | unseen {names : List Text} {name : Text}
      (view : fs.viewBelow? argument names = some .dir) (last : names.getLast? = some name)
      (document : IsDocumentName name) (reaches : Reaches argument names)
      (long : maxPath < Text.byteSize (Path.below argument names)) :
      Finds fs argument (components argument ++ names.map .name)

/-- What an argument stands for depends on what is seen below it only. -/
theorem Finds.congr {fs fs' : Files} {argument : Text} {cs : List Component}
    (hfinds : fs.Finds argument cs)
    (h : ∀ names, fs'.viewBelow? argument names = fs.viewBelow? argument names) :
    fs'.Finds argument cs := by
  cases hfinds with
  | file view last document => exact .file ((h _).trans view) last document
  | below view last document reaches => exact .below ((h _).trans view) last document reaches
  | unseen view last document reaches long =>
    exact .unseen ((h _).trans view) last document reaches long

theorem lookup_eq_ok {fs : Files} {path : Text} {t : Tree} (h : fs.lookup path = .ok t) :
    checkPath path = .ok () ∧ ∃ place,
      fs.follow (isAbsolute path) (segments path) = .ok place ∧ fs.root.get? place = some t := by
  rw [lookup] at h
  simp only [bind_eq_ok_iff, Unique.exists_iff] at h
  obtain ⟨hpath, place, hfollow, h⟩ := h
  refine ⟨hpath, place, hfollow, ?_⟩
  cases hget : fs.root.get? place with
  | none => simp [hget, throw, throwThe, MonadExceptOf.throw] at h
  | some u =>
    cases u with
    | dir entries => simpa [hget, pure, Except.pure] using h
    | file content =>
      cases hslash : endsInSlash path with
      | true => simp [hget, hslash, throw, throwThe, MonadExceptOf.throw] at h
      | false => simpa [hget, hslash, pure, Except.pure] using h

theorem byteSize_dot_slashes (n : Nat) :
    Text.byteSize (['.'] ++ List.replicate n '/') = n + 1 := by
  rw [Text.byteSize_append, Text.byteSize_replicate, Nat.add_comm]
  exact congrArg (· + 1) (Nat.mul_one n)

theorem checkPath_dot_slashes {n : Nat} (h : n < maxPath) :
    checkPath (['.'] ++ List.replicate n '/') = .ok () := by
  have hnul : '\x00' ∉ ['.'] ++ List.replicate n '/' := by simp
  have hne : ['.'] ++ List.replicate n '/' ≠ [] := List.cons_ne_nil _ _
  rw [checkPath, if_neg hnul, if_neg hne, byteSize_dot_slashes, if_neg (Nat.not_lt.mpr h)]

/-- A dot names the working directory, however many slashes come after it. -/
theorem lookup_dot_slashes {fs : Files} {entries : List (Text × Tree)}
    (hdir : fs.root.get? fs.workingDir = some (.dir entries)) {n : Nat} (h : n < maxPath) :
    fs.lookup (['.'] ++ List.replicate n '/') = .ok (.dir entries) := by
  have hfollow : fs.follow false [['.']] = .ok fs.workingDir := by
    simp [follow, step, hdir]
  rw [lookup, segments_append_replicate]
  simp only [bind_eq_ok_iff, Unique.exists_iff]
  refine ⟨checkPath_dot_slashes h, fs.workingDir, hfollow, ?_⟩
  rw [hdir]
  rfl

theorem byteSize_le_of_checkPath {path : Text} (h : checkPath path = .ok ()) :
    Text.byteSize path ≤ maxPath := by
  rw [checkPath] at h
  split at h
  · contradiction
  · split at h
    · contradiction
    · split at h
      · contradiction
      · next hshort => exact Nat.not_lt.mp hshort

/-- What is seen below a path depends on what is seen at each place only. -/
theorem viewBelow?_congr {fs fs' : Files}
    (hview : ∀ place, fs'.root.viewAt? place = fs.root.viewAt? place)
    (hdir : fs'.workingDir = fs.workingDir) (path : Text) (names : List Text) :
    fs'.viewBelow? path names = fs.viewBelow? path names := by
  have hlookup : ∀ fs : Files, fs.viewBelow? path names =
      (checkPath path >>= fun _ => fs.follow (isAbsolute path) (segments path)).toOption.bind
        fun place =>
        if ((fs.root.viewAt? place).map View.isDir) = some false ∧ endsInSlash path = true then none
        else fs.root.viewAt? (place ++ names) := by
    intro fs
    rw [viewBelow?, lookup]
    cases checkPath path with
    | error fault => rfl
    | ok u =>
      cases fs.follow (isAbsolute path) (segments path) with
      | error fault => rfl
      | ok place =>
        cases hget : fs.root.get? place with
        | none =>
          simp [bind, Except.bind, hget, viewAt?, get?_append, throw, throwThe, MonadExceptOf.throw,
            Except.toOption]
        | some t =>
          cases t with
          | dir entries =>
            simp [bind, Except.bind, hget, viewAt?, get?_append, view, View.isDir, pure,
              Except.pure, Except.toOption]
          | file content =>
            cases endsInSlash path <;>
              simp [bind, Except.bind, hget, viewAt?, get?_append, view, View.isDir, pure,
                Except.pure, throw, throwThe, MonadExceptOf.throw, Except.toOption]
  rw [hlookup, hlookup, follow_congr (fun place => by rw [hview]) hdir]
  simp only [hview]

section
variable {fs : Files} {argument : Text} {t : Tree}

theorem viewBelow?_of_lookup (hlookup : fs.lookup argument = .ok t) (names : List Text) :
    fs.viewBelow? argument names = t.viewAt? names := by
  rw [viewBelow?, hlookup]

/-- What the walk lists is among the documents that the argument stands for. -/
theorem finds_of_listed (hlookup : fs.lookup argument = .ok t) (hwell : t.WellFormed)
    {names : List Text} (hlisted : t.Listed argument names)
    (hmarkdown : isMarkdown (Path.below argument names) = true) :
    fs.Finds argument (components (Path.below argument names)) := by
  obtain ⟨⟨view, hview, hlong⟩, hreaches⟩ := hlisted
  have hbelow := (viewBelow?_of_lookup hlookup names).trans hview
  cases hlast : names.getLast? with
  | none =>
    obtain rfl := List.getLast?_eq_none_iff.mp hlast
    obtain ⟨name, hname, hdocument⟩ := isMarkdown_iff.mp hmarkdown
    cases view with
    | dir =>
      -- an argument that is found has no path that is too long
      exact absurd (hlong rfl) (Nat.not_lt.mpr (byteSize_le_of_checkPath (lookup_eq_ok hlookup).1))
    | file content => exact .file hbelow hname hdocument
  | some name =>
    have hnames := hwell.isName_of_viewAt? hview
    have hdocument := (isMarkdown_below_iff hnames hlast).mp hmarkdown
    rw [components_below hnames]
    cases view with
    | dir => exact .unseen hbelow hlast hdocument hreaches (hlong rfl)
    | file content => exact .below hbelow hlast hdocument hreaches

/-- The walk lists the documents that the argument stands for. -/
theorem Finds.exists_listed {cs : List Component} (hfinds : fs.Finds argument cs)
    (hlookup : fs.lookup argument = .ok t) (hwell : t.WellFormed) :
    ∃ names, t.Listed argument names ∧ isMarkdown (Path.below argument names) = true ∧
      components (Path.below argument names) = cs := by
  cases hfinds with
  | file view last document =>
    rw [viewBelow?_of_lookup hlookup] at view
    exact ⟨[], ⟨⟨_, view, nofun⟩, reaches_nil argument⟩,
      isMarkdown_iff.mpr ⟨_, last, document⟩, rfl⟩
  | @below content names name view last document reaches =>
    rw [viewBelow?_of_lookup hlookup] at view
    have hnames := hwell.isName_of_viewAt? view
    exact ⟨names, ⟨⟨_, view, nofun⟩, reaches⟩, (isMarkdown_below_iff hnames last).mpr document,
      components_below hnames⟩
  | @unseen names name view last document reaches long =>
    rw [viewBelow?_of_lookup hlookup] at view
    have hnames := hwell.isName_of_viewAt? view
    exact ⟨names, ⟨⟨_, view, fun _ => long⟩, reaches⟩,
      (isMarkdown_below_iff hnames last).mpr document, components_below hnames⟩

/-- The components of the documents at a path are those that it finds. -/
theorem mem_map_documentsAt_iff (h : fs.root.WellFormed) {cs : List Component} :
    cs ∈ (fs.documentsAt argument).map components ↔ fs.Finds argument cs := by
  rw [documentsAt]
  cases hlookup : fs.lookup argument with
  | error fault =>
    have hbelow : ∀ names, fs.viewBelow? argument names = none :=
      fun names => by rw [viewBelow?, hlookup]
    refine iff_of_false List.not_mem_nil fun hfinds => ?_
    cases hfinds with
    | file view | below view | unseen view =>
      rw [hbelow] at view
      contradiction
  | ok t =>
    obtain ⟨-, place, -, hget⟩ := lookup_eq_ok hlookup
    have hwell : t.WellFormed := (h.get? hget).1
    rw [List.mem_map]
    constructor
    · rintro ⟨document, hdocument, rfl⟩
      obtain ⟨names, hlisted, hmarkdown, rfl⟩ := (mem_documents_iff hwell _ _).mp hdocument
      exact finds_of_listed hlookup hwell hlisted hmarkdown
    · intro hfinds
      obtain ⟨names, hlisted, hmarkdown, hcs⟩ := hfinds.exists_listed hlookup hwell
      exact ⟨_, (mem_documents_iff hwell _ _).mpr ⟨names, hlisted, hmarkdown, rfl⟩, hcs⟩

end

theorem ascending_collect (fs : Files) (paths : List Text) :
    Component.Ascending ((fs.collect paths).map components) := ascending_sorted _

/-- The components that are collected are those of the documents that the arguments stand for. -/
theorem mem_map_collect_iff {fs : Files} (h : fs.root.WellFormed) {paths : List Text}
    {cs : List Component} :
    cs ∈ (fs.collect paths).map components ↔ ∃ argument ∈ paths, fs.Finds argument cs := by
  simp only [collect, mem_map_components_sorted, List.map_flatMap, List.mem_flatMap,
    mem_map_documentsAt_iff h]

/-- A collected path is an argument with names joined to it. -/
theorem exists_below_of_mem_collect {fs : Files} (h : fs.root.WellFormed) {paths : List Text}
    {document : Text} (hdocument : document ∈ fs.collect paths) :
    ∃ argument ∈ paths, ∃ names, document = Path.below argument names := by
  obtain ⟨argument, hargument, hfound⟩ := List.mem_flatMap.mp (mem_of_mem_sorted _ hdocument)
  rw [documentsAt] at hfound
  split at hfound
  · next t hlookup =>
    obtain ⟨-, place, -, hget⟩ := lookup_eq_ok hlookup
    obtain ⟨names, -, -, heq⟩ := (mem_documents_iff (h.get? hget).1 _ _).mp hfound
    exact ⟨argument, hargument, names, heq⟩
  · contradiction

/-- Neither the order of the arguments nor the order in which directories list their entries
matters. -/
theorem map_collect_of_reordered {fs : Files} (fs' : Files) (h : fs.root.WellFormed)
    (hroot : fs.root.Reordered fs'.root) (hdir : fs'.workingDir = fs.workingDir)
    {paths paths' : List Text} (hpaths : paths.Perm paths') :
    (fs'.collect paths').map components = (fs.collect paths).map components := by
  obtain ⟨hwell, hview⟩ := hroot.wellFormed_and_viewAt?_eq h
  have hbelow := viewBelow?_congr hview hdir
  have hfinds : ∀ argument cs, fs'.Finds argument cs ↔ fs.Finds argument cs := fun argument cs =>
    ⟨fun hf => hf.congr fun names => (hbelow argument names).symm,
      fun hf => hf.congr (hbelow argument)⟩
  -- both lists are strictly increasing, so their members decide
  refine (ascending_collect fs' paths').eq_of_mem_iff (ascending_collect fs paths) fun cs => ?_
  rw [mem_map_collect_iff hwell, mem_map_collect_iff h]
  simp only [hfinds, hpaths.mem_iff]

/-- The documents of some arguments are collected in strictly increasing order and each once, by
paths that are joined to the arguments, whatever the order of the arguments and of the entries of
directories. -/
theorem collect_finds {fs : Files} (h : fs.root.WellFormed) (paths : List Text) :
    Component.Ascending ((fs.collect paths).map components) ∧
      (∀ cs, cs ∈ (fs.collect paths).map components ↔ ∃ argument ∈ paths, fs.Finds argument cs) ∧
      (∀ document ∈ fs.collect paths, ∃ argument ∈ paths, ∃ names,
        document = Path.below argument names) ∧
      ∀ root' paths', fs.root.Reordered root' → paths.Perm paths' →
        (({ fs with root := root' } : Files).collect paths').map components =
          (fs.collect paths).map components := by
  refine ⟨ascending_collect fs paths, fun cs => mem_map_collect_iff h,
    fun document => exists_below_of_mem_collect h, fun root' paths' hroot hpaths => ?_⟩
  exact map_collect_of_reordered { fs with root := root' } h hroot rfl hpaths

/-- A directory and one inside it, whose documents are the same, with their entries in another
order. -/
theorem collect_finds_reordered :
    let document : Tree := .file (.text [])
    let fs : Files := { root := .dir [(['b', '.', 'm', 'd'], document),
      (['a'], .dir [(['x', '.', 'M', 'D'], document), (['y'], document)])] }
    let root' : Tree := .dir [(['a'], .dir [(['y'], document), (['x', '.', 'M', 'D'], document)]),
      (['b', '.', 'm', 'd'], document)]
    let expected : List (List Component) :=
      [[.here, .name ['a'], .name ['x', '.', 'M', 'D']], [.here, .name ['b', '.', 'm', 'd']]]
    fs.root.WellFormed ∧ fs.root.Reordered root' ∧
      (∃ argument ∈ [['.'], ['.', '/', 'a']],
        fs.Finds argument [.here, .name ['a'], .name ['x', '.', 'M', 'D']]) ∧
      Component.Ascending expected ∧
      (({ fs with root := root' } : Files).collect [['.', '/', 'a'], ['.']]).map components =
        expected := by
  intro document fs root' expected
  have hwell : fs.root.WellFormed := by
    have hinner : WellFormed (.dir [(['x', '.', 'M', 'D'], document), (['y'], document)]) :=
      .dir (by decide) (by decide) (by simpa using .file _)
    exact .dir (by decide) (by decide) (by simpa using ⟨.file _, hinner⟩)
  have hreordered : fs.root.Reordered root' := by
    have hinner : Reordered (.dir [(['x', '.', 'M', 'D'], document), (['y'], document)])
      (.dir [(['y'], document), (['x', '.', 'M', 'D'], document)]) := .perm (.swap _ _ _)
    exact .trans (.perm (.swap _ _ _)) (@Reordered.entry [] _ _ _ _ hinner)
  have hcollect : (fs.collect [['.'], ['.', '/', 'a']]).map components = expected := by
    decide +kernel
  obtain ⟨hascending, hmem, -, hsame⟩ := collect_finds hwell [['.'], ['.', '/', 'a']]
  refine ⟨hwell, hreordered, ?_, ?_, ?_⟩
  · rw [← hmem, hcollect]
    exact List.mem_cons_self
  · rwa [hcollect] at hascending
  · rw [hsame root' _ hreordered (List.Perm.swap _ _ _), hcollect]

/-- What lies below a directory by a path that is too long is not found. If the directory has the
name of a document, it is listed in its stead. -/
theorem collect_long_directory :
    let name : Text := ['x', '.', 'm', 'd']
    let directory : Text := List.replicate 97 'd' ++ ['.', 'm', 'd']
    let fs : Files := { root := .dir [(directory, .dir [(name, .file (.text []))])] }
    let path : Text := ['.'] ++ List.replicate 4000 '/'
    fs.root.WellFormed ∧ fs.viewBelow? path [] = some .dir ∧
      fs.viewBelow? path [directory] = some .dir ∧
      fs.viewBelow? path [directory, name] = some (.file (.text [])) ∧ IsDocumentName name ∧
      fs.collect [path] = [path ++ directory] ∧
      components path ++ [.name directory, .name name] ∉ (fs.collect [path]).map components := by
  intro name directory fs path
  have hname : IsName name := by decide
  have hdirectory : IsName directory := by decide
  have hwell : fs.root.WellFormed := by
    have hinner : WellFormed (.dir [(name, .file (.text []))]) :=
      .dir (by simp) (by simpa using hname) (by simpa using .file _)
    exact .dir (by simp) (by simpa using hdirectory) (by simpa using hinner)
  have hlookup : fs.lookup path = .ok fs.root := lookup_dot_slashes rfl (by decide)
  have hjoin : join path directory = path ++ directory := by
    rw [join, if_pos (.inr (endsInSlash_append_replicate ['.'] 3999))]
  have hdocument : isMarkdown (path ++ directory) = true := by
    rw [← hjoin, isMarkdown_iff]
    exact ⟨directory, fileName?_join hdirectory, List.replicate 97 'd', ['m', 'd'], rfl, by decide,
      by decide, .inl rfl⟩
  have hcollect : fs.collect [path] = [path ++ directory] := by
    have hsize : Text.byteSize path = 4001 := byteSize_dot_slashes 4000
    have hlong : maxPath < Text.byteSize (path ++ directory) := by
      rw [Text.byteSize_append, hsize]
      decide
    have hdocuments : fs.documentsAt path = [path ++ directory] := by
      rw [documentsAt, hlookup]
      change (Tree.dir [(directory, _)]).documents path = _
      rw [documents, hsize, if_neg (by decide), documentsIn, documentsIn, hjoin,
        documents_of_long hlong, listed, if_pos hdocument, List.append_nil]
    rw [collect, List.flatMap_singleton, hdocuments]
    rfl
  refine ⟨hwell, ?_, ?_, ?_, ⟨['x'], ['m', 'd'], rfl, by decide, by decide, .inl rfl⟩, hcollect, ?_⟩
  · rw [viewBelow?, hlookup]
    rfl
  · rw [viewBelow?, hlookup]
    simp [fs, viewAt?, get?, child?, view]
  · rw [viewBelow?, hlookup]
    simp [fs, viewAt?, get?, child?, view]
  · rw [hcollect, List.map_singleton, ← hjoin, components_join hdirectory]
    simp

end Files

end FlowTidy
