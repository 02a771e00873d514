import FlowTidy.Files.Tree
import FlowTidy.Proofs.Text.Occurrence

/-!
What can be seen of a tree: at each place a directory, a file with its content, or nothing
(`Tree.viewAt?`). Where a path leads depends on the directories only, so overwriting a file changes
what is read there and nowhere else (`viewAt?_put`, `read_congr`). A file that a path names can be
overwritten by that path (`target_of_filePlace?`).
-/

namespace FlowTidy

theorem bind_eq_ok_iff {ε α β : Type} {x : Except ε α} {f : α → Except ε β} {b : β} :
    x >>= f = .ok b ↔ ∃ a, x = .ok a ∧ f a = .ok b := by
  cases x <;> simp [bind, Except.bind]

/-- What is seen at a place: a directory, or a file with its content. -/
inductive View where
  | dir
  | file (content : Content)
  deriving DecidableEq, Repr

namespace View

def isDir : View → Bool
  | .dir => true
  | .file _ => false

/-- A view with the content of the file changed. -/
def mapContent (f : Content → Content) : View → View
  | .dir => .dir
  | .file content => .file (f content)

theorem isDir_mapContent (f : Content → Content) (v : View) : (v.mapContent f).isDir = v.isDir := by
  cases v <;> rfl

end View

namespace Tree

def view : Tree → View
  | .file content => .file content
  | .dir _ => .dir

/-- What is seen at the end of some names. -/
def viewAt? (tree : Tree) (place : List Text) : Option View := (tree.get? place).map view

/-! ## Places -/

theorem child?_setEntry (name other : Text) (tree : Tree) (entries : List (Text × Tree)) :
    child? other (setEntry name tree entries) =
      if other = name then some tree else child? other entries := by
  induction entries with
  | nil => by_cases h : other = name <;> simp [setEntry, child?, h, eq_comm]
  | cons e entries ih =>
    rw [setEntry]
    by_cases hname : e.1 = name
    · by_cases h : other = name
      · simp [child?, hname, h]
      · have hother : ¬ name = other := fun he => h he.symm
        simp [child?, hname, h, hother]
    · by_cases hother : e.1 = other
      · have h : ¬ other = name := fun he => hname (hother.trans he)
        simp [child?, hother, h]
      · simpa [child?, hname, hother] using ih

theorem get?_append (tree : Tree) (p q : List Text) :
    tree.get? (p ++ q) = (tree.get? p).bind fun t => t.get? q := by
  induction p generalizing tree with
  | nil => rfl
  | cons name p ih =>
    cases tree with
    | file content => rfl
    | dir entries =>
      rw [List.cons_append, get?, get?, Option.bind_assoc]
      congr 1
      funext t
      exact ih t

theorem viewAt?_concat {tree : Tree} {p : List Text} {entries : List (Text × Tree)}
    (h : tree.get? p = some (.dir entries)) (name : Text) :
    tree.viewAt? (p ++ [name]) = (child? name entries).map view := by
  rw [viewAt?, get?_append, h, Option.bind_some, get?]
  cases child? name entries <;> rfl

theorem viewAt?_dropLast {tree : Tree} {p : List Text} (h : tree.viewAt? p = some .dir) :
    tree.viewAt? p.dropLast = some .dir := by
  cases p using List.reverseRecOn with
  | nil => exact h
  | append_singleton p name =>
    rw [List.dropLast_concat]
    cases hp : tree.get? p with
    | none => simp [viewAt?, get?_append, hp] at h
    | some t =>
      cases t with
      | file content => simp [viewAt?, get?_append, hp, get?] at h
      | dir entries => simp [viewAt?, hp, view]

/-- Putting a file in the place of a file changes nothing at any other place. -/
theorem viewAt?_put {tree : Tree} {p : List Text} {old : Content}
    (h : tree.viewAt? p = some (.file old)) (new : Content) (q : List Text) :
    (put (.file new) p tree).viewAt? q = if q = p then some (.file new) else tree.viewAt? q := by
  induction p generalizing tree q with
  | nil =>
    cases tree with
    | dir entries => simp [viewAt?, get?, view] at h
    | file content => cases q <;> rfl
  | cons name p ih =>
    cases tree with
    | file content => simp [viewAt?, get?] at h
    | dir entries =>
      cases hchild : child? name entries with
      | none => simp [viewAt?, get?, hchild] at h
      | some t =>
        have ht : t.viewAt? p = some (.file old) := by simpa [viewAt?, get?, hchild] using h
        cases q with
        | nil => rfl
        | cons other q =>
          by_cases hname : other = name
          · subst hname
            simpa [viewAt?, put, get?, child?_setEntry, hchild] using ih ht q
          · simp [viewAt?, put, get?, child?_setEntry, hname]

end Tree

namespace Files

open FlowTidy.Tree

/-! ## Where paths lead -/

/-- Two trees with directories and files at the same places. -/
def SameShape (t t' : Tree) : Prop :=
  ∀ place, (t'.viewAt? place).map View.isDir = (t.viewAt? place).map View.isDir

/-- A step along a path looks at the shape of the tree only. -/
theorem step_eq (root : Tree) (place : List Text) (segment : Text) :
    step root place segment =
      match (root.viewAt? place).map View.isDir with
      | some true =>
        if segment = ['.'] then .ok place
        else if segment = ['.', '.'] then .ok place.dropLast
        else if maxName < Text.byteSize segment then .error .nameTooLong
        else if ((root.viewAt? (place ++ [segment])).map View.isDir).isSome then
          .ok (place ++ [segment])
        else .error .notFound
      | some false => .error .notADirectory
      | none => .error .notFound := by
  rw [step]
  cases hplace : root.get? place with
  | none => simp [viewAt?, hplace]
  | some t =>
    cases t with
    | file content => simp [viewAt?, hplace, view, View.isDir]
    | dir entries =>
      rw [viewAt?_concat hplace]
      simp [viewAt?, hplace, view, View.isDir]

/-- Where segments lead depends on the shape of the tree only. -/
theorem follow_congr {fs fs' : Files} (hshape : SameShape fs.root fs'.root)
    (hdir : fs'.workingDir = fs.workingDir) (absolute : Bool) (segments : List Text) :
    fs'.follow absolute segments = fs.follow absolute segments := by
  have hstep : step fs'.root = step fs.root := by
    funext place segment
    rw [step_eq, step_eq, hshape, hshape]
  rw [follow, follow, hstep, hdir]

/-! ## Files that paths name -/

/-- The place of the file that a path names. -/
def filePlace? (fs : Files) (path : Text) : Option (List Text) :=
  match fs.lookup path with
  | .ok (.file _) => (fs.follow (Path.isAbsolute path) (Path.segments path)).toOption
  | _ => none

/-- A path names a file just if its segments lead there and no slash follows. -/
theorem lookup_eq_file_iff {fs : Files} {path : Text} {content : Content} :
    fs.lookup path = .ok (.file content) ↔
      checkPath path = .ok () ∧ ∃ place,
        fs.follow (Path.isAbsolute path) (Path.segments path) = .ok place ∧
        Path.endsInSlash path = false ∧ fs.root.viewAt? place = some (.file content) := by
  rw [lookup]
  simp only [bind_eq_ok_iff, Unique.exists_iff]
  refine and_congr_right fun _ => ?_
  refine exists_congr fun place => and_congr_right fun _ => ?_
  rw [viewAt?]
  cases fs.root.get? place with
  | none => simp [throw, throwThe, MonadExceptOf.throw]
  | some t =>
    cases t with
    | dir entries => simp [view, pure, Except.pure]
    | file present =>
      cases Path.endsInSlash path with
      | true => simp [throw, throwThe, MonadExceptOf.throw]
      | false => simp [view, pure, Except.pure]

theorem filePlace?_eq_some_iff {fs : Files} {path : Text} {place : List Text} :
    fs.filePlace? path = some place ↔
      checkPath path = .ok () ∧ fs.follow (Path.isAbsolute path) (Path.segments path) = .ok place ∧
      Path.endsInSlash path = false ∧ ∃ content, fs.root.viewAt? place = some (.file content) := by
  rw [filePlace?]
  constructor
  · intro h
    split at h
    · next content hlookup =>
      obtain ⟨hpath, found, hfollow, hslash, hview⟩ := lookup_eq_file_iff.mp hlookup
      rw [hfollow] at h ⊢
      obtain rfl : found = place := Option.some.inj h
      exact ⟨hpath, rfl, hslash, content, hview⟩
    · contradiction
  · rintro ⟨hpath, hfollow, hslash, content, hview⟩
    rw [lookup_eq_file_iff.mpr ⟨hpath, place, hfollow, hslash, hview⟩, hfollow]
    rfl

/-- What is read where a path leads, which may end in a slash. -/
def readView (slash : Bool) : Option View → Except FileFault Text
  | some (.file content) =>
    if slash then .error .notADirectory
    else match content with
      | .text text => .ok text
      | .binary _ => .error .notText
  | some .dir => .error .isADirectory
  | none => .error .notFound

/-- Reading looks at what is seen at the end of the path only. -/
theorem read_eq (fs : Files) (path : Text) :
    fs.read path = checkPath path >>= fun _ =>
      fs.follow (Path.isAbsolute path) (Path.segments path) >>= fun place =>
        readView (Path.endsInSlash path) (fs.root.viewAt? place) := by
  rw [read, lookup, bind_assoc]
  congr 1
  funext _
  rw [bind_assoc]
  congr 1
  funext place
  rw [viewAt?]
  cases fs.root.get? place with
  | none => rfl
  | some t =>
    cases t with
    | dir entries => rfl
    | file content => cases content <;> cases Path.endsInSlash path <;> rfl

theorem readView_eq_ok_iff {slash : Bool} {view : Option View} {text : Text} :
    readView slash view = .ok text ↔ slash = false ∧ view = some (.file (.text text)) := by
  rcases view with _ | _ | content
  · simp [readView]
  · simp [readView]
  · cases slash <;> cases content <;> simp [readView]

/-- A path that can be read names a file with a text. -/
theorem read_eq_ok_iff {fs : Files} {path text : Text} :
    fs.read path = .ok text ↔
      ∃ place, fs.filePlace? path = some place ∧
        fs.root.viewAt? place = some (.file (.text text)) := by
  rw [read_eq]
  simp only [bind_eq_ok_iff, readView_eq_ok_iff, filePlace?_eq_some_iff]
  constructor
  · rintro ⟨⟨⟩, hpath, place, hfollow, hslash, hview⟩
    exact ⟨place, ⟨hpath, hfollow, hslash, _, hview⟩, hview⟩
  · rintro ⟨place, ⟨hpath, hfollow, hslash, -⟩, hview⟩
    exact ⟨(), hpath, place, hfollow, hslash, hview⟩

/-! ## Files of the same shape -/

theorem SameShape.viewAt?_eq {t t' : Tree} (h : SameShape t t') {place : List Text}
    (hfile : ∀ content, t.viewAt? place ≠ some (.file content)) :
    t'.viewAt? place = t.viewAt? place := by
  have hplace := h place
  rcases hview : t.viewAt? place with _ | _ | content
  · simpa [hview] using hplace
  · rw [hview] at hplace
    rcases hview' : t'.viewAt? place with _ | _ | content'
    · simp [hview'] at hplace
    · rfl
    · simp [hview', View.isDir] at hplace
  · exact absurd hview (hfile content)

theorem SameShape.exists_file_iff {t t' : Tree} (h : SameShape t t') {place : List Text} :
    (∃ content, t'.viewAt? place = some (.file content)) ↔
      ∃ content, t.viewAt? place = some (.file content) := by
  have hfile : ∀ view : Option View,
      (∃ content, view = some (.file content)) ↔ view.map View.isDir = some false := by
    rintro (_ | _ | content) <;> simp [View.isDir]
  rw [hfile, hfile, h place]

/-- Paths name the same places in files of the same shape. -/
theorem filePlace?_congr {fs fs' : Files} (hshape : SameShape fs.root fs'.root)
    (hdir : fs'.workingDir = fs.workingDir) (path : Text) :
    fs'.filePlace? path = fs.filePlace? path := by
  apply Option.ext
  intro place
  rw [filePlace?_eq_some_iff, filePlace?_eq_some_iff, follow_congr hshape hdir,
    hshape.exists_file_iff]

/-- A path is read as before if nothing changed in the file that it names. -/
theorem read_congr {fs fs' : Files} (hshape : SameShape fs.root fs'.root)
    (hdir : fs'.workingDir = fs.workingDir) {path : Text}
    (hplace : ∀ place, fs.filePlace? path = some place →
      fs'.root.viewAt? place = fs.root.viewAt? place) :
    fs'.read path = fs.read path := by
  rw [read_eq, read_eq, follow_congr hshape hdir]
  cases hpath : checkPath path with
  | error fault => rfl
  | ok u =>
    cases hfollow : fs.follow (Path.isAbsolute path) (Path.segments path) with
    | error fault => rfl
    | ok place =>
      suffices hread : readView (Path.endsInSlash path) (fs'.root.viewAt? place) =
          readView (Path.endsInSlash path) (fs.root.viewAt? place) from hread
      by_cases hfile : ∃ content, fs.root.viewAt? place = some (.file content)
      · cases hslash : Path.endsInSlash path with
        | false => rw [hplace place (filePlace?_eq_some_iff.mpr ⟨hpath, hfollow, hslash, hfile⟩)]
        | true =>
          -- by a path that ends in a slash no file is read, whatever it holds
          obtain ⟨content, hcontent⟩ := hfile
          obtain ⟨content', hcontent'⟩ := hshape.exists_file_iff.mpr ⟨content, hcontent⟩
          rw [hcontent, hcontent']
          rfl
      · rw [hshape.viewAt?_eq fun content hcontent => hfile ⟨content, hcontent⟩]

/-! ## Overwriting files -/

/-- A path without segments ends in a slash. -/
theorem endsInSlash_of_segments {path : Text} (hpath : path ≠ []) (h : Path.segments path = []) :
    Path.endsInSlash path = true := by
  obtain ⟨front, c, rfl⟩ := (List.eq_nil_or_concat' path).resolve_left hpath
  by_cases hc : c = '/'
  · simp [Path.endsInSlash, hc]
  · have hjoined : Text.joined ['/'] ((front ++ [c]).splitOn '/') = front ++ [c] :=
      List.intercalate_splitOn '/'
    have hlast : [c] <:+: Text.joined ['/'] ((front ++ [c]).splitOn '/') := by
      rw [hjoined]
      exact (List.suffix_append front [c]).isInfix
    obtain ⟨piece, hpiece, hin⟩ :=
      Text.infix_joined (List.cons_ne_nil _ _) (by simpa using Ne.symm hc) hlast
    have hne : piece ≠ [] := by
      rintro rfl
      simp at hin
    have hmem : piece ∈ Path.segments (front ++ [c]) :=
      List.mem_filter.mpr ⟨hpiece, by simpa using hne⟩
    rw [h] at hmem
    contradiction

/-- A step that leads to a file is by the name of that file. -/
theorem step_eq_file {root : Tree} {parent place : List Text} {name : Text} {content : Content}
    (h : step root parent name = .ok place) (hfile : root.viewAt? place = some (.file content)) :
    ∃ entries, root.get? parent = some (.dir entries) ∧ name ≠ ['.'] ∧ name ≠ ['.', '.'] ∧
      Text.byteSize name ≤ maxName ∧ place = parent ++ [name] ∧
      child? name entries = some (.file content) := by
  have hne : root.viewAt? place ≠ some .dir := by
    rw [hfile]
    simp
  rw [step] at h
  split at h
  · next entries hparent =>
    have hdir : root.viewAt? parent = some .dir := by
      rw [viewAt?, hparent]
      rfl
    -- a dot or two of them lead to directories
    split at h
    · cases h
      exact absurd hdir hne
    · next hdot =>
      split at h
      · cases h
        exact absurd (viewAt?_dropLast hdir) hne
      · next hdots =>
        split at h
        · contradiction
        · next hsize =>
          split at h
          · cases h
            rw [viewAt?_concat hparent] at hfile
            obtain ⟨t, ht, hview⟩ := Option.map_eq_some_iff.mp hfile
            cases t with
            | dir entries' => contradiction
            | file present =>
              cases hview
              exact ⟨entries, hparent, hdot, hdots, Nat.not_lt.mp hsize, rfl, ht⟩
          · contradiction
  · contradiction
  · contradiction

/-- Writing to a path that names a file overwrites that file. -/
theorem target_of_filePlace? {fs : Files} {path : Text} {place : List Text}
    (h : fs.filePlace? path = some place) : fs.target path = .ok place := by
  obtain ⟨hpath, hfollow, hslash, content, hview⟩ := filePlace?_eq_some_iff.mp h
  have hsegments : Path.segments path ≠ [] := by
    intro hnil
    have hne : path ≠ [] := by
      rintro rfl
      contradiction
    rw [endsInSlash_of_segments hne hnil] at hslash
    contradiction
  obtain ⟨front, name, hname⟩ := (List.eq_nil_or_concat' _).resolve_left hsegments
  rw [hname, follow, List.foldlM_append, bind_eq_ok_iff] at hfollow
  obtain ⟨parent, hparent, hstep⟩ := hfollow
  simp only [List.foldlM_cons, List.foldlM_nil, bind_pure] at hstep
  obtain ⟨entries, hdir, hdot, hdots, hsize, rfl, hchild⟩ := step_eq_file hstep hview
  have hfront : fs.follow (Path.isAbsolute path) front = .ok parent := hparent
  rw [target, hpath, hname, List.getLast?_concat, List.dropLast_concat, hfront]
  simp [bind, Except.bind, hdir, hdot, hdots, hslash, Nat.not_lt.mpr hsize, hchild, pure,
    Except.pure]

end Files

end FlowTidy
