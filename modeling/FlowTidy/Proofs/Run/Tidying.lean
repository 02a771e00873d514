import FlowTidy.Proofs.Document.Splicing
import FlowTidy.Proofs.Files.Tree
import FlowTidy.Run.Process

/-!
What a run does to files, provided that no two of its paths name the same file. Each document is
tidied where it is, and one with a diagram that cannot be tidied is left alone, whatever happens to
the others (`processAll_format`). Where the other paths lead does not change on the way, so that
each is reported on as it was before the run.
-/

namespace FlowTidy

/-! ## Documents -/

/-- The diagrams of a document. -/
def diagrams (t : Text) : List Text := (Document.parse t).blocks.map Block.body

/-- Whether a diagram can be tidied and is not in canonical form. -/
def isRewritten (style : Style) (d : Text) : Bool := isChange (tidy style d)

/-- Whether a diagram cannot be tidied. -/
def isFailing (style : Style) (d : Text) : Bool := (failure? (tidy style d)).isSome

theorem isFailing_eq_false_iff {style : Style} {d : Text} :
    isFailing style d = false ↔ ∃ o, tidy style d = .ok o := by
  rw [isFailing]
  cases tidy style d <;> simp [failure?]

theorem found_processDocument (style : Style) (t : Text) :
    (processDocument style t).found = (diagrams t).length := by
  rw [diagrams, List.length_map]
  rfl

/-- A report counts the diagrams that are rewritten. -/
theorem changed_processDocument_eq_countP (style : Style) (t : Text) :
    (processDocument style t).changed = (diagrams t).countP (isRewritten style) := by
  rw [diagrams, List.countP_map]
  exact List.countP_map ..

theorem changed_processDocument_pos_iff {style : Style} {t : Text} :
    0 < (processDocument style t).changed ↔ (diagrams t).any (isRewritten style) = true := by
  rw [changed_processDocument_eq_countP, List.countP_pos_iff, List.any_eq_true]

theorem length_faults_processDocument (style : Style) (t : Text) :
    (processDocument style t).faults.length = (diagrams t).countP (isFailing style) := by
  have hdiagrams : diagrams t = (Document.parse t).blocks.zipIdx.map fun p => p.1.body := by
    have hblocks := List.zipIdx_map_fst 0 (Document.parse t).blocks
    rw [diagrams]
    nth_rewrite 1 [← hblocks]
    exact List.map_map ..
  rw [faults_processDocument, List.length_filterMap_eq_countP, hdiagrams, List.countP_map]
  refine List.countP_congr fun p _ => ?_
  rw [Option.isSome_map]
  rfl

/-- What becomes of the content of a document: it is tidied if some diagram is not in canonical form
and all of them can be tidied. -/
def Content.tidied (style : Style) : Content → Content
  | .text t =>
    if (diagrams t).any (isRewritten style) && !(diagrams t).any (isFailing style) then
      .text (processDocument style t).formatted
    else .text t
  | .binary bytes => .binary bytes

namespace Files

open FlowTidy.Tree

/-! ## Reports -/

theorem report_of_read_ok {fs : Files} {path t : Text} (style : Style) (h : fs.read path = .ok t) :
    fs.report style path = { path, content := t, document := processDocument style t } := by
  rw [report, h]

theorem report_of_read_error {fs : Files} {path : Text} {fault : FileFault} (style : Style)
    (h : fs.read path = .error fault) :
    fs.report style path = { path, document := { faults := [.read path fault.message] } } := by
  rw [report, h]

/-- A document is written back if some diagram is not in canonical form and none fails. -/
theorem needsWrite_report {fs : Files} {path t : Text} (style : Style) (h : fs.read path = .ok t) :
    (fs.report style path).needsWrite =
      ((diagrams t).any (isRewritten style) && !(diagrams t).any (isFailing style)) := by
  have hfaults : (processDocument style t).faults = [] ↔
      (diagrams t).any (isFailing style) = false := by
    rw [← List.length_eq_zero_iff, length_faults_processDocument, List.countP_eq_zero,
      List.any_eq_false]
  rw [report_of_read_ok style h, FileReport.needsWrite, FileReport.isChanged, Bool.eq_iff_iff]
  simp [changed_processDocument_pos_iff, hfaults]

theorem needsWrite_report_of_error {fs : Files} {path : Text} {fault : FileFault} (style : Style)
    (h : fs.read path = .error fault) : (fs.report style path).needsWrite = false := by
  rw [report_of_read_error style h]
  rfl

/-! ## Files in which some documents are tidied -/

/-- The files after the documents at some places were tidied. -/
structure TidiedAt (style : Style) (places : List (List Text)) (fs fs' : Files) : Prop where
  workingDir : fs'.workingDir = fs.workingDir
  views : ∀ place, fs'.root.viewAt? place = (fs.root.viewAt? place).map
    (View.mapContent fun content => if place ∈ places then content.tidied style else content)

namespace TidiedAt

variable {style : Style} {places : List (List Text)} {fs fs' : Files}

theorem sameShape (h : TidiedAt style places fs fs') : SameShape fs.root fs'.root := by
  intro place
  rw [h.views, Option.map_map]
  congr 1
  funext v
  exact View.isDir_mapContent _ v

/-- Tidying files changes nothing elsewhere. -/
theorem viewAt?_of_not_mem (h : TidiedAt style places fs fs') {place : List Text}
    (hplace : place ∉ places) : fs'.root.viewAt? place = fs.root.viewAt? place := by
  rw [h.views]
  simp only [hplace, if_false]
  rcases fs.root.viewAt? place with _ | _ | content <;> rfl

/-- Nothing has to be done where tidying keeps the content. -/
theorem of_tidied_eq (h : ∀ place ∈ places, ∀ content,
    fs.root.viewAt? place = some (.file content) → content.tidied style = content) :
    TidiedAt style places fs fs := by
  refine ⟨rfl, fun place => ?_⟩
  rcases hview : fs.root.viewAt? place with _ | _ | content
  · rfl
  · rfl
  · rw [Option.map_some, View.mapContent]
    split
    · next hplace => rw [h place hplace content hview]
    · rfl

/-- Documents at different places can be tidied one after the other. -/
theorem append {more : List (List Text)} {fs'' : Files} (h : TidiedAt style places fs fs')
    (hmore : TidiedAt style more fs' fs'') (hdisjoint : ∀ place ∈ places, place ∉ more) :
    TidiedAt style (places ++ more) fs fs'' := by
  refine ⟨hmore.workingDir.trans h.workingDir, fun place => ?_⟩
  rw [hmore.views, h.views, Option.map_map]
  congr 1
  funext v
  cases v with
  | dir => rfl
  | file content =>
    by_cases hplace : place ∈ places
    · simp [View.mapContent, hplace, hdisjoint place hplace]
    · simp [View.mapContent, hplace]

/-- A path is read as before if the file that it names is not among those that were tidied. -/
theorem read_eq (h : TidiedAt style places fs fs') {path : Text}
    (hpath : ∀ place, fs.filePlace? path = some place → place ∉ places) :
    fs'.read path = fs.read path :=
  read_congr h.sameShape h.workingDir fun place hplace => h.viewAt?_of_not_mem (hpath place hplace)

end TidiedAt

/-! ## Runs -/

/-- Overwriting a document by its tidied text. -/
theorem tidiedAt_put {style : Style} {fs : Files} {place : List Text} {t : Text}
    (hview : fs.root.viewAt? place = some (.file (.text t)))
    (htidied : (Content.text t).tidied style = .text (processDocument style t).formatted) :
    TidiedAt style [place] fs { fs with
      root := put (.file (.text (processDocument style t).formatted)) place fs.root } := by
  refine ⟨rfl, fun other => ?_⟩
  rw [viewAt?_put hview]
  split
  · next hother =>
    subst hother
    simp [hview, View.mapContent, htidied]
  · next hother =>
    rcases fs.root.viewAt? other with _ | _ | content <;> simp [View.mapContent, hother]

/-- Formatting one document tidies it and nothing else. A write cannot fail where the document could
be read. -/
theorem processOne_format (style : Style) (fs : Files) (path : Text) :
    TidiedAt style (fs.filePlace? path).toList fs (processOne style .format fs path).1 ∧
      (processOne style .format fs path).2 =
        ⟨fs.report style path, (fs.report style path).needsWrite⟩ := by
  rw [processOne]
  cases hwrite : (fs.report style path).needsWrite with
  | false =>
    refine ⟨TidiedAt.of_tidied_eq fun place hplace content hview => ?_, by simp⟩
    have hplace : fs.filePlace? path = some place := Option.mem_toList.mp hplace
    cases content with
    | binary bytes => rfl
    | text t =>
      rw [needsWrite_report style (read_eq_ok_iff.mpr ⟨place, hplace, hview⟩)] at hwrite
      rw [Content.tidied, hwrite, if_neg Bool.false_ne_true]
  | true =>
    cases hread : fs.read path with
    | error fault =>
      rw [needsWrite_report_of_error style hread] at hwrite
      contradiction
    | ok t =>
      obtain ⟨place, hplace, hview⟩ := read_eq_ok_iff.mp hread
      have htidied : (Content.text t).tidied style = .text (processDocument style t).formatted := by
        rw [needsWrite_report style hread] at hwrite
        rw [Content.tidied, hwrite, if_pos rfl]
      have hback : fs.writeBack (fs.report style path) = .ok { fs with
          root := put (.file (.text (processDocument style t).formatted)) place fs.root } := by
        rw [report_of_read_ok style hread, writeBack, write, target_of_filePlace? hplace]
        rfl
      rw [hplace, if_pos ⟨rfl, rfl⟩, hback]
      exact ⟨tidiedAt_put hview htidied, rfl⟩

/-- A run that formats tidies the documents where they are, and reports on them as they were. -/
theorem processAll_format (style : Style) {fs : Files} {documents : List Text}
    (hdistinct : (documents.filterMap fs.filePlace?).Nodup) :
    TidiedAt style (documents.filterMap fs.filePlace?) fs
        (processAll style .format fs documents).1 ∧
      (processAll style .format fs documents).2 = documents.map fun path =>
        ⟨fs.report style path, (fs.report style path).needsWrite⟩ := by
  induction documents generalizing fs with
  | nil => exact ⟨TidiedAt.of_tidied_eq (by simp), rfl⟩
  | cons path documents ih =>
    have hsplit : (path :: documents).filterMap fs.filePlace? =
        (fs.filePlace? path).toList ++ documents.filterMap fs.filePlace? := by
      cases hplace : fs.filePlace? path <;> simp [hplace]
    rw [hsplit] at hdistinct ⊢
    obtain ⟨-, hrest, hdisjoint⟩ := List.nodup_append.mp hdistinct
    obtain ⟨hfirst, hreport⟩ := processOne_format style fs path
    generalize hstep : processOne style .format fs path = result at hfirst hreport
    obtain ⟨fs', file⟩ := result
    obtain rfl : file = ⟨fs.report style path, (fs.report style path).needsWrite⟩ := hreport
    -- the other paths lead where they led before
    have hplaces : fs'.filePlace? = fs.filePlace? :=
      funext (filePlace?_congr hfirst.sameShape hfirst.workingDir)
    rw [← hplaces] at hrest
    obtain ⟨htidied, hreports⟩ := ih hrest
    rw [hplaces] at htidied
    have hsame : ∀ other ∈ documents, fs'.report style other = fs.report style other := by
      intro other hother
      have hread : fs'.read other = fs.read other := by
        refine hfirst.read_eq fun place hplace hmem => hdisjoint place hmem place ?_ rfl
        exact List.mem_filterMap.mpr ⟨other, hother, hplace⟩
      rw [report, report, hread]
    rw [processAll, hstep]
    refine ⟨hfirst.append htidied fun place hplace hmem =>
      hdisjoint place hplace place hmem rfl, ?_⟩
    simp only [hreports, List.map_cons]
    refine congrArg _ (List.map_congr_left fun other hother => ?_)
    rw [hsame other hother]

/-- A run that does not format leaves the files as they are. -/
theorem processAll_of_ne_format (style : Style) {mode : RunMode} (hmode : mode ≠ .format)
    (fs : Files) (documents : List Text) :
    processAll style mode fs documents =
      (fs, documents.map fun path => ⟨fs.report style path, false⟩) := by
  induction documents with
  | nil => rfl
  | cons path documents ih => simp [processAll, processOne, hmode, ih]

end Files

end FlowTidy
