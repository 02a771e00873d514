import FlowTidy.Command.Run
import FlowTidy.Proofs.Run.Tidying

/-!
What a run reports. Its totals are counted from the documents as they were before the run
(`totals_of_reports`), and a command succeeds if all of them can be read and all of their diagrams
can be tidied; a check moreover needs every diagram in canonical form (`succeeds_iff`).
-/

namespace FlowTidy

namespace Files

/-- The texts of the documents that can be read. -/
def texts (fs : Files) (documents : List Text) : List Text :=
  documents.filterMap fun path => (fs.read path).toOption

/-- The diagrams of the documents that can be read. -/
def diagramsIn (fs : Files) (documents : List Text) : List Text :=
  (fs.texts documents).flatMap diagrams

/-- The number of documents that cannot be read. -/
def unreadable (fs : Files) (documents : List Text) : Nat :=
  documents.countP fun path => (fs.read path).toOption.isNone

theorem unreadable_eq_zero_iff {fs : Files} {documents : List Text} :
    fs.unreadable documents = 0 ↔ ∀ path ∈ documents, ∃ t, fs.read path = .ok t := by
  rw [unreadable, List.countP_eq_zero]
  refine forall₂_congr fun path _ => ?_
  cases fs.read path <;> simp [Except.toOption]

end Files

namespace Summary

/-! ## Totals -/

/-- The totals of a summary, counted from what the documents of a run hold. -/
structure Totals (style : Style) (fs : Files) (documents : List Text) (s : Summary) : Prop where
  filesScanned : s.filesScanned = documents.length
  filesWithDiagrams : s.filesWithDiagrams = (fs.texts documents).countP fun t => diagrams t ≠ []
  filesChanged : s.filesChanged =
    (fs.texts documents).countP fun t => (diagrams t).any (isRewritten style)
  diagramsFound : s.diagramsFound = (fs.diagramsIn documents).length
  diagramsReformatted : s.diagramsReformatted = (fs.diagramsIn documents).countP (isRewritten style)
  faults : s.faults = fs.unreadable documents + (fs.diagramsIn documents).countP (isFailing style)

variable {style : Style} {fs : Files} {documents : List Text}

/-- Reports are counted by what the documents hold if a document that cannot be read does not
count. -/
theorem countP_report {p : FileReport → Bool} {q : Text → Bool}
    (hok : ∀ path t, p { path, content := t, document := processDocument style t } = q t)
    (herror : ∀ path fault, p { path, document := { faults := [fault] } } = false) :
    (documents.map (fs.report style)).countP p = (fs.texts documents).countP q := by
  rw [List.countP_map, Files.texts, List.countP_filterMap]
  refine List.countP_congr fun path _ => ?_
  rw [Function.comp_apply]
  cases hread : fs.read path with
  | ok t => simp [Files.report_of_read_ok style hread, hok, Except.toOption]
  | error fault => simp [Files.report_of_read_error style hread, herror, Except.toOption]

/-- Numbers of diagrams add up to numbers among all diagrams. Each document that cannot be read adds
the same. -/
theorem total_report (fs : Files) (documents : List Text) {f : FileReport → Nat} {q : Text → Bool}
    {n : Nat}
    (hok : ∀ path t, f { path, content := t, document := processDocument style t } =
      (diagrams t).countP q)
    (herror : ∀ path fault, f { path, document := { faults := [fault] } } = n) :
    (documents.map (fs.report style)).foldr (fun r m => f r + m) 0 =
      n * fs.unreadable documents + (fs.diagramsIn documents).countP q := by
  induction documents with
  | nil => rfl
  | cons path documents ih =>
    rw [List.map_cons, List.foldr_cons, ih]
    cases hread : fs.read path with
    | ok t =>
      have hin : fs.diagramsIn (path :: documents) = diagrams t ++ fs.diagramsIn documents := by
        simp [Files.diagramsIn, Files.texts, hread, Except.toOption]
      have hcount : fs.unreadable (path :: documents) = fs.unreadable documents := by
        simp [Files.unreadable, hread, Except.toOption]
      rw [Files.report_of_read_ok style hread, hok, hin, hcount, List.countP_append]
      omega
    | error fault =>
      have hin : fs.diagramsIn (path :: documents) = fs.diagramsIn documents := by
        simp [Files.diagramsIn, Files.texts, hread, Except.toOption]
      have hcount : fs.unreadable (path :: documents) = fs.unreadable documents + 1 := by
        simp [Files.unreadable, hread, Except.toOption]
      rw [Files.report_of_read_error style hread, herror, hin, hcount, Nat.mul_succ]
      omega

/-- The totals of the reports on some documents. -/
theorem totals_of_reports {s : Summary} (h : s.reports = documents.map (fs.report style)) :
    s.Totals style fs documents where
  filesScanned := by rw [filesScanned, h, List.length_map]
  filesWithDiagrams := by
    rw [filesWithDiagrams, h]
    refine countP_report (fun path t => ?_) fun path fault => rfl
    simp [found_processDocument, List.length_pos_iff]
  filesChanged := by
    rw [filesChanged, h]
    refine countP_report (fun path t => ?_) fun path fault => rfl
    rw [FileReport.isChanged, Bool.eq_iff_iff, decide_eq_true_eq, changed_processDocument_pos_iff]
  diagramsFound := by
    have htotal := total_report fs documents (f := fun r => r.document.found) (q := fun _ => true)
      (n := 0) (fun path t => (found_processDocument style t).trans (by simp)) fun path fault => rfl
    rw [diagramsFound, total, h, htotal]
    simp
  diagramsReformatted := by
    have htotal := total_report fs documents (f := fun r => r.document.changed) (n := 0)
      (fun path t => changed_processDocument_eq_countP style t) fun path fault => rfl
    rw [diagramsReformatted, total, h, htotal, Nat.zero_mul, Nat.zero_add]
  faults := by
    have htotal := total_report fs documents (f := fun r => r.document.faults.length) (n := 1)
      (fun path t => length_faults_processDocument style t) fun path fault => rfl
    rw [faults, total, h, htotal, Nat.one_mul]

/-! ## Success -/

/-- A diagram is neither rewritten nor failing just if it is tidied without a change. -/
theorem settled_iff {d : Text} :
    isRewritten style d = false ∧ isFailing style d = false ↔
      ∃ o, tidy style d = .ok o ∧ o.changed = false := by
  rw [isRewritten, isFailing]
  cases tidy style d <;> simp [isChange, failure?]

theorem Totals.faults_eq_zero_iff {s : Summary} (h : s.Totals style fs documents) :
    s.faults = 0 ↔ (∀ path ∈ documents, ∃ t, fs.read path = .ok t) ∧
      ∀ d ∈ fs.diagramsIn documents, isFailing style d = false := by
  rw [h.faults, Nat.add_eq_zero_iff, Files.unreadable_eq_zero_iff, List.countP_eq_zero]
  simp only [Bool.not_eq_true]

/-- A run succeeds just if all documents can be read and all their diagrams tidied, and if it
validates, none of these is changed. -/
theorem Totals.succeeds_iff {s : Summary} (h : s.Totals style fs documents) :
    s.succeeds = true ↔ (∀ path ∈ documents, ∃ t, fs.read path = .ok t) ∧
      ∀ d ∈ fs.diagramsIn documents, ∃ o, tidy style d = .ok o ∧
        (s.mode = .validate → o.changed = false) := by
  rw [succeeds]
  split
  · next hmode =>
    have hreformatted : s.diagramsReformatted = 0 ↔
        ∀ d ∈ fs.diagramsIn documents, isRewritten style d = false := by
      rw [h.diagramsReformatted, List.countP_eq_zero]
      simp only [Bool.not_eq_true]
    rw [isConforming, Bool.and_eq_true, decide_eq_true_eq, decide_eq_true_eq, hreformatted,
      h.faults_eq_zero_iff, and_left_comm, ← forall₂_and]
    simp only [settled_iff, hmode, true_implies]
  · next hmode =>
    have hfaults : (!s.hasFaults) = true ↔ s.faults = 0 := by
      rw [hasFaults, Bool.not_eq_true', decide_eq_false_iff_not, Nat.not_lt, Nat.le_zero]
    rw [hfaults, h.faults_eq_zero_iff]
    simp only [isFailing_eq_false_iff, hmode, false_implies, and_true]

end Summary

/-! ## Commands -/

namespace RunOptions

variable (o : RunOptions) (style : Style) (fs : Files) (paths : List Text)

theorem files_run :
    (o.run style fs paths).files = (fs.processAll style o.mode (fs.collect paths)).1 := by
  rw [run]
  cases fs.collect paths <;> rfl

/-- A run without documents succeeds like any other in which nothing failed. -/
theorem status_run_eq_zero_iff :
    (o.run style fs paths).status = 0 ↔
      (Summary.ofRun o.mode (fs.processAll style o.mode (fs.collect paths)).2).succeeds = true := by
  rw [run]
  cases fs.collect paths with
  | nil => cases o.mode <;> simp [Files.processAll, Summary.ofRun, Summary.succeeds,
      Summary.isConforming, Summary.hasFaults, Summary.diagramsReformatted, Summary.faults,
      Summary.total]
  | cons path documents => simp

end RunOptions

namespace Files

/-- If no file is named twice, the totals of a run are those of the documents before it. -/
theorem totals_processAll (style : Style) (mode : RunMode) {fs : Files} {documents : List Text}
    (hdistinct : (documents.filterMap fs.filePlace?).Nodup) :
    (Summary.ofRun mode (fs.processAll style mode documents).2).Totals style fs documents := by
  apply Summary.totals_of_reports
  rw [Summary.ofRun]
  by_cases hmode : mode = .format
  · rw [hmode, (processAll_format style hdistinct).2, List.map_map]
    rfl
  · rw [processAll_of_ne_format style hmode, List.map_map]
    rfl

/-- A run tidies the documents that can be tidied as a whole and keeps all other files, its totals
are those of the documents before the run, and the status of a command tells whether all of them
could be read and tidied, or are tidy. -/
theorem processAll_tidies_or_keeps (style : Style) {fs : Files} {documents : List Text}
    (hdistinct : (documents.filterMap fs.filePlace?).Nodup) :
    (∀ mode,
      (Summary.ofRun mode (fs.processAll style mode documents).2).Totals style fs documents) ∧
    (∀ mode, mode ≠ .format → (fs.processAll style mode documents).1 = fs) ∧
    TidiedAt style (documents.filterMap fs.filePlace?) fs
      (fs.processAll style .format documents).1 ∧
    ∀ paths, fs.collect paths = documents → ∀ showDiff color env verbose stdin,
      (∀ dryRun,
        let outcome := (Command.format paths dryRun showDiff color).run env style verbose fs stdin
        outcome.files = (if dryRun then fs else (fs.processAll style .format documents).1) ∧
        (outcome.status = 0 ↔ (∀ path ∈ documents, ∃ t, fs.read path = .ok t) ∧
          ∀ d ∈ fs.diagramsIn documents, ∃ o, tidy style d = .ok o)) ∧
      let outcome := (Command.check paths showDiff color).run env style verbose fs stdin
      outcome.files = fs ∧
      (outcome.status = 0 ↔ (∀ path ∈ documents, ∃ t, fs.read path = .ok t) ∧
        ∀ d ∈ fs.diagramsIn documents, ∃ o, tidy style d = .ok o ∧ o.changed = false) := by
  have htotals := fun mode => totals_processAll style mode hdistinct
  have hkept : ∀ mode, mode ≠ .format → (fs.processAll style mode documents).1 = fs := by
    intro mode hmode
    rw [processAll_of_ne_format style hmode]
  refine ⟨htotals, hkept, (processAll_format style hdistinct).1, ?_⟩
  rintro paths rfl showDiff color env verbose stdin
  refine ⟨fun dryRun => ⟨?_, ?_⟩, ?_, ?_⟩
  · rw [Command.run, RunOptions.files_run]
    cases dryRun with
    | false => rfl
    | true => exact hkept .dryRun (by decide)
  · rw [Command.run, RunOptions.status_run_eq_zero_iff, (htotals _).succeeds_iff]
    have hmode : (if dryRun then RunMode.dryRun else RunMode.format) ≠ .validate := by
      cases dryRun <;> decide
    simp [Summary.ofRun, hmode]
  · rw [Command.run, RunOptions.files_run]
    exact hkept .validate (by decide)
  · rw [Command.run, RunOptions.status_run_eq_zero_iff, (htotals _).succeeds_iff]
    simp [Summary.ofRun]

/-- A document with one diagram to be changed and one that fails is kept, and the one after it is
tidied all the same. -/
theorem processAll_tidies_or_keeps_mixed :
    let fs : Files := { root := .dir [
      ("a.md".toList, .file (.text "```mermaid\nA-->B\n``````mermaid\nend[\"\"]\n```".toList)),
      ("b.md".toList, .file (.text "```mermaid\nA-->B\n```".toList)),
      ("c.md".toList, .file (.binary [0xFF, 0xFE]))] }
    let documents := ["a.md".toList, "b.md".toList, "c.md".toList]
    let fs' := (fs.processAll .passthrough .format documents).1
    (documents.filterMap fs.filePlace?).Nodup ∧ fs.collect documents = documents ∧
    fs'.root.viewAt? ["a.md".toList] =
      some (.file (.text "```mermaid\nA-->B\n``````mermaid\nend[\"\"]\n```".toList)) ∧
    fs'.root.viewAt? ["b.md".toList] =
      some (.file (.text "```mermaid\nflowchart TB\n  A --> B\n```".toList)) ∧
    fs'.root.viewAt? ["c.md".toList] = some (.file (.binary [0xFF, 0xFE])) ∧
    (Summary.ofRun .format (fs.processAll .passthrough .format documents).2).faults = 2 ∧
    ((Command.format documents false true .auto).run {} .passthrough true fs none).status ≠ 0 := by
  intro fs documents fs'
  have hdistinct : (documents.filterMap fs.filePlace?).Nodup := by decide +kernel
  have hcollect : fs.collect documents = documents := by decide +kernel
  obtain ⟨htotals, -, htidied, hcommands⟩ := processAll_tidies_or_keeps .passthrough hdistinct
  refine ⟨hdistinct, hcollect, ?_, ?_, ?_, ?_, ?_⟩
  · rw [htidied.views]
    decide +kernel
  · rw [htidied.views]
    decide +kernel
  · rw [htidied.views]
    decide +kernel
  · rw [(htotals .format).faults]
    decide +kernel
  · intro hstatus
    obtain ⟨hread, -⟩ := ((hcommands documents hcollect true .auto {} true none).1 false).2.mp
      hstatus
    obtain ⟨t, ht⟩ := hread "c.md".toList (by decide)
    have hnone : (fs.read "c.md".toList).toOption = none := by decide +kernel
    rw [ht] at hnone
    exact Option.some_ne_none t hnone

end Files

end FlowTidy
