import GraphQLCheck.Command
import GraphQLCheck.Proofs.Validation.FieldSites

/-!
# What a check finds and what it reports

A check **finds** what is wrong with each document, then what its walks could not reach, and then
the files that it could not load (`findings`). This says nothing of how a check goes about it: it
goes through the files once and keeps lines, obstacles and two counters side by side (`Tally`), and
it passes over a file without a document. What one file adds is stated once (`Tally.add_eq`), and
from it follows what all of them add up to (`Tally.ofFiles_eq`).

So nothing is lost between the two: the report has one line for each finding, in order, the check
fails exactly when there is one, and the numbers that are printed are those of the findings, or of
all that was looked at if there are none (`Outcome.AccountsFor`). A line is never empty
(`Finding.text_ne_empty`), and so neither is a report of at least one.
-/

namespace GraphQLCheck

/-! ### Findings -/

namespace LoadedFile

/-- What is wrong with the document of a file. -/
def diagnostics (s : Schema) (f : LoadedFile) : List Diagnostic :=
  match f.document with
  | .ok document => validate defaultRules s document
  | .error _ => []

/-- Whether something is wrong with the document of a file. -/
def isFaulty (s : Schema) (f : LoadedFile) : Bool := !(f.diagnostics s).isEmpty

/-- Why the file could not be loaded, if it could not. -/
def fault? (f : LoadedFile) : Option LoadFault :=
  match f.document with
  | .ok _ => none
  | .error fault => some fault

/-- The definitions in a file. -/
def definitions (f : LoadedFile) : List Definition :=
  match f.document with
  | .ok document => document.definitions
  | .error _ => []

end LoadedFile

/-- Something that a check finds. -/
inductive Finding where
  /-- Something is wrong with the document at a path. -/
  | diagnostic (path : String) (d : Diagnostic)
  /-- Something could not be reached. -/
  | unreached (fault : WalkFault)
  /-- A file could not be loaded. -/
  | unloaded (fault : LoadFault)

/-- A finding in words. -/
def Finding.text : Finding → String
  | diagnostic path d => d.line path
  | unreached fault => fault.message
  | unloaded fault => fault.message

/-- What is wrong with the documents of some files. -/
def documentFindings (s : Schema) (files : List LoadedFile) : List Finding :=
  files.flatMap fun f ↦ (f.diagnostics s).map (.diagnostic f.path)

/-- What could not be checked. -/
def obstacleFindings (faults : List WalkFault) (files : List LoadedFile) : List Finding :=
  faults.map .unreached ++ (files.filterMap LoadedFile.fault?).map .unloaded

/-- What a check of some files finds, where its walks have met the given faults. -/
def findings (s : Schema) (faults : List WalkFault) (files : List LoadedFile) : List Finding :=
  documentFindings s files ++ obstacleFindings faults files

/-! ### Lines -/

theorem append_ne_empty_of_left {a : String} (h : a ≠ "") (b : String) : a ++ b ≠ "" :=
  fun hempty ↦ h (String.append_eq_empty_iff.1 hempty).1

theorem append_ne_empty_of_right (a : String) {b : String} (h : b ≠ "") : a ++ b ≠ "" :=
  fun hempty ↦ h (String.append_eq_empty_iff.1 hempty).2

theorem Diagnostic.line_ne_empty (path : String) (d : Diagnostic) : d.line path ≠ "" := by
  rw [line]
  split
  all_goals exact append_ne_empty_of_left (append_ne_empty_of_right _ (by decide)) _

theorem WalkFault.message_ne_empty (fault : WalkFault) : fault.message ≠ "" := by
  cases fault
  all_goals exact append_ne_empty_of_left (append_ne_empty_of_right _ (by decide)) _

theorem LoadFault.message_ne_empty (fault : LoadFault) : fault.message ≠ "" := by
  cases fault
  case notUtf8 => exact append_ne_empty_of_right _ (by decide)
  -- what is told last comes from elsewhere and may be empty
  all_goals exact append_ne_empty_of_left (append_ne_empty_of_right _ (by decide)) _

theorem Finding.text_ne_empty (finding : Finding) : finding.text ≠ "" := by
  cases finding with
  | diagnostic path d => exact d.line_ne_empty path
  | unreached fault => exact fault.message_ne_empty
  | unloaded fault => exact fault.message_ne_empty

/-- Lines that begin with one that is not empty do not make an empty text. -/
theorem intercalate_ne_empty {line : String} (h : line ≠ "") (lines : List String) :
    "\n".intercalate (line :: lines) ≠ "" := by
  cases lines with
  | nil => rwa [String.intercalate_singleton]
  | cons line' lines =>
    rw [String.intercalate_cons_cons]
    exact append_ne_empty_of_left (append_ne_empty_of_left h _) _

/-- The default rules say of each diagnostic at which one position it is. -/
theorem exists_position_of_mem_validate {s : Schema} {document : Document} {d : Diagnostic}
    (h : d ∈ validate defaultRules s document) : ∃ position, d.positions = [position] := by
  have hunswayed : ∀ rule ∈ defaultRules, rule.Unswayed := by
    simpa [defaultRules] using fieldSelection_unswayed
  rw [validate, validateWith_eq_flatMap hunswayed] at h
  obtain ⟨visit, -, hd⟩ := List.mem_flatMap.1 h
  obtain ⟨rule, hrule, hd⟩ := List.mem_flatMap.1 hd
  obtain rfl := List.mem_singleton.1 hrule
  simp only [Visit.reportOf, fieldSelection] at hd
  split at hd
  · split at hd
    · obtain rfl := List.mem_singleton.1 hd
      exact ⟨_, rfl⟩
    · cases hd
  · cases hd

/-! ### What files add up to -/

namespace Tally

variable (s : Schema) (faults : List WalkFault) (files : List LoadedFile)

/-- **One step.** A file adds a line for everything that is wrong with it, or the fault that kept it
from being loaded, and it is counted accordingly. -/
theorem add_eq (tally : Tally) (f : LoadedFile) :
    tally.add s f =
      { lines := tally.lines ++ (f.diagnostics s).map (Diagnostic.line f.path)
        obstacles := tally.obstacles ++ f.fault?.toList.map .load
        definitions := tally.definitions + f.definitions.length
        faulty := tally.faulty + if f.isFaulty s then 1 else 0 } := by
  cases hdocument : f.document with
  | error fault =>
    simp [add, LoadedFile.isFaulty, LoadedFile.diagnostics, LoadedFile.fault?,
      LoadedFile.definitions, hdocument]
  | ok document =>
    have hfaulty : f.isFaulty s = !(validate defaultRules s document).isEmpty := by
      simp only [LoadedFile.isFaulty, LoadedFile.diagnostics, hdocument]
    simp only [add, LoadedFile.diagnostics, LoadedFile.fault?, LoadedFile.definitions,
      hdocument, hfaulty, Option.toList_none, List.map_nil, List.append_nil]
    cases (validate defaultRules s document).isEmpty <;> rfl

/-- **A whole run.** Files add up to all that they add one by one, in order. -/
theorem foldl_add_eq (tally : Tally) :
    files.foldl (add s) tally =
      { lines := tally.lines ++ files.flatMap fun f ↦ (f.diagnostics s).map (Diagnostic.line f.path)
        obstacles := tally.obstacles ++ (files.filterMap LoadedFile.fault?).map .load
        definitions := tally.definitions + (files.flatMap LoadedFile.definitions).length
        faulty := tally.faulty + files.countP (LoadedFile.isFaulty s) } := by
  induction files generalizing tally with
  | nil => simp
  | cons f files ih =>
    -- what the first file adds comes before what the others add, in each of the four parts
    rw [List.foldl_cons, ih, add_eq, mk.injEq]
    refine ⟨?_, ?_, ?_, ?_⟩
    · rw [List.flatMap_cons, List.append_assoc]
    · cases hfault : f.fault? <;> simp [hfault]
    · rw [List.flatMap_cons, List.length_append, Nat.add_assoc]
    · rw [List.countP_cons, Nat.add_assoc, Nat.add_comm (List.countP _ _)]

/-- The lines are those of the findings about documents; the obstacles are in the order in which
they came up, and the counters are those of all files. -/
theorem ofFiles_eq :
    ofFiles s faults files =
      { lines := (documentFindings s files).map Finding.text
        obstacles := faults.map .walk ++ (files.filterMap LoadedFile.fault?).map .load
        definitions := (files.flatMap LoadedFile.definitions).length
        faulty := files.countP (LoadedFile.isFaulty s) } := by
  rw [ofFiles, foldl_add_eq, documentFindings, List.map_flatMap]
  simp only [start, List.nil_append, Nat.zero_add, List.map_map]
  rfl

/-- The report has a line for each finding, in order. -/
theorem report_ofFiles :
    (ofFiles s faults files).report = (findings s faults files).map Finding.text := by
  rw [report, ofFiles_eq, findings, obstacleFindings]
  simp only [List.map_append, List.map_map]
  rfl

theorem definitions_ofFiles :
    (ofFiles s faults files).definitions = (files.flatMap LoadedFile.definitions).length := by
  rw [ofFiles_eq]

theorem faulty_ofFiles :
    (ofFiles s faults files).faulty = files.countP (LoadedFile.isFaulty s) := by
  rw [ofFiles_eq]

theorem length_obstacles_ofFiles :
    (ofFiles s faults files).obstacles.length = (obstacleFindings faults files).length := by
  simp only [ofFiles_eq, obstacleFindings, List.length_append, List.length_map]

/-- What is left of the report without the obstacles are the lines about documents. -/
theorem length_report_sub_ofFiles :
    (ofFiles s faults files).report.length - (ofFiles s faults files).obstacles.length =
      (documentFindings s files).length := by
  rw [report_ofFiles, length_obstacles_ofFiles, List.length_map, findings, List.length_append]
  omega

end Tally

/-! ### The report -/

section Report

variable (words : FaultWords) (s : Schema) (skipped : Nat) (faults : List WalkFault)
  (files : List LoadedFile)

/-- There are as many findings about documents as there are diagnostics. -/
theorem length_documentFindings :
    (documentFindings s files).length = (files.flatMap (LoadedFile.diagnostics s)).length := by
  simp only [documentFindings, List.length_flatMap, List.length_map]

theorem length_obstacleFindings : (obstacleFindings faults files).length =
    faults.length + files.countP fun f ↦ f.fault?.isSome := by
  rw [obstacleFindings, List.length_append, List.length_map, List.length_map,
    List.length_filterMap_eq_countP]

/-- A check without findings succeeds and says how far it went. -/
theorem Report.ofFiles_of_eq_nil (h : findings s faults files = []) :
    Report.ofFiles s skipped faults files = .ofSuccess
      (successSummary files.length skipped s.definedTypes.length
        (files.flatMap LoadedFile.definitions).length) := by
  have hreport : (Tally.ofFiles s faults files).report = [] := by
    rw [Tally.report_ofFiles, h, List.map_nil]
  simp only [ofFiles, hreport, List.isEmpty_nil, if_true, Tally.definitions_ofFiles]

/-- A check with findings fails, prints them and counts them. -/
theorem Report.ofFiles_of_ne_nil (h : findings s faults files ≠ []) :
    Report.ofFiles s skipped faults files =
      ⟨false, some ("\n".intercalate ((findings s faults files).map Finding.text)),
        some (failureSummary (documentFindings s files).length
          (files.countP (LoadedFile.isFaulty s)) (obstacleFindings faults files).length)⟩ := by
  obtain ⟨finding, rest, hcons⟩ := List.exists_cons_of_ne_nil h
  have hreport := Tally.report_ofFiles s faults files
  have hfull : (Tally.ofFiles s faults files).report.isEmpty = false := by
    rw [hreport, hcons]
    rfl
  -- an empty text would not be printed at all
  have htext : ("\n".intercalate ((findings s faults files).map Finding.text)).isEmpty = false := by
    rw [← Bool.not_eq_true, String.isEmpty_iff, hcons]
    exact intercalate_ne_empty finding.text_ne_empty _
  simp only [ofFiles, hfull, Bool.false_eq_true, if_false]
  rw [Tally.length_report_sub_ofFiles, Tally.length_obstacles_ofFiles, Tally.faulty_ofFiles,
    hreport, Outcome.ofReport, htext]
  rfl

/-- A file without a document is one more finding, at its place among the files that could not be
loaded, and changes nothing about the others. -/
theorem findings_of_fault {f : LoadedFile} {fault : LoadFault} (h : f.document = .error fault)
    (before after : List LoadedFile) :
    findings s faults (before ++ f :: after) = documentFindings s (before ++ after) ++
      (obstacleFindings faults before ++ .unloaded fault :: obstacleFindings [] after) := by
  have hdiagnostics : f.diagnostics s = [] := by
    simp only [LoadedFile.diagnostics, h]
  have hfault : f.fault? = some fault := by
    simp only [LoadedFile.fault?, h]
  simp [findings, documentFindings, obstacleFindings, hdiagnostics, hfault]

/-- The line of a diagnostic says in which file it is and where in it. -/
theorem line_of_mem_diagnostics {f : LoadedFile} {d : Diagnostic} (h : d ∈ f.diagnostics s) :
    ∃ position, d.positions = [position] ∧
      d.line f.path = f.path ++ ":" ++ (toString position.line ++ ":" ++ toString position.col) ++
        ": " ++ d.message := by
  rw [LoadedFile.diagnostics] at h
  split at h
  · obtain ⟨position, hposition⟩ := exists_position_of_mem_validate h
    refine ⟨position, hposition, ?_⟩
    rw [Diagnostic.line, hposition]
    rfl
  · cases h

/-- The program reports on the files that its walks find. -/
theorem Command.check_fst (disk : Disk) (options : CheckOptions) :
    let found := Discovery.run disk options.extensions options.paths
    (Command.check disk words options).1 =
      Report.of words (Schema.ofFiles disk options.schemas) found.skipped found.faults
        (found.paths.map fun path ↦ ⟨path, disk.loadDocument words path⟩) := by
  rw [check]
  cases Schema.ofFiles disk options.schemas <;> rfl

/-- An outcome accounts for what a check against a schema finds. -/
structure Outcome.AccountsFor (o : Outcome) : Prop where
  /-- The check succeeds exactly when it finds nothing. -/
  success_iff : o.success = true ↔ findings s faults files = []
  /-- Otherwise all findings are printed in order, with a line break between them. -/
  report : findings s faults files ≠ [] →
    o.stdout? = some ("\n".intercalate ((findings s faults files).map Finding.text))
  /-- The summary gives the number of all diagnostics, of the files that have any, and of what could
  not be reached or loaded. -/
  summary : findings s faults files ≠ [] → o.stderr? = some
    ("❌ Found " ++ toString (files.flatMap (LoadedFile.diagnostics s)).length ++
      " validation errors in " ++ toString (files.countP (LoadedFile.isFaulty s)) ++
      " files and " ++ toString (faults.length + files.countP fun f ↦ f.fault?.isSome) ++
      " errors loading files.")
  /-- A check that finds nothing gives the number of the files that were checked, of the other files
  that were found, of the types that the schema declares, and of all definitions in the files. -/
  extent : findings s faults files = [] → o.stderr? = none ∧ o.stdout? = some
    ("✅ All GraphQL validated successfully:\n" ++
      "  * Analyzed " ++ toString files.length ++ " files.\n" ++
      "  * Skipped " ++ toString skipped ++ " non-graphql files.\n" ++
      "  * Loaded " ++ toString s.definedTypes.length ++ " schema type definitions.\n" ++
      "  * Validated " ++ toString (files.flatMap LoadedFile.definitions).length ++
      " operation and fragment definitions.")

/-- A check that has its schema accounts for what it finds, whether that is something or not. -/
theorem Report.accountsFor_ofFiles :
    (Report.ofFiles s skipped faults files).AccountsFor s skipped faults files := by
  by_cases h : findings s faults files = []
  · rw [ofFiles_of_eq_nil s skipped faults files h]
    exact ⟨iff_of_true rfl h, absurd h, absurd h, fun _ ↦ ⟨rfl, rfl⟩⟩
  · rw [ofFiles_of_ne_nil s skipped faults files h, length_documentFindings,
      length_obstacleFindings]
    exact ⟨iff_of_false Bool.false_ne_true h, fun _ ↦ rfl, fun _ ↦ rfl, fun hnil ↦ absurd hnil h⟩

/-- **The report loses nothing.** Without a schema a check fails and reports nothing. With one, its
outcome accounts for all that it finds: every diagnostic has a line with its file and its position,
a file that cannot be loaded is one more finding and leaves all others as they are, and there are
never more obstacles than lines of the report. This is what the program prints about the files that
its walks find. -/
theorem report_accounts :
    (∀ e, (Report.of words (.error e) skipped faults files).success = false ∧
      (Report.of words (.error e) skipped faults files).stdout? = none) ∧
    (Report.of words (.ok s) skipped faults files).AccountsFor s skipped faults files ∧
    (∀ f ∈ files, ∀ d ∈ f.diagnostics s, ∃ position, d.positions = [position] ∧
      d.line f.path = f.path ++ ":" ++ (toString position.line ++ ":" ++ toString position.col) ++
        ": " ++ d.message) ∧
    (∀ before f after fault, f.document = .error fault →
      findings s faults (before ++ f :: after) = documentFindings s (before ++ after) ++
        (obstacleFindings faults before ++ .unloaded fault :: obstacleFindings [] after)) ∧
    (Tally.ofFiles s faults files).obstacles.length ≤
      (Tally.ofFiles s faults files).report.length ∧
    ∀ disk options, (Command.check disk words options).1 =
      let found := Discovery.run disk options.extensions options.paths
      Report.of words (Schema.ofFiles disk options.schemas) found.skipped found.faults
        (found.paths.map fun path ↦ ⟨path, disk.loadDocument words path⟩) := by
  refine ⟨fun e ↦ ⟨rfl, rfl⟩, Report.accountsFor_ofFiles s skipped faults files,
    fun f _ d hd ↦ line_of_mem_diagnostics s hd,
    fun before f after fault h ↦ findings_of_fault s faults h before after, ?_,
    Command.check_fst words⟩
  rw [Tally.report, List.length_append, List.length_map]
  exact Nat.le_add_left _ _

end Report

/-- A file with three faulty fields, a file that is no document, and an empty one. -/
def nodeFiles : List LoadedFile :=
  [⟨"node.graphql", .ok nodeDocument⟩,
    ⟨"note.graphql", .error (.unparsable "note.graphql" "query parse error at 1:1")⟩,
    ⟨"empty.graphql", .ok ⟨[]⟩⟩]

/-- What is reported about them after a walk that has met a loop. -/
def nodeReport : List String :=
  ["node.graphql:3:5: Cannot query field \"name\" on type \"Node\". " ++
      "Did you mean to use an inline fragment on \"User\"?",
    "node.graphql:4:25: Cannot query field \"nmae\" on type \"User\". Did you mean \"name\"?",
    "node.graphql:6:5: Cannot query field \"owner\" on type \"Node\".",
    "File system loop found: a/b points to an ancestor a",
    "Failed to parse note.graphql: query parse error at 1:1"]

/-- An empty file, and a file with a fragment in which nothing is wrong. -/
def userFiles : List LoadedFile :=
  [⟨"empty.graphql", .ok ⟨[]⟩⟩,
    ⟨"user.graphql", .ok ⟨[.fragment ⟨⟨1, 1⟩, "F", "User", [], ⟨⟨1, 20⟩, ⟨1, 29⟩⟩,
      [.field ⟨⟨1, 22⟩, none, "name", [], []⟩ ⟨⟨1, 22⟩, ⟨1, 22⟩⟩ []]⟩]⟩⟩]

/-- What is printed about them. -/
def userReport : String :=
  "✅ All GraphQL validated successfully:\n  * Analyzed 2 files.\n" ++
    "  * Skipped 4 non-graphql files.\n  * Loaded 3 schema type definitions.\n" ++
    "  * Validated 1 operation and fragment definitions."

/-- Three findings about documents, a walk and a file that could not be read as a document make five
lines and a summary. A check without findings prints its four numbers. -/
theorem report_nodeFiles : ∃ s : Schema, s.Built ∧
    Report.of .brief (.ok s) 4 [.loop "a/b" "a"] nodeFiles =
      ⟨false, some ("\n".intercalate nodeReport),
        some "❌ Found 3 validation errors in 1 files and 2 errors loading files."⟩ ∧
    findings s [.loop "a/b" "a"] nodeFiles =
      documentFindings s (nodeFiles.take 1 ++ nodeFiles.drop 2) ++
        [.unreached (.loop "a/b" "a"),
          .unloaded (.unparsable "note.graphql" "query parse error at 1:1")] ∧
    Report.of .brief (.ok s) 4 [] userFiles = ⟨true, some userReport, none⟩ := by
  have h : ∃ s : Schema, ∃ d : Draft, Draft.empty.load none nodeDeclarations = .ok d ∧
      d.build = .ok s ∧ (findings s [.loop "a/b" "a"] nodeFiles).map Finding.text = nodeReport ∧
      (nodeFiles.flatMap (LoadedFile.diagnostics s)).length = 3 ∧
      nodeFiles.countP (LoadedFile.isFaulty s) = 1 ∧
      (findings s [] userFiles).map Finding.text = [] ∧ s.definedTypes.length = 3 :=
    ⟨_, _, rfl, rfl, by decide +kernel⟩
  obtain ⟨s, d, hd, hs, hlines, hthree, hone, hnone, htypes⟩ := h
  obtain ⟨-, haccounts, -, hfault, -, -⟩ :=
    report_accounts .brief s 4 [.loop "a/b" "a"] nodeFiles
  obtain ⟨-, huser, -, -, -, -⟩ := report_accounts .brief s 4 [] userFiles
  have hne : findings s [.loop "a/b" "a"] nodeFiles ≠ [] := fun hnil ↦ by
    rw [hnil] at hlines
    cases hlines
  have hnil : findings s [] userFiles = [] := List.map_eq_nil_iff.1 hnone
  have hsummary := haccounts.summary hne
  rw [hthree, hone] at hsummary
  obtain ⟨hstderr, hstdout⟩ := huser.extent hnil
  rw [htypes] at hstdout
  refine ⟨s, ⟨d, .load none nodeDeclarations .empty hd, hs⟩, ?_, ?_, ?_⟩
  · refine Outcome.ext ?_ ?_ (hsummary.trans (by decide +kernel))
    · exact Bool.eq_false_iff.2 (mt haccounts.success_iff.1 hne)
    · rw [haccounts.report hne, hlines]
  · exact hfault (nodeFiles.take 1) _ (nodeFiles.drop 2) _ rfl
  · exact Outcome.ext (huser.success_iff.2 hnil) (hstdout.trans (by decide +kernel)) hstderr

end GraphQLCheck
