import RouteScribe.Documentation
import RouteScribe.Proofs.Project.Discovery
import RouteScribe.Proofs.Route.Stopping

/-!
# A document, file by file

The document of a program is its header and the sections of its files in order.  A file
contributes all of its sections or none: a scan that fails ends the document after the
last whole file before it, and what was reported until then stands.
-/

namespace RouteScribe.Blueprint

/-- Writing pieces one after the other goes on to the end if it does for each piece. -/
theorem Written.complete_all {pieces : List Written} :
    (all pieces).complete = true ↔ ∀ piece ∈ pieces, piece.complete = true := by
  induction pieces with
  | nil => simp [all, done]
  | cons piece pieces ih =>
      cases hpiece : piece.complete with
      | false => simp [all, andThen, hpiece]
      | true => simp [all, andThen, hpiece, ih]

theorem Written.text_all {pieces : List Written} (hcomplete : (all pieces).complete = true) :
    (all pieces).text = String.join (pieces.map Written.text) := by
  induction pieces with
  | nil => rfl
  | cons piece pieces ih =>
      have hall := complete_all.mp hcomplete
      rw [List.forall_mem_cons, ← complete_all] at hall
      simp only [all, andThen, hall.1, if_true, ih hall.2, List.map_cons, String.join_cons]

def sectionsText (routers : List Router) : String :=
  String.join (routers.map fun router => (writeRouter router).text)

theorem sectionsText_append (routers others : List Router) :
    sectionsText (routers ++ others) = sectionsText routers ++ sectionsText others := by
  simp only [sectionsText, List.map_append, String.join_append]

end RouteScribe.Blueprint

namespace RouteScribe

open RouteScribe.Blueprint RouteScribe.Config RouteScribe.Project RouteScribe.Route
open RouteScribe.Schema RouteScribe.Source

/-! ## What a file contributes -/

/-- The files whose path does not contain an excluded text. -/
def includedFiles (config : Config) (files : List SourceFile) : List SourceFile :=
  files.filter fun file => !isExcluded config.exclude file.path.text

section

variable (config : Config) (types : TypeTable)

/-- The routers that the scan of a file finds, none if it fails. -/
def routersOf (file : SourceFile) : List Router :=
  (scan { file, types, config }).result.toOption.getD []

def routersIn (files : List SourceFile) : List Router :=
  files.flatMap (routersOf config types)

/-- What happens while a file is scanned to its end. -/
def fileEvents (file : SourceFile) : List Event :=
  (scan { file, types, config }).diagnostics.map .diagnostic ++
    [.record (scanSummary file (routersOf config types file))]

end

def Event.diagnostic? : Event → Option Diagnostic
  | .diagnostic report => some report
  | .record _ => none

def Documented.diagnostics (documented : Documented) : List Diagnostic :=
  documented.events.filterMap Event.diagnostic?

theorem diagnostics_of_map (diagnostics : List Diagnostic) :
    (diagnostics.map Event.diagnostic).filterMap Event.diagnostic? = diagnostics := by
  simp [List.filterMap_map, Function.comp_def, Event.diagnostic?]

theorem diagnostics_of_fileEvents (config : Config) (types : TypeTable)
    (files : List SourceFile) :
    (files.flatMap (fileEvents config types)).filterMap Event.diagnostic? =
      files.flatMap fun file => (scan { file, types, config }).diagnostics := by
  induction files with
  | nil => rfl
  | cons file files ih =>
      rw [List.flatMap_cons, List.filterMap_append, ih, fileEvents, List.filterMap_append,
        diagnostics_of_map, List.flatMap_cons]
      simp [Event.diagnostic?]

/-! ## One file and many -/

section

variable {config : Config} {types : TypeTable} {file : SourceFile} {files : List SourceFile}

theorem routersOf_of_ok {routers : List Router}
    (hscan : (scan { file, types, config }).result = .ok routers) :
    routersOf config types file = routers := by
  rw [routersOf, hscan]
  rfl

/-- Excluded files leave no trace. -/
theorem documentFiles_includedFiles (config : Config) (types : TypeTable)
    (files : List SourceFile) :
    documentFiles config types (includedFiles config files) =
      documentFiles config types files := by
  induction files with
  | nil => rfl
  | cons file files ih =>
      cases hexcluded : isExcluded config.exclude file.path.text with
      | true =>
          rw [documentFiles, if_pos hexcluded, ← ih]
          simp [includedFiles, hexcluded]
      | false =>
          have hcons : includedFiles config (file :: files) =
              file :: includedFiles config files := by
            simp [includedFiles, hexcluded]
          rw [hcons, documentFiles, documentFiles, ih]

/-- A file whose scan fails ends the document before it. -/
theorem documentFiles_of_error {error : ScanError}
    (hincluded : isExcluded config.exclude file.path.text = false)
    (hscan : (scan { file, types, config }).result = .error error) :
    documentFiles config types (file :: files) =
      { text := ""
        events := (scan { file, types, config }).diagnostics.map .diagnostic
        outcome := .error (.scan error) } := by
  rw [documentFiles, if_neg (by simp [hincluded])]
  dsimp only
  rw [hscan]

/-- A file that can be scanned and written comes in front of the others. -/
theorem documentFiles_of_ok {routers : List Router}
    (hincluded : isExcluded config.exclude file.path.text = false)
    (hscan : (scan { file, types, config }).result = .ok routers)
    (hwritable : (documentFiles config types (file :: files)).outcome ≠ .error .unwritable) :
    documentFiles config types (file :: files) =
      { text := sectionsText routers ++ (documentFiles config types files).text
        events := fileEvents config types file ++ (documentFiles config types files).events
        outcome := (documentFiles config types files).outcome.map (· + routers.length) } := by
  rw [documentFiles, if_neg (by simp [hincluded])] at hwritable ⊢
  dsimp only at hwritable ⊢
  rw [hscan] at hwritable ⊢
  dsimp only at hwritable ⊢
  split at hwritable
  · rename_i hcomplete
    rw [if_pos hcomplete, Written.text_all hcomplete, fileEvents, routersOf_of_ok hscan,
      List.map_map]
    rfl
  · exact absurd rfl hwritable

/-- Files that can be scanned and written come in front of the others as a whole. -/
theorem documentFiles_append {before after : List SourceFile}
    (hincluded : ∀ file ∈ before, isExcluded config.exclude file.path.text = false)
    (hscans : ∀ file ∈ before, ∃ routers, (scan { file, types, config }).result = .ok routers)
    (hwritable : (documentFiles config types (before ++ after)).outcome ≠ .error .unwritable) :
    documentFiles config types (before ++ after) =
      { text := sectionsText (routersIn config types before) ++
          (documentFiles config types after).text
        events := before.flatMap (fileEvents config types) ++
          (documentFiles config types after).events
        outcome := (documentFiles config types after).outcome.map
          (· + (routersIn config types before).length) } := by
  induction before with
  | nil =>
      have hkept : (documentFiles config types after).outcome.map (· + 0) =
          (documentFiles config types after).outcome := by
        cases (documentFiles config types after).outcome <;> rfl
      simp only [List.nil_append, routersIn, List.flatMap_nil, List.length_nil, hkept]
      exact congrArg (Documented.mk · _ _) (String.empty_append).symm
  | cons file before ih =>
      rw [List.forall_mem_cons] at hincluded hscans
      obtain ⟨routers, hrouters⟩ := hscans.1
      have hcons : routersIn config types (file :: before) =
          routers ++ routersIn config types before := by
        rw [routersIn, List.flatMap_cons, routersOf_of_ok hrouters, ← routersIn]
      rw [List.cons_append] at hwritable ⊢
      have hstep := documentFiles_of_ok hincluded.1 hrouters hwritable
      rw [hstep] at hwritable ⊢
      have hrest : (documentFiles config types (before ++ after)).outcome ≠
          .error .unwritable := by
        intro hunwritable
        rw [hunwritable] at hwritable
        exact hwritable rfl
      rw [ih hincluded.2 hscans.2 hrest, hcons, sectionsText_append, List.length_append,
        List.flatMap_cons]
      simp only [String.append_assoc, List.append_assoc]
      congr 1
      cases (documentFiles config types after).outcome with
      | error error => rfl
      | ok count =>
          simp only [Except.map]
          congr 1
          omega

/-- Files that can all be scanned and written make up the whole document. -/
theorem documentFiles_of_all_ok
    (hincluded : ∀ file ∈ files, isExcluded config.exclude file.path.text = false)
    (hscans : ∀ file ∈ files, ∃ routers, (scan { file, types, config }).result = .ok routers)
    (hwritable : (documentFiles config types files).outcome ≠ .error .unwritable) :
    documentFiles config types files =
      { text := sectionsText (routersIn config types files)
        events := files.flatMap (fileEvents config types)
        outcome := .ok (routersIn config types files).length } := by
  rw [← List.append_nil files] at hwritable
  have hwhole := documentFiles_append hincluded hscans hwritable
  rw [List.append_nil] at hwhole
  rw [hwhole]
  simp only [documentFiles, String.append_empty, List.append_nil, Except.map, Nat.zero_add]

/-- The first file whose scan fails ends the document. -/
theorem documentFiles_of_first_error {before after : List SourceFile} {error : ScanError}
    (hincluded : ∀ earlier ∈ before ++ file :: after,
      isExcluded config.exclude earlier.path.text = false)
    (hscans : ∀ earlier ∈ before, ∃ routers,
      (scan { file := earlier, types, config }).result = .ok routers)
    (hscan : (scan { file, types, config }).result = .error error)
    (hwritable : (documentFiles config types (before ++ file :: after)).outcome ≠
      .error .unwritable) :
    documentFiles config types (before ++ file :: after) =
      { text := sectionsText (routersIn config types before)
        events := before.flatMap (fileEvents config types) ++
          (scan { file, types, config }).diagnostics.map .diagnostic
        outcome := .error (.scan error) } := by
  rw [List.forall_mem_append, List.forall_mem_cons] at hincluded
  rw [documentFiles_append hincluded.1 hscans hwritable,
    documentFiles_of_error hincluded.2.1 hscan]
  simp only [String.append_empty, Except.map]

/-- Either all files can be scanned, or there is a first one that cannot. -/
theorem scans_or_stops (config : Config) (types : TypeTable) (files : List SourceFile) :
    (∀ file ∈ files, ∃ routers, (scan { file, types, config }).result = .ok routers) ∨
      ∃ before file after error, files = before ++ file :: after ∧
        (∀ earlier ∈ before, ∃ routers,
          (scan { file := earlier, types, config }).result = .ok routers) ∧
        (scan { file, types, config }).result = .error error := by
  induction files with
  | nil => exact .inl (List.forall_mem_nil _)
  | cons file files ih =>
      cases hscan : (scan { file, types, config }).result with
      | error error => exact .inr ⟨[], file, files, error, rfl, List.forall_mem_nil _, hscan⟩
      | ok routers =>
          rcases ih with hall | ⟨before, stop, after, error, rfl, hbefore, hstop⟩
          · exact .inl (List.forall_mem_cons.mpr ⟨⟨routers, hscan⟩, hall⟩)
          · exact .inr ⟨file :: before, stop, after, error, rfl,
              List.forall_mem_cons.mpr ⟨⟨routers, hscan⟩, hbefore⟩, hstop⟩

end

/-! ## A whole program -/

/-- The document of a program has the sections of all files that are not excluded, and
as many routers are counted.  If the scan of a file fails, the document has the sections
of the files before it and none of its own, and the diagnostics are those of the files
before it with those of the file up to the error.  This is said of programs whose routers
can be written. -/
theorem documentProgram_file_by_file (config : Config) (files : List SourceFile)
    (hwritable : (documentProgram config files).outcome ≠ .error .unwritable) :
    let types := TypeTable.ofFiles files
    let header := headerText config.host config.title config.description
    let included := includedFiles config files
    let scanOf (file : SourceFile) := scan { file, types, config }
    let documented := documentProgram config files
    ((∀ file ∈ included, ∃ routers, (scanOf file).result = .ok routers) →
      documented.text = header ++ sectionsText (routersIn config types included) ∧
      documented.outcome = .ok (routersIn config types included).length ∧
      documented.diagnostics = included.flatMap fun file => (scanOf file).diagnostics) ∧
    ∀ before file after error, included = before ++ file :: after →
      (∀ earlier ∈ before, ∃ routers, (scanOf earlier).result = .ok routers) →
      (scanOf file).result = .error error →
      documented.text = header ++ sectionsText (routersIn config types before) ∧
      documented.outcome = .error (.scan error) ∧
      documented.diagnostics =
        before.flatMap (fun earlier => (scanOf earlier).diagnostics) ++
          (scanOf file).diagnostics ∧
      ({ file, types, config } : Context).StopsWith error (scanOf file).diagnostics := by
  intro types header included scanOf documented
  have hincluded : ∀ file ∈ included, isExcluded config.exclude file.path.text = false := by
    intro file hfile
    simpa using (List.mem_filter.mp hfile).2
  have hdocumented : documented =
      { text := header ++ (documentFiles config types included).text
        events := (documentFiles config types included).events
        outcome := (documentFiles config types included).outcome } := by
    rw [documentFiles_includedFiles config types files]
    rfl
  have houtcome : (documentFiles config types included).outcome ≠ .error .unwritable := by
    rwa [documentFiles_includedFiles config types files]
  constructor
  · intro hscans
    rw [hdocumented, documentFiles_of_all_ok hincluded hscans houtcome]
    exact ⟨rfl, rfl, diagnostics_of_fileEvents config types included⟩
  · intro before file after error hsplit hscans hscan
    rw [hsplit] at hincluded houtcome
    rw [hdocumented, hsplit, documentFiles_of_first_error hincluded hscans hscan houtcome]
    refine ⟨rfl, rfl, ?_, scan_stopsWith hscan⟩
    rw [Documented.diagnostics, List.filterMap_append, diagnostics_of_fileEvents,
      diagnostics_of_map]

/-- A program with one routing object. -/
def usersText : String :=
  "api = Router()\n# List users\napi.get(\"/users\")\n"

/-- A program with two routing objects, of which the second has two paths. -/
def accountsText : String :=
  "api = Router()\n# @route /a\n# @route /b\nweb = Router()\n# Log in\napi.post(\"/login\")\n" ++
    "# Show\nweb.get(\"/\")\n"

/-- The program with one routing object as it is read. -/
@[irreducible]
def usersFile : SourceFile :=
  (SourceFile.read? ⟨"", ["users.py"]⟩ usersText).get (by decide +kernel)

/-- The program with two routing objects as it is read. -/
@[irreducible]
def accountsFile : SourceFile :=
  (SourceFile.read? ⟨"", ["web", "accounts.py"]⟩ accountsText).get (by decide +kernel)

theorem read_usersText : SourceFile.read? ⟨"", ["users.py"]⟩ usersText = some usersFile := by
  unfold usersFile
  exact (Option.some_get _).symm

theorem read_accountsText :
    SourceFile.read? ⟨"", ["web", "accounts.py"]⟩ accountsText = some accountsFile := by
  unfold accountsFile
  exact (Option.some_get _).symm

/-- A program whose second file is excluded and whose third file has a mistake. -/
def sampleFiles : List SourceFile :=
  [usersFile, { usersFile with path := ⟨"", ["vendor", "users.py"]⟩ }, accountsFile, usersFile]

def sampleConfig : Config :=
  { output := "docs/api.apib", exclude := ["vendor"] }

/-- Whether a document can be written as far as it goes. -/
def Documented.isWritten (documented : Documented) : Bool :=
  match documented.outcome with
  | .error .unwritable => false
  | _ => true

theorem Documented.outcome_ne_unwritable {documented : Documented}
    (hwritten : documented.isWritten = true) : documented.outcome ≠ .error .unwritable := by
  intro hunwritable
  rw [isWritten, hunwritable] at hwritten
  cases hwritten

theorem exists_eq_ok {ε α : Type} {result : Except ε α} (hok : result.isOk = true) :
    ∃ value, result = .ok value := by
  cases result with
  | ok value => exact ⟨value, rfl⟩
  | error error => cases hok

theorem exists_eq_error {ε α : Type} {result : Except ε α} (herror : result.isOk = false) :
    ∃ error, result = .error error := by
  cases result with
  | ok value => cases herror
  | error error => exact ⟨error, rfl⟩

theorem includedFiles_sampleFiles :
    includedFiles sampleConfig sampleFiles = [usersFile, accountsFile, usersFile] := by
  have husers : isExcluded ["vendor"] usersFile.path.text = false := by
    rw [path_of_read read_usersText]
    decide +kernel
  have haccounts : isExcluded ["vendor"] accountsFile.path.text = false := by
    rw [path_of_read read_accountsText]
    decide +kernel
  have hvendor : isExcluded ["vendor"] (⟨"", ["vendor", "users.py"]⟩ : Path).text = true := by
    decide +kernel
  simp [includedFiles, sampleFiles, sampleConfig, husers, haccounts, hvendor]

theorem sampleFiles_scans :
    let types := TypeTable.ofFiles sampleFiles
    let accounts : Context := { file := accountsFile, types, config := sampleConfig }
    (scan { file := usersFile, types, config := sampleConfig }).result.isOk = true ∧
      (scan accounts).result.isOk = false ∧
      (documentedBlocks accounts (sightingsIn ["Router"] accountsFile.module)).length = 2 ∧
      (documentProgram sampleConfig sampleFiles).isWritten = true := by
  decide +kernel

/-- Both registrations of the third file are documented, and still nothing of it is
written. -/
theorem documentProgram_file_by_file_sample :
    let types := TypeTable.ofFiles sampleFiles
    let accounts : Context := { file := accountsFile, types, config := sampleConfig }
    (scan accounts).result.isOk = false ∧
      (documentedBlocks accounts (sightingsIn ["Router"] accountsFile.module)).length = 2 ∧
      (documentProgram sampleConfig sampleFiles).text =
        headerText sampleConfig.host sampleConfig.title sampleConfig.description ++
          sectionsText (routersIn sampleConfig types [usersFile]) := by
  intro types accounts
  obtain ⟨husers, haccounts, hblocks, hwritten⟩ := sampleFiles_scans
  obtain ⟨routers, hrouters⟩ := exists_eq_ok husers
  obtain ⟨error, herror⟩ := exists_eq_error haccounts
  have hfiles := documentProgram_file_by_file sampleConfig sampleFiles
    (Documented.outcome_ne_unwritable hwritten)
  dsimp only at hfiles
  have hstopped := hfiles.2 [usersFile] accountsFile [usersFile] error includedFiles_sampleFiles
    (List.forall_mem_singleton.mpr ⟨routers, hrouters⟩) herror
  exact ⟨haccounts, hblocks, hstopped.1⟩

end RouteScribe
