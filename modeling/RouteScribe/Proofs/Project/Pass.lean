import RouteScribe.Project.Pass
import RouteScribe.Proofs.Documentation
import RouteScribe.Proofs.Project.Tree
import RouteScribe.Shell.Run

/-!
# What a pass leaves on disk

A pass that cannot load its program changes nothing.  A pass that comes to an error in a
file has written the document up to this file.  A pass that succeeds has written the
whole document, and nothing else but the directories above it, before its hook starts;
no other pass runs its hook.
-/

namespace RouteScribe.Route

open RouteScribe.Blueprint RouteScribe.Schema RouteScribe.Source

/-! ## A hook does not change the document -/

theorem scan_afterHook (file : SourceFile) (types : TypeTable) (config : Config)
    (hook : Option String) :
    scan { file, types, config := { config with afterHook := hook } } =
      scan { file, types, config } :=
  Context.TypedAlike.scan_eq ⟨rfl, rfl, rfl⟩ rfl rfl rfl

end RouteScribe.Route

namespace RouteScribe.Project

open RouteScribe.Blueprint RouteScribe.Config RouteScribe.Route RouteScribe.Schema
open RouteScribe.Source RouteScribe.Text

/-- The hook has no part in documenting a program. -/
theorem documentProgram_afterHook (config : Config) (hook : Option String)
    (files : List SourceFile) :
    documentProgram { config with afterHook := hook } files = documentProgram config files := by
  have hfiles : ∀ (types : TypeTable) (rest : List SourceFile),
      documentFiles { config with afterHook := hook } types rest =
        documentFiles config types rest := by
    intro types rest
    induction rest with
    | nil => rfl
    | cons file rest ih =>
        unfold documentFiles
        rw [scan_afterHook, ih]
  unfold documentProgram
  rw [hfiles]

/-- A pass whose hook runs in the end, if there is one and the pass succeeds. -/
def PassRun.hooked (shell : SystemShell) (config : Config) (run : PassRun) : PassRun :=
  match run.result with
  | .ok result => finishPass shell config run.disk run.events run.lines result
  | .error _ => run

/-- Writing a document with a hook is writing it without one and then running the hook. -/
theorem writeDocument_eq_hooked (shell : SystemShell) (config : Config)
    (files : List SourceFile) (disk : Disk) :
    writeDocument shell config files disk =
      (writeDocument shell { config with afterHook := none } files disk).hooked
        shell config := by
  have hdocument := documentProgram_afterHook config none files
  unfold writeDocument
  rw [hdocument]
  dsimp only
  split
  · rfl
  · split
    · rfl
    · rfl

/-- A pass is a pass without a hook, and then its hook. -/
theorem runPass_eq_hooked (shell : SystemShell) (config : Config) (roots : List Path)
    (disk : Disk) :
    runPass shell config roots disk =
      (runPass shell { config with afterHook := none } roots disk).hooked
        shell config := by
  unfold runPass
  dsimp only
  split
  · rfl
  · split
    · rfl
    · exact writeDocument_eq_hooked shell config _ _

/-! ## The ways of a pass -/

/-- How a pass without a hook goes, from a tree to what it leaves. -/
inductive Passes (config : Config) (roots : List Path) (disk : Disk) : PassRun → Prop where
  /-- The program cannot be loaded. -/
  | unloaded {failure : LoadFailure}
      (hload : loadProgram disk (discover disk config.exclude roots) = .error failure) :
      Passes config roots disk { disk, result := .error (.ofLoad failure) }
  /-- The directory of the document cannot be created. -/
  | unprepared {files : List SourceFile} {prepared : Disk} {error : FileError}
      (hload : loadProgram disk (discover disk config.exclude roots) = .ok files)
      (hprepare : disk.ensureDirectory (Path.ofString config.output).parent =
        (prepared, .error error)) :
      Passes config roots disk { disk := prepared, result := .error (.file error) }
  /-- The document cannot be written. -/
  | unwritten {files : List SourceFile} {prepared : Disk} {fault : FileFault}
      (hload : loadProgram disk (discover disk config.exclude roots) = .ok files)
      (hprepare : disk.ensureDirectory (Path.ofString config.output).parent =
        (prepared, .ok ()))
      (hwrite : prepared.write (Path.ofString config.output)
        (Utf8.encode (documentProgram config files).text.toList) = .error fault) :
      Passes config roots disk
        { disk := prepared, result := .error (.file ⟨fault, Path.ofString config.output⟩) }
  /-- The document ends with an error. -/
  | stopped {files : List SourceFile} {prepared written : Disk} {error : DocumentError}
      (hload : loadProgram disk (discover disk config.exclude roots) = .ok files)
      (hprepare : disk.ensureDirectory (Path.ofString config.output).parent =
        (prepared, .ok ()))
      (hwrite : prepared.write (Path.ofString config.output)
        (Utf8.encode (documentProgram config files).text.toList) = .ok written)
      (houtcome : (documentProgram config files).outcome = .error error) :
      Passes config roots disk
        { disk := written, events := (documentProgram config files).events
          lines := linesByPath files, result := .error (.document error) }
  /-- The document is whole. -/
  | finished {files : List SourceFile} {prepared written : Disk} {routers : Nat}
      (hload : loadProgram disk (discover disk config.exclude roots) = .ok files)
      (hprepare : disk.ensureDirectory (Path.ofString config.output).parent =
        (prepared, .ok ()))
      (hwrite : prepared.write (Path.ofString config.output)
        (Utf8.encode (documentProgram config files).text.toList) = .ok written)
      (houtcome : (documentProgram config files).outcome = .ok routers) :
      Passes config roots disk
        { disk := written
          events := (documentProgram config files).events ++
            [.record (passSummary routers files.length (Path.ofString config.output))]
          lines := linesByPath files
          result := .ok
            { output := Path.ofString config.output, files := files.length, routers
              hook := none } }

/-- A pass without a hook ends in one of the ways of a pass. -/
theorem runPass_passes (shell : SystemShell) (config : Config) (roots : List Path)
    (disk : Disk) :
    Passes config roots disk
      (runPass shell { config with afterHook := none } roots disk) := by
  unfold runPass
  dsimp only
  split
  · rename_i error hload
    exact .unloaded hload
  · rename_i files hload
    split
    · rename_i prepared error hprepare
      exact .unprepared hload hprepare
    · rename_i prepared hprepare
      have hdocument := documentProgram_afterHook config none files
      unfold writeDocument
      rw [hdocument]
      dsimp only
      split
      · rename_i fault hwrite
        exact .unwritten hload hprepare hwrite
      · rename_i written hwrite
        split
        · rename_i error houtcome
          exact .stopped hload hprepare hwrite houtcome
        · rename_i routers houtcome
          exact .finished hload hprepare hwrite houtcome

/-! ## What is left -/

def afterHook (shell : SystemShell) (config : Config) (disk : Disk) : Disk :=
  match config.afterHook.filter (· ≠ "") with
  | none => disk
  | some command => (runHook shell disk command).disk

/-- A hook starts where a pass that succeeds has ended, and leaves its numbers alone. -/
theorem hooked_of_ok {shell : SystemShell} {config : Config} {run : PassRun}
    {result : PassResult} (hresult : (run.hooked shell config).result = .ok result) :
    ∃ plain, run.result = .ok plain ∧ result.files = plain.files ∧
      result.routers = plain.routers ∧
      (run.hooked shell config).disk = afterHook shell config run.disk := by
  unfold PassRun.hooked at hresult ⊢
  cases hrun : run.result with
  | error cause =>
      rw [hrun] at hresult
      dsimp only at hresult
      rw [hrun] at hresult
      cases hresult
  | ok plain =>
      rw [hrun] at hresult
      dsimp only at hresult ⊢
      unfold finishPass at hresult ⊢
      unfold afterHook
      cases hcommand : config.afterHook.filter (· ≠ "") with
      | none =>
          rw [hcommand] at hresult
          injection hresult with hresult
          exact ⟨plain, rfl, by rw [hresult], by rw [hresult], rfl⟩
      | some command =>
          rw [hcommand] at hresult
          dsimp only at hresult
          split at hresult
          · injection hresult with hresult
            exact ⟨plain, rfl, by rw [← hresult], by rw [← hresult], rfl⟩
          · cases hresult

section

variable {config : Config} {files : List SourceFile}

/-- A program whose routers can be written has its whole document, or the one of the files
before the first that cannot be scanned. -/
theorem documentProgram_whole_or_stopped
    (hincluded : ∀ file ∈ files, isExcluded config.exclude file.path.text = false)
    (hwritable : (documentProgram config files).outcome ≠ .error .unwritable) :
    let types := TypeTable.ofFiles files
    let header := headerText config.host config.title config.description
    ((∀ file ∈ files, ∃ found, (scan { file, types, config }).result = .ok found) ∧
      (documentProgram config files).text =
        header ++ sectionsText (routersIn config types files) ∧
      (documentProgram config files).outcome = .ok (routersIn config types files).length) ∨
    ∃ before file after error, files = before ++ file :: after ∧
      (∀ earlier ∈ before, ∃ found,
        (scan { file := earlier, types, config }).result = .ok found) ∧
      (scan { file, types, config }).result = .error error ∧
      (documentProgram config files).text =
        header ++ sectionsText (routersIn config types before) ∧
      (documentProgram config files).outcome = .error (.scan error) := by
  intro types header
  have hfiles : (documentFiles config types files).outcome ≠ .error .unwritable := hwritable
  have htext : (documentProgram config files).text =
      header ++ (documentFiles config types files).text := rfl
  have houtcome : (documentProgram config files).outcome =
      (documentFiles config types files).outcome := rfl
  rw [htext, houtcome]
  clear_value types
  rcases scans_or_stops config types files with
    hscans | ⟨before, file, after, error, rfl, hbefore, hfile⟩
  · rw [documentFiles_of_all_ok hincluded hscans hfiles]
    exact .inl ⟨hscans, rfl, rfl⟩
  · rw [documentFiles_of_first_error hincluded hbefore hfile hfiles]
    exact .inr ⟨before, file, after, error, rfl, hbefore, hfile, rfl, rfl⟩

end

/-- The content of the document of some files, which need not be all files of a program. -/
def documentBytes (config : Config) (types : TypeTable) (files : List SourceFile) :
    List UInt8 :=
  Utf8.encode (headerText config.host config.title config.description ++
    sectionsText (routersIn config types files)).toList

namespace Passes

variable {config : Config} {roots : List Path} {disk : Disk} {run : PassRun}

/-- A document that is written can be read, and nothing else has changed but directories
above it. -/
theorem written_changesOnly {prepared written : Disk} {output : Path} {content : List UInt8}
    (hprepare : disk.ensureDirectory output.parent = (prepared, .ok ()))
    (hwrite : prepared.write output content = .ok written) :
    written.read output = .ok content ∧
      Disk.ChangesOnly (fun names => written.place output = .ok names)
        (Path.LeadsTo · output.parent) disk written := by
  have hprepared := Disk.ensureDirectory_changesOnly disk output.parent
  rw [hprepare] at hprepared
  exact Disk.write_changesOnly hprepared hwrite

/-- A pass that succeeds has written the whole document of its program. -/
theorem of_ok {result : PassResult} (hpass : Passes config roots disk run)
    (hresult : run.result = .ok result) :
    ∃ files,
      let output := Path.ofString config.output
      let types := TypeTable.ofFiles files
      loadProgram disk (discover disk config.exclude roots) = .ok files ∧
      (∀ file ∈ files, ∃ found, (scan { file, types, config }).result = .ok found) ∧
      run.disk.read output = .ok (documentBytes config types files) ∧
      Disk.ChangesOnly (fun names => run.disk.place output = .ok names)
        (Path.LeadsTo · output.parent) disk run.disk ∧
      result.files = files.length ∧
      result.routers = (routersIn config types files).length := by
  cases hpass with
  | @unloaded failure => cases failure <;> cases hresult
  | unprepared => cases hresult
  | unwritten => cases hresult
  | stopped => cases hresult
  | @finished files _ _ _ hload hprepare hwrite houtcome =>
      cases hresult
      have hincluded := not_isExcluded_of_loaded hload
      have hwritable : (documentProgram config files).outcome ≠ .error .unwritable := by
        rw [houtcome]
        exact nofun
      obtain ⟨hscans, htext, hcount⟩ | ⟨_, _, _, _, _, _, _, _, hstop⟩ :=
        documentProgram_whole_or_stopped hincluded hwritable
      · cases hcount.symm.trans houtcome
        obtain ⟨hread, hchanges⟩ := written_changesOnly hprepare hwrite
        rw [htext] at hread
        exact ⟨files, hload, hscans, hread, hchanges, rfl, rfl⟩
      · cases hstop.symm.trans houtcome

end Passes

/-- A tree with two sources, of which the second has a mistake. -/
def sampleDisk : Disk :=
  { top := .directory 1
      [("users.py", .file 1 (Utf8.encode usersText.toList)),
        ("web", .directory 1 [("accounts.py", .file 1 (Utf8.encode accountsText.toList))])]
    clock := 2 }

end RouteScribe.Project
