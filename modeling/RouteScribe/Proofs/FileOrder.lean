import RouteScribe.Proofs.Documentation
import RouteScribe.Proofs.Schema.Lookup

/-!
# Files in any order

Where no type is defined twice, the order in which files are given decides nothing but
the order of their sections.  A scan sees the other files through the types they define,
and these are the same in any order.  Whether a document comes to its end depends on the
files one by one.
-/

namespace RouteScribe

open RouteScribe.Blueprint RouteScribe.Config RouteScribe.Project RouteScribe.Route
open RouteScribe.Schema RouteScribe.Source

/-! ## Documents that come to their end -/

/-- A file can be scanned, and all of its sections can be written. -/
def IsWritable (config : Config) (types : TypeTable) (file : SourceFile) : Prop :=
  ∃ routers, (scan { file, types, config }).result = .ok routers ∧
    (Written.all (routers.map writeRouter)).complete = true

section

variable {config : Config} {types : TypeTable} {files : List SourceFile}

theorem not_isExcluded_of_included {file : SourceFile} (hfile : file ∈ includedFiles config files) :
    isExcluded config.exclude file.path.text = false := by
  simpa using (List.mem_filter.mp hfile).2

/-- One file more can be documented if it can be written and the others can be
documented. -/
theorem exists_outcome_cons {file : SourceFile}
    (hincluded : isExcluded config.exclude file.path.text = false) :
    (∃ count, (documentFiles config types (file :: files)).outcome = .ok count) ↔
      IsWritable config types file ∧
        ∃ count, (documentFiles config types files).outcome = .ok count := by
  rw [documentFiles, if_neg (by simp [hincluded])]
  dsimp only
  cases hscan : (scan { file, types, config }).result with
  | error error => simp [IsWritable, hscan]
  | ok routers =>
      dsimp only
      cases hcomplete : (Written.all (routers.map writeRouter)).complete with
      | false => simp [IsWritable, hscan, hcomplete]
      | true =>
          cases (documentFiles config types files).outcome with
          | error error => simp [IsWritable, hscan, hcomplete, Except.map]
          | ok count => simp [IsWritable, hscan, hcomplete, Except.map]

theorem exists_outcome_iff
    (hincluded : ∀ file ∈ files, isExcluded config.exclude file.path.text = false) :
    (∃ count, (documentFiles config types files).outcome = .ok count) ↔
      ∀ file ∈ files, IsWritable config types file := by
  induction files with
  | nil => simp [documentFiles]
  | cons file files ih =>
      rw [List.forall_mem_cons] at hincluded
      rw [exists_outcome_cons hincluded.1, ih hincluded.2, List.forall_mem_cons]

/-- The document of a program comes to its end if each of its files can be written. -/
theorem exists_outcome_documentProgram (config : Config) (files : List SourceFile) :
    (∃ count, (documentProgram config files).outcome = .ok count) ↔
      ∀ file ∈ includedFiles config files, IsWritable config (.ofFiles files) file := by
  rw [← exists_outcome_iff fun _ => not_isExcluded_of_included, documentFiles_includedFiles]
  rfl

/-- The text and the count of a document that has come to its end. -/
theorem documentProgram_of_ok {count : Nat}
    (houtcome : (documentProgram config files).outcome = .ok count) :
    let routers := routersIn config (.ofFiles files) (includedFiles config files)
    (documentProgram config files).text =
        headerText config.host config.title config.description ++ sectionsText routers ∧
      count = routers.length := by
  intro routers
  have hscans : ∀ file ∈ includedFiles config files, ∃ found,
      (scan { file, types := .ofFiles files, config }).result = .ok found := by
    intro file hfile
    obtain ⟨found, hfound, -⟩ :=
      (exists_outcome_documentProgram config files).mp ⟨count, houtcome⟩ file hfile
    exact ⟨found, hfound⟩
  have hfiles : (documentFiles config (.ofFiles files) (includedFiles config files)).outcome =
      .ok count := by
    rw [documentFiles_includedFiles]
    exact houtcome
  have hwhole := documentFiles_of_all_ok (fun _ => not_isExcluded_of_included) hscans
    (by simp [hfiles])
  rw [hwhole] at hfiles
  rw [documentFiles_includedFiles] at hwhole
  constructor
  · rw [documentProgram, hwhole]
  · exact (Except.ok.inj hfiles).symm

end

/-! ## Another order -/

section

variable {files others : List SourceFile} (hperm : files.Perm others) (honce : DefinedOnce files)

include hperm honce

theorem scan_of_perm (config : Config) (file : SourceFile) :
    scan { file, types := .ofFiles others, config } =
      scan { file, types := .ofFiles files, config } := by
  have hlookups := TypeTable.sameLookups_of_perm hperm honce
  exact Context.TypedAlike.scan_eq ⟨rfl, hlookups.schemaOf_eq.symm, rfl⟩ rfl rfl rfl

theorem routersIn_of_perm (config : Config) :
    (routersIn config (.ofFiles others) (includedFiles config others)).Perm
      (routersIn config (.ofFiles files) (includedFiles config files)) := by
  have hrouters : routersOf config (.ofFiles others) = routersOf config (.ofFiles files) := by
    funext file
    rw [routersOf, routersOf, scan_of_perm hperm honce]
  rw [routersIn, routersIn, hrouters]
  exact (hperm.symm.filter _).flatMap_right _

/-- A program that succeeds does so in any order of its files, with as many files. -/
theorem outcome_of_perm {config : Config} {count : Nat}
    (houtcome : (documentProgram config files).outcome = .ok count) :
    (documentProgram config others).outcome = .ok count := by
  have hwritable := (exists_outcome_documentProgram config files).mp ⟨count, houtcome⟩
  have hothers : ∀ file ∈ includedFiles config others,
      IsWritable config (.ofFiles others) file := by
    intro file hfile
    rw [IsWritable, scan_of_perm hperm honce]
    exact hwritable file ((hperm.filter _).mem_iff.mpr hfile)
  obtain ⟨found, hfound⟩ := (exists_outcome_documentProgram config others).mpr hothers
  rw [hfound, (documentProgram_of_ok hfound).2, (documentProgram_of_ok houtcome).2,
    (routersIn_of_perm hperm honce config).length_eq]

end

/-- Where no class and no alias is defined twice, the order of files does not matter for
the schema of a type and for the scan of a file.  The document comes to its end in any
order or in none, with the same number of routers, and then it has the same sections in
the order of the files. -/
theorem document_in_any_order {files others : List SourceFile} (hperm : files.Perm others)
    (honce : DefinedOnce files) (config : Config) :
    let types := TypeTable.ofFiles files
    let otherTypes := TypeTable.ofFiles others
    let routers := routersIn config types (includedFiles config files)
    let otherRouters := routersIn config otherTypes (includedFiles config others)
    let header := headerText config.host config.title config.description
    (∀ text, otherTypes.schemaOf text = types.schemaOf text) ∧
      (∀ file, scan { file, types := otherTypes, config } = scan { file, types, config }) ∧
      otherRouters.Perm routers ∧
      ∀ count, ((documentProgram config others).outcome = .ok count ↔
          (documentProgram config files).outcome = .ok count) ∧
        ((documentProgram config files).outcome = .ok count →
          (documentProgram config files).text = header ++ sectionsText routers ∧
            (documentProgram config others).text = header ++ sectionsText otherRouters) := by
  intro types otherTypes routers otherRouters header
  have hcounts : ∀ count, (documentProgram config others).outcome = .ok count ↔
      (documentProgram config files).outcome = .ok count := by
    intro count
    constructor
    · exact outcome_of_perm hperm.symm (honce.of_perm hperm)
    · exact outcome_of_perm hperm honce
  refine ⟨?_, scan_of_perm hperm honce config, routersIn_of_perm hperm honce config, ?_⟩
  · intro text
    rw [(TypeTable.sameLookups_of_perm hperm honce).schemaOf_eq]
  · intro count
    refine ⟨hcounts count, ?_⟩
    intro hfiles
    have hothers := (hcounts count).mpr hfiles
    exact ⟨(documentProgram_of_ok hfiles).1, (documentProgram_of_ok hothers).1⟩

/-- A file with a class inside another one, and with a type alias of either form. -/
def typesFile : SourceFile where
  path := ⟨"", ["types.py"]⟩
  lines := []
  module :=
    [.classDef (.mk "User" [] [] []
      [.annotated ⟨2, 4⟩ (.name "key") (.name "Key") none,
        .classDef (.mk "Meta" [] [] [] [.idle])]),
      .assign ⟨5, 0⟩ [.name "Key"] (.binary (.name "int") .bitOr (.name "str")),
      .typeAlias "Keys" [] (.subscript (.name "list") (.name "Key"))]
  comments := []
  code := []

theorem definedOnce_typesFile : DefinedOnce [typesFile, usersFile] where
  classes := by decide +kernel
  aliases := by decide +kernel

theorem outcome_typesFile :
    (documentProgram sampleConfig [typesFile, usersFile]).outcome = .ok 1 := by
  have hcount : (documentProgram sampleConfig [typesFile, usersFile]).outcome.toOption =
      some 1 := by
    decide +kernel
  cases houtcome : (documentProgram sampleConfig [typesFile, usersFile]).outcome with
  | error error => simp [houtcome, Except.toOption] at hcount
  | ok count => simpa [houtcome, Except.toOption] using hcount

/-- The two files in the other order. -/
theorem document_in_any_order_sample :
    let files := [typesFile, usersFile]
    let others := [usersFile, typesFile]
    files.Perm others ∧ DefinedOnce files ∧
      (TypeTable.ofFiles others).schemaOf "User" = (TypeTable.ofFiles files).schemaOf "User" ∧
      (TypeTable.ofFiles others).schemaOf "Keys" = (TypeTable.ofFiles files).schemaOf "Keys" ∧
      (documentProgram sampleConfig others).outcome = .ok 1 ∧
      (documentProgram sampleConfig others).text =
        headerText sampleConfig.host sampleConfig.title sampleConfig.description ++
          sectionsText (routersIn sampleConfig (.ofFiles others)
            (includedFiles sampleConfig others)) := by
  intro files others
  have hperm : files.Perm others := List.Perm.swap usersFile typesFile []
  have horder := document_in_any_order hperm definedOnce_typesFile sampleConfig
  dsimp only at horder
  obtain ⟨hschemas, -, -, hdocument⟩ := horder
  exact ⟨hperm, definedOnce_typesFile, hschemas "User", hschemas "Keys",
    (hdocument 1).1.mpr outcome_typesFile, ((hdocument 1).2 outcome_typesFile).2⟩

end RouteScribe
