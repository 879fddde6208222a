import Mathlib.Data.String.Basic
import RouteScribe.Proofs.Project.Pass

/-!
# Which sources are discovered

What is discovered is what the roots stand for, without what is skipped or excluded.  The
sources of a root come in the order of their paths, and after those of the roots before
it.  A pass makes the same test for excluded files once more, which then leaves out
nothing, so that every source that was loaded is scanned and counted.
-/

namespace RouteScribe.Project

open RouteScribe.Route RouteScribe.Schema RouteScribe.Source RouteScribe.Text

variable {disk : Disk} {root path here : Path} {roots : List Path} {node : Node}
  {entries : List (String × Node)} {names : List String}

/-! ## What a root stands for -/

/-- Induction on nodes, with the statement for every entry of a directory. -/
@[elab_as_elim]
theorem Node.inductionOn {motive : Node → Prop} (node : Node)
    (file : ∀ stamp content, motive (.file stamp content))
    (directory : ∀ stamp (entries : List (String × Node)),
      (∀ entry ∈ entries, motive entry.2) → motive (.directory stamp entries)) : motive node :=
  @Node.rec motive (fun entries => ∀ entry ∈ entries, motive entry.2)
    (fun entry => motive entry.2) file directory (List.forall_mem_nil _)
    (fun _ _ hentry hentries => List.forall_mem_cons.mpr ⟨hentry, hentries⟩)
    (fun _ _ hnode => hnode) node

/-- The names that lead from a directory to what is in it, at any depth. -/
inductive Node.Holds : Node → List String → Prop where
  | entry {stamp : Int} {entries : List (String × Node)} {entry : String × Node}
      (hentry : entry ∈ entries) : Holds (.directory stamp entries) [entry.1]
  | deeper {stamp : Int} {entries : List (String × Node)} {entry : String × Node}
      {names : List String} (hentry : entry ∈ entries) (hnames : entry.2.Holds names) :
      Holds (.directory stamp entries) (entry.1 :: names)

def Path.under (path : Path) (names : List String) : Path :=
  { path with parts := path.parts ++ names }

theorem Path.under_cons (path : Path) (name : String) (names : List String) :
    path.under (name :: names) = (path.child name).under names := by
  simp [under, child]

theorem mem_pathsBelow : path ∈ pathsBelow here entries ↔
    ∃ entry ∈ entries, path = here.child entry.1 ∨
      path ∈ entry.2.descendants (here.child entry.1) := by
  induction entries with
  | nil => simp [pathsBelow]
  | cons entry entries ih => simp [pathsBelow, ih, or_assoc]

/-- What is below a directory is what it holds. -/
theorem mem_descendants :
    path ∈ node.descendants here ↔ ∃ names, node.Holds names ∧ path = here.under names := by
  constructor
  · intro hpath
    induction node using Node.inductionOn generalizing here with
    | file stamp content => cases hpath
    | directory stamp entries ih =>
        obtain ⟨entry, hentry, rfl | hinner⟩ := mem_pathsBelow.mp hpath
        · exact ⟨_, .entry hentry, rfl⟩
        · obtain ⟨names, hnames, rfl⟩ := ih entry hentry hinner
          exact ⟨_, .deeper hentry hnames, (here.under_cons entry.1 names).symm⟩
  · rintro ⟨names, hnames, rfl⟩
    induction hnames generalizing here with
    | entry hentry => exact mem_pathsBelow.mpr ⟨_, hentry, .inl rfl⟩
    | deeper hentry _ ih =>
        rw [Path.under_cons]
        exact mem_pathsBelow.mpr ⟨_, hentry, .inr ih⟩

/-- A root stands for itself if it is no directory, and for the sources in it otherwise. -/
inductive Disk.Yields (disk : Disk) (root : Path) : Path → Prop where
  | root (hroot : disk.isDirectory root = false) : Yields disk root root
  | source {node : Node} {names : List String} {stem : String} (hlook : disk.look root = .ok node)
      (hnames : node.Holds names) (hname : (root.under names).name = stem ++ ".py") :
      Yields disk root (root.under names)

theorem isSourceName_iff : isSourceName path = true ↔ ∃ stem, path.name = stem ++ ".py" := by
  rw [isSourceName, List.isSuffixOf_iff_suffix]
  constructor
  · rintro ⟨stem, hstem⟩
    refine ⟨.ofList stem, String.toList_inj.mp ?_⟩
    simpa using hstem.symm
  · rintro ⟨stem, hstem⟩
    rw [hstem, String.toList_append]
    exact List.suffix_append _ _

theorem candidates_of_not_isDirectory (hroot : disk.isDirectory root = false) :
    candidates disk root = [root] := by
  unfold candidates
  split
  · rename_i hlook
    rw [Disk.isDirectory, hlook] at hroot
    cases hroot
  · rfl

/-- A directory offers the sources below it, in the order of their paths. -/
theorem candidates_of_isDirectory (hroot : disk.isDirectory root = true) :
    ∃ node, disk.look root = .ok node ∧ candidates disk root =
      ((node.descendants root).filter isSourceName).mergeSort Path.le := by
  unfold Disk.isDirectory at hroot
  split at hroot
  · rename_i node hlook
    refine ⟨node, hlook, ?_⟩
    cases node with
    | file stamp content => cases hroot
    | directory stamp entries =>
        unfold candidates
        rw [hlook]
  · cases hroot

/-- The candidates of a root are the paths it yields. -/
theorem mem_candidates : path ∈ candidates disk root ↔ disk.Yields root path := by
  cases hroot : disk.isDirectory root with
  | false =>
      rw [candidates_of_not_isDirectory hroot, List.mem_singleton]
      constructor
      · rintro rfl
        exact .root hroot
      · intro hyields
        cases hyields with
        | root => rfl
        | source hlook hnames =>
            rw [Disk.isDirectory, hlook] at hroot
            cases hnames <;> cases hroot
  | true =>
      obtain ⟨node, hlook, hcandidates⟩ := candidates_of_isDirectory hroot
      rw [hcandidates, List.mem_mergeSort, List.mem_filter, mem_descendants, isSourceName_iff]
      constructor
      · rintro ⟨⟨names, hnames, rfl⟩, stem, hname⟩
        exact .source hlook hnames hname
      · intro hyields
        cases hyields with
        | root hfile =>
            rw [hroot] at hfile
            cases hfile
        | source hother hnames hname =>
            cases hlook.symm.trans hother
            exact ⟨⟨_, hnames, rfl⟩, _, hname⟩

/-! ## The order of paths -/

theorem partsLe_iff {left right : List String} :
    Path.partsLe left right = true ↔ ¬ List.Lex (· < ·) right left := by
  induction left generalizing right with
  | nil =>
      simp only [Path.partsLe, true_iff]
      intro hless
      cases hless
  | cons part left ih =>
      cases right with
      | nil => simp [Path.partsLe]
      | cons other right =>
          rw [Path.partsLe]
          split
          · rename_i hsame
            subst hsame
            rw [ih, List.lex_cons_iff]
          · rename_i hdiffers
            have hhead : List.Lex (· < ·) (other :: right) (part :: left) ↔ other < part := by
              constructor
              · intro hless
                cases hless with
                | rel hless => exact hless
                | cons => exact absurd rfl hdiffers
              · exact .rel
            rw [hhead, decide_eq_true_eq, not_lt]
            exact ⟨le_of_lt, fun hle => lt_of_le_of_ne hle hdiffers⟩

theorem Path.le_trans (left middle right : Path) (hleft : left.le middle = true)
    (hright : middle.le right = true) : left.le right = true := by
  rw [le, partsLe_iff] at hleft hright ⊢
  intro hless
  rcases IsOrderConnected.conn _ middle.allParts _ hless with hless | hless
  · exact hright hless
  · exact hleft hless

theorem Path.le_total (left right : Path) : (left.le right || right.le left) = true := by
  rw [Bool.or_eq_true, le, le, partsLe_iff, partsLe_iff, ← not_and_or]
  rintro ⟨hright, hleft⟩
  exact asymm hright hleft

/-- The sources of a root come in the order of their paths. -/
theorem pairwise_candidates (disk : Disk) (root : Path) :
    (candidates disk root).Pairwise fun left right => left.le right = true := by
  cases hroot : disk.isDirectory root with
  | false =>
      rw [candidates_of_not_isDirectory hroot]
      exact List.pairwise_singleton _ _
  | true =>
      obtain ⟨node, -, hcandidates⟩ := candidates_of_isDirectory hroot
      rw [hcandidates]
      exact List.pairwise_mergeSort Path.le_trans Path.le_total _

/-- Two paths that a root stands for differ in their parts. -/
theorem Disk.Yields.eq_of_allParts {other : Path} (hpath : disk.Yields root path)
    (hother : disk.Yields root other) (hparts : path.allParts = other.allParts) :
    path = other := by
  have hroot : ∀ path, disk.Yields root path → path.root = root.root := by
    intro path hpath
    cases hpath <;> rfl
  have hpath := hroot path hpath
  have hother := hroot other hother
  obtain ⟨start, parts⟩ := path
  obtain ⟨otherStart, otherParts⟩ := other
  cases hpath.trans hother.symm
  simp only [Path.allParts] at hparts
  split at hparts
  · rw [hparts]
  · rw [(List.cons.inj hparts).2]

theorem Disk.Yields.allParts_lt {other : Path} (hpath : disk.Yields root path)
    (hother : disk.Yields root other) (hle : path.le other = true) (hne : path ≠ other) :
    List.Lex (· < ·) path.allParts other.allParts := by
  rw [Path.le, partsLe_iff] at hle
  by_contra hless
  exact hne (hpath.eq_of_allParts hother (Std.Trichotomous.trichotomous _ _ hless hle))

/-! ## Lists without repetition -/

theorem appendNew_append (found paths more : List Path) :
    appendNew found (paths ++ more) = appendNew (appendNew found paths) more := by
  induction paths generalizing found with
  | nil => rfl
  | cons path paths ih => exact ih _

/-- What is appended comes in the order of the list that it is taken from, and is new. -/
theorem exists_appendNew_eq (found paths : List Path) :
    ∃ new, appendNew found paths = found ++ new ∧ new.Sublist paths ∧ new.Nodup ∧
      new.Disjoint found := by
  induction paths generalizing found with
  | nil => exact ⟨[], (List.append_nil found).symm, .slnil, .nil, List.disjoint_nil_left _⟩
  | cons path paths ih =>
      unfold appendNew
      split
      · obtain ⟨new, hnew, hsublist, hnodup, hdisjoint⟩ := ih found
        exact ⟨new, hnew, hsublist.cons _, hnodup, hdisjoint⟩
      · rename_i hpath
        obtain ⟨new, hnew, hsublist, hnodup, hdisjoint⟩ := ih (found ++ [path])
        rw [List.disjoint_append_right, List.disjoint_singleton] at hdisjoint
        refine ⟨path :: new, by rw [hnew, List.append_assoc, List.singleton_append],
          hsublist.cons_cons _, List.nodup_cons.mpr ⟨hdisjoint.2, hnodup⟩, ?_⟩
        exact List.disjoint_cons_left.mpr ⟨by simpa using hpath, hdisjoint.1⟩

/-! ## What is discovered -/

/-- Whether a path is neither skipped nor excluded. -/
def isKept (exclude : List String) (path : Path) : Bool :=
  !isSkipped path && !isExcluded exclude path.text

theorem isKept_iff {exclude : List String} : isKept exclude path = true ↔
    (∀ part ∈ path.allParts, part ∉ skippedNames) ∧
      ∀ fragment ∈ exclude, ¬ fragment.toList <:+: path.text.toList := by
  have hinfix : ∀ fragment : String, occursIn fragment.toList path.text.toList = true ↔
      fragment.toList <:+: path.text.toList := by
    intro fragment
    rw [occursIn_iff]
    exact exists₂_congr fun _ _ => eq_comm
  simp [isKept, isSkipped, isExcluded, ← hinfix]

theorem mem_discover {exclude : List String} : path ∈ discover disk exclude roots ↔
    (∃ root ∈ roots, disk.Yields root path) ∧ isKept exclude path = true := by
  rw [discover, mem_appendNew]
  simp [mem_candidates, isKept]

theorem nodup_discover (disk : Disk) (exclude : List String) (roots : List Path) :
    (discover disk exclude roots).Nodup := by
  obtain ⟨new, hnew, -, hnodup, -⟩ := exists_appendNew_eq []
    ((roots.flatMap (candidates disk)).filter fun path =>
      !isSkipped path && !isExcluded exclude path.text)
  rw [discover, hnew]
  exact hnodup

/-- The first root that stands for a path is the one with an index. -/
def Disk.FirstYields (disk : Disk) (roots : List Path) (index : Nat) (path : Path) : Prop :=
  ∃ before root after, roots = before ++ root :: after ∧ before.length = index ∧
    disk.Yields root path ∧ ∀ earlier ∈ before, ¬ disk.Yields earlier path

/-- A path comes before another one by the roots that stand for them, or by its parts if it
is the same root. -/
def Disk.Precedes (disk : Disk) (roots : List Path) (path other : Path) : Prop :=
  ∃ index otherIndex, disk.FirstYields roots index path ∧
    disk.FirstYields roots otherIndex other ∧
    (index < otherIndex ∨
      index = otherIndex ∧ List.Lex (· < ·) path.allParts other.allParts)

theorem Disk.FirstYields.append {index : Nat} (hfirst : disk.FirstYields roots index path)
    (more : List Path) : disk.FirstYields (roots ++ more) index path := by
  obtain ⟨before, root, after, rfl, hindex, hyields, hearlier⟩ := hfirst
  exact ⟨before, root, after ++ more, by simp, hindex, hyields, hearlier⟩

theorem Disk.Precedes.append {other : Path} (hprecedes : disk.Precedes roots path other)
    (more : List Path) : disk.Precedes (roots ++ more) path other := by
  obtain ⟨index, otherIndex, hpath, hother, horder⟩ := hprecedes
  exact ⟨index, otherIndex, hpath.append more, hother.append more, horder⟩

theorem Disk.FirstYields.last (hyields : disk.Yields root path)
    (hearlier : ∀ earlier ∈ roots, ¬ disk.Yields earlier path) :
    disk.FirstYields (roots ++ [root]) roots.length path :=
  ⟨roots, root, [], rfl, rfl, hyields, hearlier⟩

/-- A path that some root stands for has a first one. -/
theorem Disk.exists_firstYields (hyields : ∃ root ∈ roots, disk.Yields root path) :
    ∃ index < roots.length, disk.FirstYields roots index path := by
  induction roots using List.reverseRecOn with
  | nil =>
      obtain ⟨root, hroot, -⟩ := hyields
      cases hroot
  | append_singleton roots last ih =>
      by_cases hearlier : ∃ root ∈ roots, disk.Yields root path
      · obtain ⟨index, hindex, hfirst⟩ := ih hearlier
        refine ⟨index, ?_, hfirst.append [last]⟩
        rw [List.length_append]
        exact Nat.lt_add_right _ hindex
      · obtain ⟨root, hroot, hpath⟩ := hyields
        have hnone : ∀ earlier ∈ roots, ¬ disk.Yields earlier path := by
          intro earlier hmem hyields
          exact hearlier ⟨earlier, hmem, hyields⟩
        rcases List.mem_append.mp hroot with hroot | hroot
        · exact absurd hpath (hnone root hroot)
        · cases List.mem_singleton.mp hroot
          exact ⟨roots.length, by simp, .last hpath hnone⟩

/-- One more root adds its own sources behind those of the others. -/
theorem exists_discover_append (disk : Disk) (exclude : List String) (roots : List Path)
    (root : Path) :
    ∃ new, discover disk exclude (roots ++ [root]) = discover disk exclude roots ++ new ∧
      new.Sublist (candidates disk root) ∧ new.Nodup ∧
      ∀ path ∈ new, disk.Yields root path ∧ ∀ earlier ∈ roots, ¬ disk.Yields earlier path := by
  have happend : discover disk exclude (roots ++ [root]) =
      appendNew (discover disk exclude roots) ((candidates disk root).filter (isKept exclude)) := by
    rw [discover, List.flatMap_append, List.filter_append, appendNew_append,
      List.flatMap_singleton]
    rfl
  obtain ⟨new, hnew, hsublist, hnodup, hdisjoint⟩ := exists_appendNew_eq
    (discover disk exclude roots) ((candidates disk root).filter (isKept exclude))
  refine ⟨new, happend.trans hnew, hsublist.trans List.filter_sublist, hnodup, ?_⟩
  intro path hpath
  obtain ⟨hcandidate, hkept⟩ := List.mem_filter.mp (hsublist.mem hpath)
  refine ⟨mem_candidates.mp hcandidate, ?_⟩
  intro earlier hearlier hyields
  exact hdisjoint hpath (mem_discover.mpr ⟨⟨earlier, hearlier, hyields⟩, hkept⟩)

/-- What is discovered comes in the order of the roots, and below a root in path order. -/
theorem pairwise_discover (disk : Disk) (exclude : List String) (roots : List Path) :
    (discover disk exclude roots).Pairwise (disk.Precedes roots) := by
  induction roots using List.reverseRecOn with
  | nil => exact .nil
  | append_singleton roots root ih =>
      obtain ⟨new, happend, hsublist, hnodup, hnew⟩ :=
        exists_discover_append disk exclude roots root
      rw [happend, List.pairwise_append]
      refine ⟨ih.imp fun hprecedes => hprecedes.append [root], ?_, ?_⟩
      · have hordered := (pairwise_candidates disk root).sublist hsublist
        refine List.Pairwise.imp_of_mem ?_ (hordered.and hnodup)
        rintro path other hpath hother ⟨hle, hne⟩
        obtain ⟨hyields, hearlier⟩ := hnew path hpath
        obtain ⟨hotherYields, hotherEarlier⟩ := hnew other hother
        exact ⟨roots.length, roots.length, .last hyields hearlier,
          .last hotherYields hotherEarlier, .inr ⟨rfl, hyields.allParts_lt hotherYields hle hne⟩⟩
      · intro path hpath other hother
        obtain ⟨index, hindex, hfirst⟩ := Disk.exists_firstYields (mem_discover.mp hpath).1
        obtain ⟨hyields, hearlier⟩ := hnew other hother
        exact ⟨index, roots.length, hfirst.append [root], .last hyields hearlier, .inl hindex⟩

/-! ## What is scanned -/

theorem includedFiles_of_loaded {config : Config} {files : List SourceFile}
    (hload : loadProgram disk (discover disk config.exclude roots) = .ok files) :
    includedFiles config files = files := by
  rw [includedFiles, List.filter_eq_self]
  intro file hfile
  rw [not_isExcluded_of_loaded hload file hfile, Bool.not_false]

/-- A pass that succeeds reports the scan of every file that was loaded. -/
theorem Passes.events_of_ok {config : Config} {run : PassRun} {result : PassResult}
    {files : List SourceFile} (hpass : Passes config roots disk run)
    (hresult : run.result = .ok result)
    (hload : loadProgram disk (discover disk config.exclude roots) = .ok files)
    (hscans : ∀ file ∈ files, ∃ routers,
      (scan { file, types := .ofFiles files, config }).result = .ok routers) :
    files.flatMap (fileEvents config (.ofFiles files)) <+: run.events := by
  cases hpass with
  | @unloaded failure => cases failure <;> cases hresult
  | unprepared => cases hresult
  | unwritten => cases hresult
  | stopped => cases hresult
  | finished hother _ _ houtcome =>
      cases hload.symm.trans hother
      have hwritable : (documentFiles config (.ofFiles files) files).outcome ≠
          .error .unwritable := by
        have hfiles : (documentFiles config (.ofFiles files) files).outcome = .ok _ := houtcome
        intro hunwritable
        cases hfiles.symm.trans hunwritable
      have hdocumented :=
        documentFiles_of_all_ok (not_isExcluded_of_loaded hload) hscans hwritable
      have hevents : (documentProgram config files).events =
          (documentFiles config (.ofFiles files) files).events := rfl
      rw [hevents, hdocumented]
      exact List.prefix_append _ _

/-- A hook reports after the pass that it belongs to. -/
theorem PassRun.events_prefix_hooked (shell : SystemShell) (config : Config)
    (run : PassRun) : run.events <+: (run.hooked shell config).events := by
  unfold hooked finishPass
  split
  · split
    · exact List.prefix_refl _
    · exact List.prefix_append _ _
  · exact List.prefix_refl _

/-- What is discovered has no path twice.  It has exactly the paths that some root stands
for, with no part that is skipped and no excluded text in them.  They come in the order of
the first roots that stand for them, and by their parts if it is the same root.  All files
that are loaded from there stay when a pass tests them for excluded texts once more: a pass
that succeeds scans each of them to its end, and their number is the number that it gives. -/
theorem discover_exact (shell : SystemShell) (config : Config) (roots : List Path)
    (disk : Disk) :
    let sources := discover disk config.exclude roots
    let run := runPass shell config roots disk
    sources.Nodup ∧
    (∀ path, path ∈ sources ↔ (∃ root ∈ roots, disk.Yields root path) ∧
      (∀ part ∈ path.allParts, part ∉ skippedNames) ∧
      ∀ fragment ∈ config.exclude, ¬ fragment.toList <:+: path.text.toList) ∧
    sources.Pairwise (disk.Precedes roots) ∧
    (∀ files, loadProgram disk sources = .ok files →
      files.map SourceFile.path = sources ∧ includedFiles config files = files) ∧
    ∀ result, run.result = .ok result → ∃ files, loadProgram disk sources = .ok files ∧
      (∀ file ∈ files, ∃ routers,
        (scan { file, types := .ofFiles files, config }).result = .ok routers) ∧
      files.flatMap (fileEvents config (.ofFiles files)) <+: run.events ∧
      result.files = files.length := by
  intro sources run
  refine ⟨nodup_discover disk config.exclude roots, ?_, pairwise_discover disk _ roots, ?_, ?_⟩
  · intro path
    rw [mem_discover, isKept_iff]
  · intro files hload
    exact ⟨paths_of_loadProgram hload, includedFiles_of_loaded hload⟩
  · intro result hresult
    have hpass := runPass_passes shell config roots disk
    have hrun : run = _ := runPass_eq_hooked shell config roots disk
    rw [hrun] at hresult ⊢
    obtain ⟨plain, hplain, hcount, -, -⟩ := hooked_of_ok hresult
    obtain ⟨files, hload, hscans, -, -, hfiles, -⟩ := hpass.of_ok hplain
    exact ⟨files, hload, hscans,
      (hpass.events_of_ok hplain hload hscans).trans (PassRun.events_prefix_hooked _ _ _),
      hcount.trans hfiles⟩

/-- A source, and the directory that holds it and a source that is excluded. -/
def overlappingRoots : List Path :=
  [⟨"", ["users.py"]⟩, ⟨"", []⟩]

def excludingConfig : Config :=
  { output := "docs/api.apib", exclude := ["accounts"] }

theorem discover_overlappingRoots :
    discover sampleDisk excludingConfig.exclude overlappingRoots = [⟨"", ["users.py"]⟩] := by
  have htop : candidates sampleDisk ⟨"", []⟩ =
      [⟨"", ["users.py"]⟩, ⟨"", ["web", "accounts.py"]⟩] :=
    List.mergeSort_of_pairwise (by decide +kernel)
  have huser : candidates sampleDisk ⟨"", ["users.py"]⟩ = [⟨"", ["users.py"]⟩] :=
    candidates_of_not_isDirectory (by decide +kernel)
  rw [discover, overlappingRoots, List.flatMap_cons, List.flatMap_singleton, htop, huser]
  decide +kernel

/-- A pass over a root and a file below it. -/
theorem runPass_overlappingRoots :
    (runPass (Shell.small []) excludingConfig overlappingRoots sampleDisk).result.isOk = true := by
  have hsame : runPass (Shell.small []) excludingConfig overlappingRoots sampleDisk =
      runPass (Shell.small []) excludingConfig [⟨"", ["users.py"]⟩] sampleDisk := by
    have huser : discover sampleDisk excludingConfig.exclude [⟨"", ["users.py"]⟩] =
        [⟨"", ["users.py"]⟩] := by
      decide +kernel
    unfold runPass
    rw [discover_overlappingRoots, huser]
  rw [hsame]
  decide +kernel

/-- The source that two roots stand for is found, scanned and counted once, and the other one
is excluded. -/
theorem discover_exact_overlapping :
    let sources := discover sampleDisk excludingConfig.exclude overlappingRoots
    sources = [⟨"", ["users.py"]⟩] ∧ ⟨"", ["web", "accounts.py"]⟩ ∉ sources ∧
      ∃ files result, loadProgram sampleDisk sources = .ok files ∧
        includedFiles excludingConfig files = files ∧
        (runPass (Shell.small []) excludingConfig overlappingRoots sampleDisk).result = .ok result ∧
        result.files = files.length ∧ files.length = 1 := by
  intro sources
  obtain ⟨-, hmem, -, hloaded, hscanned⟩ :=
    discover_exact (Shell.small []) excludingConfig overlappingRoots sampleDisk
  obtain ⟨result, hresult⟩ := exists_eq_ok runPass_overlappingRoots
  obtain ⟨files, hload, -, -, hcount⟩ := hscanned result hresult
  obtain ⟨hpaths, hincluded⟩ := hloaded files hload
  have hsources : sources = [⟨"", ["users.py"]⟩] := discover_overlappingRoots
  refine ⟨hsources, ?_, files, result, hload, hincluded, hresult, hcount, ?_⟩
  · intro haccounts
    exact ((hmem _).mp haccounts).2.2 "accounts" List.mem_cons_self (by decide +kernel)
  · rw [← List.length_map, hpaths, discover_overlappingRoots, List.length_singleton]

end RouteScribe.Project
