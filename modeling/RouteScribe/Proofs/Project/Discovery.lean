import Mathlib.Tactic
import RouteScribe.Project.Discovery
import RouteScribe.Project.Program

/-!
# Discovered and loaded sources

What is discovered is not excluded, and what is loaded is what was discovered, file by
file.
-/

namespace RouteScribe.Project

open RouteScribe.Source

theorem mem_appendNew {path : Path} {found paths : List Path} :
    path ∈ appendNew found paths ↔ path ∈ found ∨ path ∈ paths := by
  induction paths generalizing found with
  | nil => simp [appendNew]
  | cons first paths ih =>
      unfold appendNew
      rw [ih, List.mem_cons]
      split
      · rename_i hfirst
        have hmem : first ∈ found := by simpa using hfirst
        constructor
        · exact Or.imp_right .inr
        · rintro (hfound | rfl | hpaths)
          · exact .inl hfound
          · exact .inl hmem
          · exact .inr hpaths
      · rw [List.mem_append, List.mem_singleton, or_assoc]

theorem not_isExcluded_of_mem_discover {disk : Disk} {exclude : List String} {roots : List Path}
    {path : Path} (hpath : path ∈ discover disk exclude roots) :
    isExcluded exclude path.text = false := by
  have hkept := (mem_appendNew.mp hpath).resolve_left List.not_mem_nil
  have hboth := (List.mem_filter.mp hkept).2
  rw [Bool.and_eq_true, Bool.not_eq_true', Bool.not_eq_true'] at hboth
  exact hboth.2

/-- A file keeps the path under which it is read. -/
theorem path_of_read {path : Path} {text : String} {file : SourceFile}
    (hread : SourceFile.read? path text = some file) : file.path = path := by
  unfold SourceFile.read? at hread
  simp only [Option.bind_eq_bind, Option.bind_eq_some_iff, Option.pure_def,
    Option.some.injEq] at hread
  obtain ⟨lexed, -, module, -, rfl⟩ := hread
  rfl

/-- A source that has been loaded keeps the path it was loaded from. -/
theorem path_of_loadSource {disk : Disk} {path : Path} {file : SourceFile}
    (hload : loadSource disk path = .ok file) : file.path = path := by
  unfold loadSource at hload
  split at hload
  · cases hload
  · split at hload
    · cases hload
    · dsimp only at hload
      split at hload
      · rename_i hread
        cases hload
        exact path_of_read hread
      · split at hload
        · cases hload
        · cases hload

/-- Sources are loaded in the order of their paths. -/
theorem paths_of_loadSources {disk : Disk} {paths : List Path} {files : List SourceFile}
    (hload : loadSources disk paths = .ok files) : files.map SourceFile.path = paths := by
  induction paths generalizing files with
  | nil =>
      cases hload
      rfl
  | cons path paths ih =>
      unfold loadSources at hload
      cases hfile : loadSource disk path with
      | error failure =>
          rw [hfile] at hload
          cases hload
      | ok file =>
          cases hrest : loadSources disk paths with
          | error failure =>
              rw [hfile, hrest] at hload
              cases hload
          | ok rest =>
              rw [hfile, hrest] at hload
              cases hload
              rw [List.map_cons, path_of_loadSource hfile, ih hrest]

/-- The files of a program have the paths that it was loaded from. -/
theorem paths_of_loadProgram {disk : Disk} {paths : List Path} {files : List SourceFile}
    (hload : loadProgram disk paths = .ok files) : files.map SourceFile.path = paths := by
  unfold loadProgram at hload
  split at hload
  · cases hload
  · exact paths_of_loadSources hload

/-- No file of a program that was loaded from discovered sources is excluded. -/
theorem not_isExcluded_of_loaded {disk : Disk} {exclude : List String} {roots : List Path}
    {files : List SourceFile} (hload : loadProgram disk (discover disk exclude roots) = .ok files) :
    ∀ file ∈ files, isExcluded exclude file.path.text = false := by
  intro file hfile
  have hpath : file.path ∈ discover disk exclude roots := by
    rw [← paths_of_loadProgram hload]
    exact List.mem_map_of_mem hfile
  exact not_isExcluded_of_mem_discover hpath

end RouteScribe.Project
