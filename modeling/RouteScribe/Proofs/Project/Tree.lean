import Mathlib.Tactic
import RouteScribe.Project.Tree

/-!
# What an operation changes in a file tree

A file tree is looked at place by place: what stands there, and when it was last
changed.  Writing a file changes its own place and no other; a directory that gets a new
name has a new stamp.  Directories never vanish, so a path that led somewhere before an
operation leads there after it.
-/

namespace RouteScribe.Project

/-- What stands at a place, without what is below it. -/
inductive Entry where
  | file (stamp : Int) (content : List UInt8)
  | directory
  deriving DecidableEq, Repr

namespace Node

def entry : Node → Entry
  | .file stamp content => .file stamp content
  | .directory .. => .directory

/-- What a node shows by itself, with its stamp. -/
def label (node : Node) : Entry × Int :=
  (node.entry, node.stamp)

/-- Names in a row lead where the last of them lead from where the first lead. -/
theorem get?_append (first second : List String) (node : Node) :
    node.get? (first ++ second) = (node.get? first).bind (get? second) := by
  induction first generalizing node with
  | nil => rfl
  | cons name first ih =>
      cases node with
      | file stamp content => rfl
      | directory stamp entries =>
          simp only [List.cons_append, get?, Option.bind_assoc, ih]

theorem get?_cons_file (name : String) (names : List String) (stamp : Int)
    (content : List UInt8) : (Node.file stamp content).get? (name :: names) = none := rfl

theorem get?_cons_empty (name : String) (names : List String) (stamp : Int) :
    (Node.directory stamp []).get? (name :: names) = none := rfl

/-- Whatever is below a place, there is a directory at the place. -/
theorem exists_directory_of_get? {top node : Node} {above : List String} {name : String}
    (hnode : top.get? (above ++ [name]) = some node) :
    ∃ stamp entries, top.get? above = some (.directory stamp entries) := by
  rw [get?_append] at hnode
  obtain ⟨holder, hholder, hname⟩ := Option.bind_eq_some_iff.mp hnode
  cases holder with
  | file stamp content => cases hname
  | directory stamp entries => exact ⟨stamp, entries, hholder⟩

section

variable {now stamp : Int} {node top : Node} {above : List String} {name : String}
  {entries : List (String × Node)}

theorem put_cons_append (now stamp : Int) (node : Node) (first name : String)
    (above : List String) (entries : List (String × Node)) :
    put now node (first :: (above ++ [name])) (.directory stamp entries) =
      match Table.get? entries first with
      | some inner =>
          .directory stamp (Table.put first (put now node (above ++ [name]) inner) entries)
      | none => .directory stamp entries := by
  cases above with
  | nil => rfl
  | cons second above => rfl

/-- The directory of a place knows the node that is put there. -/
theorem get?_put_above (hholder : top.get? above = some (.directory stamp entries)) :
    (put now node (above ++ [name]) top).get? above =
      some (.directory (if Table.has entries name then stamp else now)
        (Table.put name node entries)) := by
  induction above generalizing top with
  | nil =>
      cases hholder
      rfl
  | cons first above ih =>
      cases top with
      | file stamp content => cases hholder
      | directory outer others =>
          obtain ⟨inner, hinner, hrest⟩ := Option.bind_eq_some_iff.mp hholder
          rw [List.cons_append, put_cons_append, hinner]
          simp only [get?, Table.get?_put_self, Option.bind_some]
          exact ih hrest

/-- A node that is put at a place is there, with everything below it. -/
theorem get?_put_below (hholder : top.get? above = some (.directory stamp entries))
    (rest : List String) :
    (put now node (above ++ [name]) top).get? (above ++ name :: rest) = node.get? rest := by
  rw [get?_append, get?_put_above hholder]
  simp only [Option.bind_some, get?, Table.get?_put_self]

/-- A place that neither holds the place of the new node nor is in or below it shows what
it showed before. -/
theorem label_put_of_ne (hholder : top.get? above = some (.directory stamp entries))
    {query : List String} (hne : query ≠ above) (hbelow : ∀ rest, query ≠ above ++ name :: rest) :
    ((put now node (above ++ [name]) top).get? query).map label =
      (top.get? query).map label := by
  induction above generalizing top query with
  | nil =>
      cases hholder
      cases query with
      | nil => exact absurd rfl hne
      | cons first query =>
          have hfirst : first ≠ name := by
            rintro rfl
            exact hbelow query rfl
          simp only [List.nil_append, put, get?, Table.get?_put_of_ne hfirst]
  | cons outer above ih =>
      cases top with
      | file stamp content => cases hholder
      | directory outerStamp others =>
          obtain ⟨inner, hinner, hrest⟩ := Option.bind_eq_some_iff.mp hholder
          rw [List.cons_append, put_cons_append, hinner]
          cases query with
          | nil => rfl
          | cons first query =>
              by_cases hfirst : first = outer
              · subst hfirst
                simp only [get?, Table.get?_put_self, hinner, Option.bind_some]
                apply ih hrest
                · rintro rfl
                  exact hne rfl
                · rintro rest rfl
                  exact hbelow rest rfl
              · simp only [get?, Table.get?_put_of_ne hfirst]

end

end Node

/-! ## Places -/

namespace Disk

def entryAt (disk : Disk) (names : List String) : Option Entry :=
  (disk.top.get? names).map Node.entry

/-- The time of the last change of what stands at a place. -/
def stampAt (disk : Disk) (names : List String) : Option Int :=
  (disk.top.get? names).map Node.stamp

/-- A place at which something can stand: the top, or a name in a directory. -/
inductive IsSpot (top : Node) : List String → Prop where
  | top : IsSpot top []
  | below {above : List String} {name : String} {stamp : Int} {entries : List (String × Node)}
      (hholder : top.get? above = some (.directory stamp entries)) : IsSpot top (above ++ [name])

theorem IsSpot.holder {top : Node} {above : List String} {name : String}
    (hspot : IsSpot top (above ++ [name])) :
    ∃ stamp entries, top.get? above = some (.directory stamp entries) := by
  generalize hnames : above ++ [name] = names at hspot
  cases hspot with
  | top => simp at hnames
  | below hholder =>
      obtain ⟨rfl, -⟩ := List.append_inj' hnames rfl
      exact ⟨_, _, hholder⟩

theorem isSpot_of_get? {top node : Node} {names : List String}
    (hnode : top.get? names = some node) : IsSpot top names := by
  rcases List.eq_nil_or_concat names with rfl | ⟨above, name, rfl⟩
  · exact .top
  · rw [List.concat_eq_append] at hnode ⊢
    obtain ⟨stamp, entries, hholder⟩ := Node.exists_directory_of_get? hnode
    exact .below hholder

/-- Following parts from a spot leads to a spot. -/
theorem isSpot_of_follow {top : Node} {here parts names : List String}
    (hhere : IsSpot top here.reverse) (hfollow : follow top here parts = .ok names) :
    IsSpot top names.reverse := by
  induction parts generalizing here with
  | nil =>
      cases hfollow
      exact hhere
  | cons part parts ih =>
      unfold follow at hfollow
      split at hfollow
      · cases hfollow
      · cases hfollow
      · rename_i stamp entries hholder
        split at hfollow
        · refine ih ?_ hfollow
          cases here with
          | nil => exact .top
          | cons name above =>
              rw [List.reverse_cons] at hholder
              obtain ⟨outer, others, habove⟩ := Node.exists_directory_of_get? hholder
              exact isSpot_of_get? habove
        · apply ih _ hfollow
          rw [List.reverse_cons]
          exact .below hholder

/-- A path starts at the top or in the working directory. -/
theorem start_eq_ok_iff {disk : Disk} {root : String} {names : List String} :
    disk.start root = .ok names ↔
      root = "" ∧ names = disk.here ∧ disk.entryAt disk.here = some .directory ∨
        root ≠ "" ∧ names = [] := by
  unfold start entryAt
  by_cases hroot : root = ""
  · cases disk.top.get? disk.here with
    | none => simp [hroot]
    | some node => cases node <;> simp [hroot, Node.entry, eq_comm]
  · simp [hroot, eq_comm]

/-- A path has a place if it holds no null character and its parts can be followed. -/
theorem place_eq_ok_iff {disk : Disk} {path : Path} {names : List String} :
    disk.place path = .ok names ↔ path.hasNull = false ∧ ∃ start,
      disk.start path.root = .ok start ∧
        follow disk.top start.reverse path.parts = .ok names.reverse := by
  unfold place
  cases hnull : path.hasNull with
  | true => simp [bind, Except.bind, throw, throwThe, MonadExceptOf.throw]
  | false =>
      cases hstart : disk.start path.root with
      | error fault => simp [bind, Except.bind]
      | ok start =>
          cases hfollow : follow disk.top start.reverse path.parts with
          | error fault => simp [hfollow, bind, Except.bind]
          | ok reversed =>
              simp [hfollow, bind, Except.bind, pure, Except.pure, List.reverse_eq_iff]

/-- A path leads to a spot of the tree. -/
theorem isSpot_of_place {disk : Disk} {path : Path} {names : List String}
    (hplace : disk.place path = .ok names) : IsSpot disk.top names := by
  obtain ⟨-, start, hstart, hfollow⟩ := place_eq_ok_iff.mp hplace
  have hspot : IsSpot disk.top start.reverse.reverse := by
    rw [List.reverse_reverse]
    rcases start_eq_ok_iff.mp hstart with ⟨-, rfl, hthere⟩ | ⟨-, rfl⟩
    · obtain ⟨node, hnode, -⟩ := Option.map_eq_some_iff.mp hthere
      exact isSpot_of_get? hnode
    · exact .top
  have hnames := isSpot_of_follow hspot hfollow
  rwa [List.reverse_reverse] at hnames

/-- Every directory of one tree is one of another tree, in which the working directory is
the same. -/
structure KeepsDirectories (before after : Disk) : Prop where
  here_eq : after.here = before.here
  directory : ∀ names, before.entryAt names = some .directory →
    after.entryAt names = some .directory

theorem entryAt_eq_directory {disk : Disk} {names : List String} :
    disk.entryAt names = some .directory ↔
      ∃ stamp entries, disk.top.get? names = some (.directory stamp entries) := by
  unfold entryAt
  cases disk.top.get? names with
  | none => simp
  | some node => cases node <;> simp [Node.entry]

/-- What can be followed through a tree can be followed while its directories are kept. -/
theorem follow_of_keepsDirectories {before after : Disk} (hkeeps : KeepsDirectories before after)
    {here parts names : List String} (hfollow : follow before.top here parts = .ok names) :
    follow after.top here parts = .ok names := by
  induction parts generalizing here with
  | nil => exact hfollow
  | cons part parts ih =>
      unfold follow at hfollow ⊢
      split at hfollow
      · cases hfollow
      · cases hfollow
      · rename_i stamp entries hholder
        obtain ⟨later, others, hlater⟩ := entryAt_eq_directory.mp
          (hkeeps.directory here.reverse (entryAt_eq_directory.mpr ⟨stamp, entries, hholder⟩))
        rw [hlater]
        dsimp only
        split at hfollow
        · rename_i hpart
          rw [if_pos hpart]
          exact ih hfollow
        · rename_i hpart
          rw [if_neg hpart]
          exact ih hfollow

/-- A path leads to the same place as long as directories stay. -/
theorem place_of_keepsDirectories {before after : Disk} (hkeeps : KeepsDirectories before after)
    {path : Path} {names : List String} (hplace : before.place path = .ok names) :
    after.place path = .ok names := by
  obtain ⟨hnull, start, hstart, hfollow⟩ := place_eq_ok_iff.mp hplace
  refine place_eq_ok_iff.mpr ⟨hnull, start, ?_, follow_of_keepsDirectories hkeeps hfollow⟩
  refine start_eq_ok_iff.mpr ((start_eq_ok_iff.mp hstart).imp_left ?_)
  rintro ⟨hroot, hnames, hthere⟩
  rw [hkeeps.here_eq]
  exact ⟨hroot, hnames, hkeeps.directory _ hthere⟩

/-! ## Putting a node at a place -/

section

variable {disk : Disk} {names : List String} {node : Node}

/-- A node that is put at a place is there. -/
theorem get?_putAt (hspot : IsSpot disk.top names) :
    (disk.putAt names node).top.get? names = some node := by
  cases hspot with
  | top => rfl
  | below hholder => exact Node.get?_put_below hholder []

/-- Below a place that is no directory there is nothing. -/
theorem get?_below (htarget : disk.entryAt names ≠ some .directory) (name : String)
    (rest : List String) : disk.top.get? (names ++ name :: rest) = none := by
  rw [Node.get?_append]
  cases hnode : disk.top.get? names with
  | none => rfl
  | some old =>
      cases old with
      | file stamp content => rfl
      | directory stamp entries =>
          exact absurd (entryAt_eq_directory.mpr ⟨stamp, entries, hnode⟩) htarget

/-- Putting a node without anything below it at a place that is no directory leaves every
other place alone, but for the directory of the place. -/
theorem label_putAt (hspot : IsSpot disk.top names)
    (htarget : disk.entryAt names ≠ some .directory)
    (hleaf : ∀ name rest, node.get? (name :: rest) = none) {query : List String}
    (hne : query ≠ names) (hholder : ∀ name, names ≠ query ++ [name]) :
    ((disk.putAt names node).top.get? query).map Node.label =
      (disk.top.get? query).map Node.label := by
  by_cases hbelow : ∃ name rest, query = names ++ name :: rest
  · obtain ⟨name, rest, rfl⟩ := hbelow
    rw [Node.get?_append, get?_putAt hspot, get?_below htarget, Option.bind_some, hleaf]
  · push Not at hbelow
    cases hspot with
    | top =>
        cases query with
        | nil => exact absurd rfl hne
        | cons name rest => exact absurd rfl (hbelow name rest)
    | @below above last stamp entries habove =>
        apply Node.label_put_of_ne habove
        · rintro rfl
          exact hholder last rfl
        · intro rest hrest
          cases rest with
          | nil => exact hne hrest
          | cons name rest => exact hbelow name rest (by rw [hrest, List.append_assoc]; rfl)

/-- Only what stands at the place of the new node changes. -/
theorem entryAt_putAt (hspot : IsSpot disk.top names)
    (htarget : disk.entryAt names ≠ some .directory)
    (hleaf : ∀ name rest, node.get? (name :: rest) = none) {query : List String}
    (hne : query ≠ names) : (disk.putAt names node).entryAt query = disk.entryAt query := by
  by_cases hholder : ∃ name, names = query ++ [name]
  · obtain ⟨name, rfl⟩ := hholder
    obtain ⟨stamp, entries, hdirectory⟩ := hspot.holder
    rw [entryAt, entryAt, putAt, Node.get?_put_above hdirectory, hdirectory]
    rfl
  · push Not at hholder
    have hlabel := congrArg (Option.map Prod.fst) (label_putAt hspot htarget hleaf hne hholder)
    rw [Option.map_map, Option.map_map] at hlabel
    exact hlabel

/-- A place in which nothing is new keeps its stamp. -/
theorem stampAt_putAt (hspot : IsSpot disk.top names)
    (htarget : disk.entryAt names ≠ some .directory)
    (hleaf : ∀ name rest, node.get? (name :: rest) = none) {query : List String}
    (hne : query ≠ names)
    (hinside : ∀ name, (disk.putAt names node).entryAt (query ++ [name]) =
      disk.entryAt (query ++ [name])) :
    (disk.putAt names node).stampAt query = disk.stampAt query := by
  by_cases hholder : ∃ name, names = query ++ [name]
  · obtain ⟨name, rfl⟩ := hholder
    -- The name is there already, so the directory does not change.
    have hthere : disk.entryAt (query ++ [name]) = some node.entry := by
      rw [← hinside name, entryAt, get?_putAt hspot]
      rfl
    obtain ⟨old, hold, -⟩ := Option.map_eq_some_iff.mp hthere
    obtain ⟨stamp, entries, hdirectory⟩ := Node.exists_directory_of_get? hold
    have hhas : Table.has entries name = true := by
      rw [Node.get?_append, hdirectory, Option.bind_some] at hold
      obtain ⟨inner, hinner, -⟩ := Option.bind_eq_some_iff.mp hold
      rw [Table.has, hinner]
      rfl
    rw [stampAt, stampAt, putAt, Node.get?_put_above hdirectory, hdirectory, hhas]
    rfl
  · push Not at hholder
    have hlabel := congrArg (Option.map Prod.snd) (label_putAt hspot htarget hleaf hne hholder)
    rw [Option.map_map, Option.map_map] at hlabel
    exact hlabel

end

/-! ## Operations on a tree -/

section

variable {disk : Disk} {path : Path}

/-- A new directory is an empty one in a place where nothing stood. -/
theorem exists_of_makeDirectory {made : Disk} (hmade : disk.makeDirectory path = .ok made) :
    ∃ names, disk.place path = .ok names ∧ disk.entryAt names = none ∧
      made = disk.putAt names (.directory disk.clock []) := by
  unfold makeDirectory at hmade
  cases hplace : disk.place path with
  | error fault =>
      rw [hplace] at hmade
      cases hmade
  | ok names =>
      simp only [hplace, bind, Except.bind] at hmade
      split at hmade
      · cases hmade
      · rename_i hnone
        cases hmade
        exact ⟨names, rfl, by rw [entryAt, hnone]; rfl, rfl⟩

/-- A file is written to the place of its path, where no directory stands. -/
theorem exists_of_write {content : List UInt8} {written : Disk}
    (hwritten : disk.write path content = .ok written) :
    ∃ names, disk.place path = .ok names ∧ disk.entryAt names ≠ some .directory ∧
      written = disk.putAt names (.file disk.clock content) := by
  unfold write at hwritten
  cases hplace : disk.place path with
  | error fault =>
      rw [hplace] at hwritten
      cases hwritten
  | ok names =>
      simp only [hplace, bind, Except.bind] at hwritten
      split at hwritten
      · cases hwritten
      · rename_i hfile
        cases hwritten
        refine ⟨names, rfl, ?_, rfl⟩
        intro hdirectory
        obtain ⟨stamp, entries, hnode⟩ := entryAt_eq_directory.mp hdirectory
        exact hfile stamp entries hnode

end

/-! ## Null characters -/

section

variable {disk : Disk} {path : Path}

end

theorem keepsDirectories_putAt {disk : Disk} {names : List String} {node : Node}
    (hspot : IsSpot disk.top names) (htarget : disk.entryAt names ≠ some .directory)
    (hleaf : ∀ name rest, node.get? (name :: rest) = none) :
    KeepsDirectories disk (disk.putAt names node) := by
  refine ⟨rfl, ?_⟩
  intro query hquery
  have hne : query ≠ names := by
    rintro rfl
    exact htarget hquery
  rw [entryAt_putAt hspot htarget hleaf hne, hquery]

/-- How a tree changes when directories are created at some of the given paths, and places
of its own may change as well.  The working directory is the same.  A place in which nothing
is new keeps its stamp. -/
structure ChangesOnly (own : List String → Prop) (paths : Path → Prop) (before after : Disk) :
    Prop where
  here_eq : after.here = before.here
  entry_eq : ∀ names, ¬ own names → after.entryAt names = before.entryAt names ∨
    before.entryAt names = none ∧ after.entryAt names = some .directory ∧
      ∃ path, paths path ∧ after.place path = .ok names
  stamp_eq : ∀ names, ¬ own names → before.entryAt names ≠ none →
    (∀ name, after.entryAt (names ++ [name]) = before.entryAt (names ++ [name])) →
    after.stampAt names = before.stampAt names

namespace ChangesOnly

variable {own : List String → Prop} {paths : Path → Prop} {before prepared after : Disk}

theorem refl (own : List String → Prop) (paths : Path → Prop) (disk : Disk) :
    ChangesOnly own paths disk disk where
  here_eq := rfl
  entry_eq _ _ := .inl rfl
  stamp_eq _ _ _ _ := rfl

theorem mono {more : Path → Prop} (hchanges : ChangesOnly own paths before after)
    (hmore : ∀ path, paths path → more path) : ChangesOnly own more before after where
  here_eq := hchanges.here_eq
  entry_eq names hown := by
    rcases hchanges.entry_eq names hown with hsame | ⟨hnone, hdirectory, path, hpath, hplace⟩
    · exact .inl hsame
    · exact .inr ⟨hnone, hdirectory, path, hmore path hpath, hplace⟩
  stamp_eq := hchanges.stamp_eq

/-- After directories have been created, a node is put at one place more. -/
theorem putAt (hchanges : ChangesOnly (fun _ => False) paths before prepared)
    {names : List String} {node : Node} (hspot : IsSpot prepared.top names)
    (htarget : prepared.entryAt names ≠ some .directory)
    (hleaf : ∀ name rest, node.get? (name :: rest) = none) :
    ChangesOnly (· = names) paths before (prepared.putAt names node) := by
  have hkeeps := keepsDirectories_putAt hspot htarget hleaf
  have hentry : ∀ query, query ≠ names →
      (prepared.putAt names node).entryAt query = prepared.entryAt query :=
    fun query => entryAt_putAt hspot htarget hleaf
  refine ⟨hchanges.here_eq, ?_, ?_⟩
  · intro query hne
    rcases hchanges.entry_eq query id with hsame | ⟨hnone, hdirectory, path, hpath, hplace⟩
    · exact .inl ((hentry query hne).trans hsame)
    · exact .inr ⟨hnone, hkeeps.directory query hdirectory, path, hpath,
        place_of_keepsDirectories hkeeps hplace⟩
  · intro query hne hthere hinside
    -- A directory that was created would be new in the end, too.
    have hprepared : ∀ name, prepared.entryAt (query ++ [name]) =
        before.entryAt (query ++ [name]) := by
      intro name
      rcases hchanges.entry_eq (query ++ [name]) id with hsame | ⟨hnone, hdirectory, -⟩
      · exact hsame
      · have hlater := hkeeps.directory _ hdirectory
        rw [hinside name, hnone] at hlater
        cases hlater
    have hput : ∀ name, (prepared.putAt names node).entryAt (query ++ [name]) =
        prepared.entryAt (query ++ [name]) := by
      intro name
      rw [hinside name, hprepared name]
    rw [stampAt_putAt hspot htarget hleaf hne hput]
    exact hchanges.stamp_eq query id hthere hprepared

/-- A directory that is created is no place of its own. -/
theorem of_created {names : List String} {path : Path}
    (hchanges : ChangesOnly (· = names) paths before after) (hnone : before.entryAt names = none)
    (hdirectory : after.entryAt names = some .directory) (hpath : paths path)
    (hplace : after.place path = .ok names) :
    ChangesOnly (fun _ => False) paths before after := by
  refine ⟨hchanges.here_eq, ?_, ?_⟩
  · intro query _
    by_cases hquery : query = names
    · subst hquery
      exact .inr ⟨hnone, hdirectory, path, hpath, hplace⟩
    · exact hchanges.entry_eq query hquery
  · intro query _ hthere
    by_cases hquery : query = names
    · subst hquery
      exact absurd hnone hthere
    · exact hchanges.stamp_eq query hquery hthere

/-- One more directory is created. -/
theorem makeDirectory {made : Disk} {path : Path}
    (hchanges : ChangesOnly (fun _ => False) paths before prepared) (hpath : paths path)
    (hmade : prepared.makeDirectory path = .ok made) :
    ChangesOnly (fun _ => False) paths before made := by
  obtain ⟨names, hplace, hfree, rfl⟩ := exists_of_makeDirectory hmade
  have hspot := isSpot_of_place hplace
  have htarget : prepared.entryAt names ≠ some .directory := by
    rw [hfree]
    exact nofun
  have hleaf := fun name rest => Node.get?_cons_empty name rest prepared.clock
  have hnone : before.entryAt names = none := by
    rcases hchanges.entry_eq names id with hsame | ⟨hnone, -⟩
    · rw [← hsame, hfree]
    · exact hnone
  refine (hchanges.putAt hspot htarget hleaf).of_created hnone ?_ hpath
    (place_of_keepsDirectories (keepsDirectories_putAt hspot htarget hleaf) hplace)
  rw [entryAt, get?_putAt hspot]
  rfl

end ChangesOnly

end Disk

/-- A path that leads to another, or is that path itself. -/
def Path.LeadsTo (above path : Path) : Prop :=
  above.root = path.root ∧ above.parts <+: path.parts

theorem Path.LeadsTo.refl (path : Path) : path.LeadsTo path :=
  ⟨rfl, List.prefix_rfl⟩

theorem Path.LeadsTo.trans {first second third : Path} (hfirst : first.LeadsTo second)
    (hsecond : second.LeadsTo third) : first.LeadsTo third :=
  ⟨hfirst.1.trans hsecond.1, hfirst.2.trans hsecond.2⟩

/-- A path whose parts are given from the last to the first. -/
theorem Path.leadsTo_cons (root part : String) (above : List String) :
    (Path.mk root above.reverse).LeadsTo ⟨root, (part :: above).reverse⟩ := by
  refine ⟨rfl, ?_⟩
  rw [List.reverse_cons]
  exact List.prefix_append _ _

theorem Path.LeadsTo.hasNull {above path : Path} (hleads : above.LeadsTo path)
    (hnull : above.hasNull = true) : path.hasNull = true := by
  obtain ⟨part, hpart, hchar⟩ := List.any_eq_true.mp hnull
  exact List.any_eq_true.mpr ⟨part, hleads.2.subset hpart, hchar⟩

namespace Disk

/-- Creating the directories of a path changes nothing else, even if it fails on the
way. -/
theorem ensureParts_changesOnly (root : String) (parts : List String) (disk : Disk) :
    ChangesOnly (fun _ => False) (Path.LeadsTo · ⟨root, parts.reverse⟩) disk
      (ensureParts root parts disk).1 := by
  induction parts with
  | nil => exact .refl _ _ disk
  | cons part above ih =>
      have hcreated : ChangesOnly (fun _ => False) (Path.LeadsTo · ⟨root, (part :: above).reverse⟩)
          disk (ensureParts root above disk).1 := by
        apply ih.mono
        intro path hleads
        exact hleads.trans (Path.leadsTo_cons root part above)
      unfold ensureParts
      dsimp only
      split
      · rename_i made hmade
        exact (ChangesOnly.refl _ _ disk).makeDirectory (.refl _) hmade
      · split
        · rename_i prepared error hprepared
          rw [hprepared] at hcreated
          exact hcreated
        · rename_i prepared hprepared
          rw [hprepared] at hcreated
          split
          · rename_i made hmade
            exact hcreated.makeDirectory (.refl _) hmade
          · exact hcreated
      · exact .refl _ _ disk

theorem ensureDirectory_changesOnly (disk : Disk) (path : Path) :
    ChangesOnly (fun _ => False) (Path.LeadsTo · path) disk (disk.ensureDirectory path).1 := by
  have hparts := ensureParts_changesOnly path.root path.parts.reverse disk
  rw [List.reverse_reverse] at hparts
  exact hparts

/-- A file that is written can be read, and its path leads to the only place that is its
own. -/
theorem write_changesOnly {paths : Path → Prop} {before prepared written : Disk} {path : Path}
    {content : List UInt8} (hchanges : ChangesOnly (fun _ => False) paths before prepared)
    (hwritten : prepared.write path content = .ok written) :
    written.read path = .ok content ∧
      ChangesOnly (fun names => written.place path = .ok names) paths before written := by
  obtain ⟨names, hplace, htarget, rfl⟩ := exists_of_write hwritten
  have hspot := isSpot_of_place hplace
  have hleaf := fun name rest => Node.get?_cons_file name rest prepared.clock content
  have hlater : (prepared.putAt names (.file prepared.clock content)).place path = .ok names :=
    place_of_keepsDirectories (keepsDirectories_putAt hspot htarget hleaf) hplace
  constructor
  · have hlook : (prepared.putAt names (.file prepared.clock content)).look path =
        .ok (.file prepared.clock content) := by
      simp only [look, hlater, bind, Except.bind, get?_putAt hspot]
      rfl
    rw [read, hlook]
    rfl
  · have hput := hchanges.putAt hspot htarget hleaf
    refine ⟨hput.here_eq, ?_, ?_⟩
    · intro query hquery
      exact hput.entry_eq query fun heq => hquery (heq ▸ hlater)
    · intro query hquery
      exact hput.stamp_eq query fun heq => hquery (heq ▸ hlater)

end Disk

end RouteScribe.Project
