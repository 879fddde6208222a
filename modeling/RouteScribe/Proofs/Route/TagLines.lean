import RouteScribe.Proofs.Comment.Sections
import RouteScribe.Proofs.Route.Report
import RouteScribe.Proofs.Source.Layout
import RouteScribe.Route.Scan

/-!
# The lines that diagnostics point at

The line of a diagnostic about a tag is the sum of two numbers: the line where the
comment starts, as it was recorded for the file, and the line of the tag, as it was
counted in the text of the comment.  That text has one line for each line of the file, so
the sum is the line of the file where the tag is written.
-/

namespace RouteScribe.Source.SourceFile

open RouteScribe.Comment RouteScribe.Text

variable {file : SourceFile} {text : List Char} {start : NodeStart} {comment : Comment}

/-- A file has a tag written in one of its lines: without blanks and marks, the line is the
first one of the text that the tag was read from. -/
def Writes (file : SourceFile) (line : Nat) (tag : Tag) : Prop :=
  ∃ content, file.lines[line]? = some content ∧
    trim (stripMarks content.toList) = tag.source.toList.takeWhile (· != '\n')

namespace Records

theorem unbroken (hrecords : file.Records text) (htext : OnlyNewlines text)
    (hcomment : comment ∈ file.comments) : Unbroken comment.text.toList := by
  obtain ⟨-, front, hline, -, -⟩ := hrecords.place comment hcomment
  have hrow := htext.unbroken_of_mem (List.mem_of_getElem? hline)
  intro c hc
  exact hrow c (List.mem_append_right front hc)

/-- The line of a comment that belongs to a node shows what the comment says. -/
theorem exists_line (hrecords : file.Records text) (htext : OnlyNewlines text)
    (hcomment : comment ∈ file.commentsBefore start) :
    ∃ content, file.lines[comment.start.line - 1]? = some content ∧
      stripMarks content.toList = stripMarks comment.text.toList := by
  have hmem : comment ∈ file.comments := List.mem_of_mem_filter hcomment
  obtain ⟨-, front, hline, -, hfront⟩ := hrecords.place comment hmem
  have hne : front ++ comment.text.toList ≠ [] := by
    intro hnil
    have hmark := hrecords.mark comment hmem
    rw [(List.append_eq_nil_iff.mp hnil).2] at hmark
    cases hmark
  refine ⟨.ofList (front ++ comment.text.toList), ?_, ?_⟩
  · rw [hrecords.lines, List.getElem?_map, htext.getElem?_splitLines hline hne]
    rfl
  · rw [String.toList_ofList]
    exact stripMarks_append_of_blank (hfront (hrecords.order.hasOwnLine hcomment)) _

/-- The lines of a leading comment that are not empty are comments of the node, on lines of
the file that follow one another in the same way. -/
theorem exists_comment (hrecords : file.Records text) (htext : OnlyNewlines text)
    {leading : LeadingComment} (hleading : file.leadingComment start = some leading)
    {index : Nat} {line : List Char}
    (hline : (splitLines leading.text.toList)[index]? = some line) (hne : line ≠ []) :
    ∃ comment ∈ file.commentsBefore start,
      comment.start.line = leading.line + index + 1 ∧ comment.text.toList = line := by
  obtain ⟨first, hfirst, last, hlast, hstart, lines, hjoined, hlength, hshows⟩ :=
    hrecords.order.leadingComment_lines hleading
  have hfirstMem := List.mem_of_mem_head? hfirst
  have hlastMem := List.mem_of_mem_getLast? hlast
  have hpositive := (hrecords.place first (List.mem_of_mem_filter hfirstMem)).1
  have hunbroken : ∀ line ∈ lines.map String.toList, Unbroken line := by
    simp only [List.forall_mem_map]
    intro shown hshown
    obtain ⟨index, hindex⟩ := List.getElem?_of_mem hshown
    rcases hshows index shown hindex with ⟨comment, hcomment, -, rfl⟩ | ⟨-, rfl⟩
    · exact hrecords.unbroken htext (List.mem_of_mem_filter hcomment)
    · exact List.forall_mem_nil _
  -- The last line is that of the last comment, which is not empty.
  have hend : (lines.map String.toList).getLast? ≠ some [] := by
    intro hempty
    rw [List.getLast?_map, Option.map_eq_some_iff] at hempty
    obtain ⟨shown, hshown, hnil⟩ := hempty
    rw [List.getLast?_eq_getElem?] at hshown
    obtain ⟨hlt, -⟩ := List.getElem?_eq_some_iff.mp hshown
    rcases hshows _ shown hshown with ⟨comment, hcomment, -, rfl⟩ | ⟨hnone, -⟩
    · have hmark := hrecords.mark comment (List.mem_of_mem_filter hcomment)
      rw [hnil] at hmark
      cases hmark
    · exact hnone last (List.mem_of_mem_filter hlastMem) (by omega)
  rw [hjoined, toList_intercalate_newline, splitLines_joinLines hunbroken hend,
    List.getElem?_map, Option.map_eq_some_iff] at hline
  obtain ⟨shown, hindex, rfl⟩ := hline
  rcases hshows index shown hindex with ⟨comment, hcomment, hat, rfl⟩ | ⟨-, rfl⟩
  · exact ⟨comment, hcomment, by omega, rfl⟩
  · exact absurd rfl hne

/-- A tag of the comment in front of a node is written in the line of the file that both
lines add up to. -/
theorem writes (hrecords : file.Records text) (htext : OnlyNewlines text)
    {leading : LeadingComment} (hleading : file.leadingComment start = some leading)
    {comment : DocComment} (hparse : DocComment.parse? leading.text = some comment) {tag : Tag}
    (htag : tag ∈ comment.tags) : file.Writes (leading.line + tag.line) tag := by
  obtain ⟨line, hline, hcontent, hsource⟩ := exists_line_of_mem_tags hparse htag
  have hne : line ≠ [] := by
    rintro rfl
    exact hcontent rfl
  obtain ⟨found, hfound, hat, htoList⟩ := hrecords.exists_comment htext hleading hline hne
  obtain ⟨content, hindex, hstrip⟩ := hrecords.exists_line htext hfound
  refine ⟨content, ?_, ?_⟩
  · rwa [hat, Nat.add_sub_cancel] at hindex
  · rw [hstrip, htoList]
    apply hsource
    rw [← htoList]
    exact (hrecords.unbroken htext (List.mem_of_mem_filter hfound)).not_mem

end Records

end RouteScribe.Source.SourceFile

namespace RouteScribe.Route

open RouteScribe.Blueprint RouteScribe.Comment RouteScribe.Source RouteScribe.Text

/-! ### Reports of a computation -/

namespace Reported

variable {ε α β : Type} {holds : Diagnostic → Prop}

/-- A fact about all that the parts of a computation report is one about all that the
computation reports. -/
theorem forall_bind {first : Reported ε α} {next : α → Reported ε β}
    (hfirst : ∀ diagnostic ∈ first.diagnostics, holds diagnostic)
    (hnext : ∀ value, ∀ diagnostic ∈ (next value).diagnostics, holds diagnostic) :
    ∀ diagnostic ∈ (first >>= next).diagnostics, holds diagnostic := by
  cases hresult : first.result with
  | error error =>
      rw [bind_of_error hresult]
      exact hfirst
  | ok value =>
      rw [bind_of_ok hresult]
      exact List.forall_mem_append.mpr ⟨hfirst, hnext value⟩

/-- What holds of the diagnostics of each step holds of those of all. -/
theorem forall_forEach {act : α → Reported ε β} {items : List α}
    (hact : ∀ item ∈ items, ∀ diagnostic ∈ (act item).diagnostics, holds diagnostic) :
    ∀ diagnostic ∈ (forEach act items).diagnostics, holds diagnostic := by
  induction items with
  | nil => exact List.forall_mem_nil _
  | cons item items ih =>
      rw [List.forall_mem_cons] at hact
      apply forall_bind hact.1
      intro value
      apply forall_bind (ih hact.2)
      intro values
      exact List.forall_mem_nil _

end Reported

/-! ### Reports about a tag -/

namespace Context

/-- A diagnostic points at a line of the file. -/
structure PointsAt (context : Context) (line : Nat) (diagnostic : Diagnostic) : Prop where
  file : diagnostic.file = context.file.path.text
  line : diagnostic.line = line

/-- The tag of a comment that a diagnostic is reported for, where the comment starts in
some line. -/
inductive ReportsFor (context : Context) (line : Nat) (comment : DocComment) (tag : Tag)
    (diagnostic : Diagnostic) : Prop where
  | response (htag : tag ∈ comment.tagsOf "response")
      (hreported : diagnostic ∈ (responseOf context line tag).diagnostics)
  | body (htags : comment.tagsOf "body" = [tag])
      (hreported : diagnostic ∈ (bodyOf context line tag).diagnostics)
  | secondBody {first : Tag} {others : List Tag}
      (htags : comment.tagsOf "body" = first :: tag :: others)
      (hmessage : diagnostic.message = "Error: Too many @body tags.")
  | secondRoute {first : Tag} {others : List Tag}
      (htags : comment.tagsOf "route" = first :: tag :: others)
      (hmessage : diagnostic.message = "Error: Too many @route tags.")

variable {context : Context} {line : Nat} {comment : DocComment} {tag : Tag}

theorem ReportsFor.mem_tags {diagnostic : Diagnostic}
    (hreports : context.ReportsFor line comment tag diagnostic) : tag ∈ comment.tags := by
  have htagsOf : ∀ kind, tag ∈ comment.tagsOf kind → tag ∈ comment.tags :=
    fun _ => List.mem_of_mem_filter
  cases hreports with
  | response htag _ => exact htagsOf "response" htag
  | body htags _ => exact htagsOf "body" (by simp [htags])
  | secondBody htags _ => exact htagsOf "body" (by simp [htags])
  | secondRoute htags _ => exact htagsOf "route" (by simp [htags])

/-- An error is reported, and then nothing more. -/
theorem reportError_bind_pointsAt {ε α : Type} {message : String} {next : Unit → Reported ε α}
    (hnext : (next ()).diagnostics = []) :
    ∀ diagnostic ∈ (context.reportError line message >>= next).diagnostics,
      context.PointsAt line diagnostic := by
  intro diagnostic hreported
  rw [Reported.bind_of_ok rfl, hnext, List.append_nil] at hreported
  obtain rfl := List.mem_singleton.mp hreported
  exact ⟨rfl, rfl⟩

end Context

variable {context : Context} {line : Nat} {comment : DocComment}

/-- The diagnostic of a type points at the line it is given. -/
theorem typedOf_pointsAt {type : String} :
    ∀ diagnostic ∈ (typedOf context type line).diagnostics,
      context.PointsAt line diagnostic := by
  unfold typedOf
  split
  · exact Context.reportError_bind_pointsAt rfl
  · exact List.forall_mem_nil _
  · dsimp only
    split
    · exact List.forall_mem_nil _
    · exact Context.reportError_bind_pointsAt rfl
    · exact List.forall_mem_nil _

/-- What follows the type of a tag reports nothing more. -/
theorem forall_typedOf {α : Type} {holds : Diagnostic → Prop} {type : String}
    (next : Typed → α)
    (htyped : ∀ diagnostic ∈ (typedOf context type line).diagnostics, holds diagnostic) :
    ∀ diagnostic ∈ (do
      match ← typedOf context type line with
      | none => return none
      | some typed => return some (next typed) : Documenting (Option α)).diagnostics,
      holds diagnostic := by
  apply Reported.forall_bind htyped
  intro typed
  cases typed with
  | none => exact List.forall_mem_nil _
  | some typed => exact List.forall_mem_nil _

/-- The diagnostics of a response point at the line of its tag. -/
theorem responseOf_pointsAt (tag : Tag) :
    ∀ diagnostic ∈ (responseOf context line tag).diagnostics,
      context.PointsAt (line + tag.line) diagnostic := by
  unfold responseOf
  dsimp only
  split
  · exact Context.reportError_bind_pointsAt rfl
  · split
    · exact List.forall_mem_nil _
    · split
      · exact List.forall_mem_nil _
      · exact forall_typedOf _ typedOf_pointsAt

theorem bodyOf_pointsAt (tag : Tag) :
    ∀ diagnostic ∈ (bodyOf context line tag).diagnostics,
      context.PointsAt (line + tag.line) diagnostic := by
  unfold bodyOf
  dsimp only
  split
  · exact Context.reportError_bind_pointsAt rfl
  · split
    · exact List.forall_mem_nil _
    · exact forall_typedOf _ typedOf_pointsAt

/-- A report on the body tags of a comment is about the only one or about the second. -/
theorem singleBody_reportsFor (method path : String) :
    ∀ diagnostic ∈
      (singleBody context method path line (comment.tagsOf "body")).diagnostics,
      ∃ tag, context.ReportsFor line comment tag diagnostic ∧
        context.PointsAt (line + tag.line) diagnostic := by
  cases htags : comment.tagsOf "body" with
  | nil => exact List.forall_mem_nil _
  | cons first others =>
      cases others with
      | nil =>
          intro diagnostic hreported
          exact ⟨first, .body htags hreported, bodyOf_pointsAt first diagnostic hreported⟩
      | cons second others =>
          intro diagnostic hreported
          have hpoints := Context.reportError_bind_pointsAt rfl diagnostic hreported
          obtain rfl := List.mem_singleton.mp hreported
          exact ⟨second, .secondBody htags rfl, hpoints⟩

/-- Every diagnostic of a block is a report for one of its tags, at the line of this tag. -/
theorem blockOf_reportsFor (method path : String) :
    ∀ diagnostic ∈ (blockOf context method path line comment).diagnostics,
      ∃ tag, context.ReportsFor line comment tag diagnostic ∧
        context.PointsAt (line + tag.line) diagnostic := by
  unfold blockOf
  apply Reported.forall_bind
  · apply Reported.forall_forEach
    intro tag htag diagnostic hreported
    exact ⟨tag, .response htag hreported, responseOf_pointsAt tag diagnostic hreported⟩
  · intro responses
    apply Reported.forall_bind (singleBody_reportsFor method path)
    intro body
    exact List.forall_mem_nil _

/-- Every diagnostic of a router is a report for a tag of the router's comment. -/
theorem routerOf_reportsFor {binding : Binding} (routes : List Group)
    (hcomment : binding.declaration.bind (commentOf context.file) = some (line, comment)) :
    ∀ diagnostic ∈ (routerOf context binding routes).diagnostics,
      ∃ tag, context.ReportsFor line comment tag diagnostic ∧
        context.PointsAt (line + tag.line) diagnostic := by
  rw [routerOf, hcomment]
  dsimp only
  split
  · rename_i first second others htags
    intro diagnostic hreported
    have hpoints := Context.reportError_bind_pointsAt rfl diagnostic hreported
    obtain rfl := List.mem_singleton.mp hreported
    exact ⟨second, .secondRoute htags rfl, hpoints⟩
  · exact List.forall_mem_nil _

/-- A diagnostic about a tag points at the line where the tag is written.  This holds in
every file with a true record of a text whose only line boundaries are line feeds, and a
file that has been read has such a record. -/
theorem diagnostics_point_at_tags {text : String} (htext : OnlyNewlines text.toList) :
    (∀ path file, SourceFile.read? path text = some file → file.Records text.toList) ∧
    ∀ (context : Context) (start : NodeStart) (leading : LeadingComment) (comment : DocComment),
      context.file.Records text.toList → context.file.leadingComment start = some leading →
      DocComment.parse? leading.text = some comment →
      (∀ tag ∈ comment.tags, context.file.Writes (leading.line + tag.line) tag) ∧
      (∀ tag diagnostic, context.ReportsFor leading.line comment tag diagnostic →
        tag ∈ comment.tags) ∧
      (∀ tag : Tag, ∀ diagnostic ∈ (responseOf context leading.line tag).diagnostics ++
          (bodyOf context leading.line tag).diagnostics,
        context.PointsAt (leading.line + tag.line) diagnostic) ∧
      (∀ method path, ∀ diagnostic ∈
          (blockOf context method path leading.line comment).diagnostics,
        ∃ tag, context.ReportsFor leading.line comment tag diagnostic ∧
          context.PointsAt (leading.line + tag.line) diagnostic) ∧
      ∀ binding routes, binding.declaration = some start →
        ∀ diagnostic ∈ (routerOf context binding routes).diagnostics,
          ∃ tag, context.ReportsFor leading.line comment tag diagnostic ∧
            context.PointsAt (leading.line + tag.line) diagnostic := by
  constructor
  · intro path file hread
    exact SourceFile.records_of_read hread htext
  · intro context start leading comment hrecords hleading hparse
    refine ⟨?_, ?_, ?_, blockOf_reportsFor, ?_⟩
    · intro tag htag
      exact hrecords.writes htext hleading hparse htag
    · intro tag diagnostic hreports
      exact hreports.mem_tags
    · intro tag
      exact List.forall_mem_append.mpr ⟨responseOf_pointsAt tag, bodyOf_pointsAt tag⟩
    · intro binding routes hdeclaration
      apply routerOf_reportsFor
      rw [hdeclaration, Option.bind_some]
      simp [commentOf, hleading, hparse]

/-- A program whose only comment has a gap and a tag that is no good. -/
def gapText : String :=
  "# Users\n\n  # @response ok\n@api.get(\"/users\")\ndef users(): ...\n"

/-- The program with a gap in its comment as it is read. -/
@[irreducible]
def gapFile : SourceFile :=
  (SourceFile.read? ⟨"", ["app.py"]⟩ gapText).get (by decide +kernel)

theorem read_gapText : SourceFile.read? ⟨"", ["app.py"]⟩ gapText = some gapFile := by
  unfold gapFile
  exact (Option.some_get _).symm

def gapContext : Context :=
  { file := gapFile, types := .empty, config := { output := "api.apib" } }

def gapComment : DocComment :=
  { title := "Users"
    description := ""
    tags := [{
      kind := "response", type := none, name := "ok", inline := "", continuation := "", line := 2
      source := "@response ok" }] }

/-- The tag is in the third line of the file, and so is what is reported. -/
theorem diagnostics_point_at_tags_gap :
    gapContext.file.leadingComment ⟨4, 1⟩ = some ⟨0, "# Users\n\n# @response ok"⟩ ∧
      (∀ tag ∈ gapComment.tags, gapContext.file.Writes (0 + tag.line) tag) ∧
      ∀ diagnostic ∈ (blockOf gapContext "get" "/users" 0 gapComment).diagnostics,
        ∃ tag, gapContext.ReportsFor 0 gapComment tag diagnostic ∧
          gapContext.PointsAt (0 + tag.line) diagnostic := by
  have hleading : gapContext.file.leadingComment ⟨4, 1⟩ =
      some ⟨0, "# Users\n\n# @response ok"⟩ := by
    decide +kernel
  have hparse : DocComment.parse? "# Users\n\n# @response ok" = some gapComment := by
    decide +kernel
  have hpoint := diagnostics_point_at_tags (by decide +kernel : OnlyNewlines gapText.toList)
  have hrecords : gapContext.file.Records gapText.toList := hpoint.1 _ _ read_gapText
  obtain ⟨hwrites, -, -, hblock, -⟩ :=
    hpoint.2 gapContext ⟨4, 1⟩ _ gapComment hrecords hleading hparse
  exact ⟨hleading, hwrites, hblock "get" "/users"⟩

end RouteScribe.Route
