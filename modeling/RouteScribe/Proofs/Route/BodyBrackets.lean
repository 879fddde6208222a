import RouteScribe.Proofs.Comment.TagLine
import RouteScribe.Proofs.Route.Report
import RouteScribe.Route.Block

/-!
# The types of a request body

A body tag names the type of its data and the type of its content, each in curly braces.  The
first is read as the type of the tag and the second as its name, with the braces, but it is
the slash that tells the two apart.  Their order is therefore of no importance.
-/

namespace RouteScribe.Route

open RouteScribe.Blueprint RouteScribe.Comment RouteScribe.Json RouteScribe.Text

/-- A text that can stand in braces as a type. -/
structure BracedText where
  text : List Char
  balanced : Balanced text
  trimmed : trim text = text
  nonempty : text ≠ []

def braces (text : List Char) : List Char :=
  '\x7b' :: (text ++ ['\x7d'])

theorem braces_append (text rest : List Char) :
    braces text ++ rest = '\x7b' :: (text ++ '\x7d' :: rest) := by
  simp [braces]

theorem trim_braces_append (text rest : List Char) :
    trim (braces text ++ rest) = braces text ++ trimEnd rest := by
  obtain ⟨hstart, hend⟩ := trim_eq_self_iff.mp (trim_braces text)
  have hfirst : trimStart (braces text ++ rest) = braces text ++ rest :=
    trimStart_append hstart (List.cons_ne_nil _ _) rest
  rw [trim, hfirst]
  exact trimEnd_append hend rest

theorem trimEnd_space_braces (text rest : List Char) :
    trimEnd (' ' :: (braces text ++ rest)) = ' ' :: (braces text ++ trimEnd rest) := by
  have hend : trimEnd (' ' :: braces text) = ' ' :: braces text :=
    trimEnd_append_of_ne_nil [' '] (trim_eq_self_iff.mp (trim_braces text)).2
      (List.cons_ne_nil _ _)
  exact trimEnd_append hend rest

/-! ### Reading a body tag -/

/-- What follows the kind in the line of a body tag. -/
def bodyText (first second : BracedText) (inline : List Char) : List Char :=
  ' ' :: (braces first.text ++ ' ' :: (braces second.text ++ ' ' :: inline))

def bodyLine (first second : BracedText) (inline : List Char) : List Char :=
  "@body".toList ++ bodyText first second inline

variable {first second : BracedText} {inline : List Char}

/-- A body line is read as a body tag with all that follows its name. -/
theorem tagLine?_bodyLine :
    tagLine? (trim (bodyLine first second inline)) =
      some ("body".toList, trimEnd (bodyText first second inline)) := by
  have hsign : trimEnd "@body".toList = "@body".toList := by decide
  have hstart : trimStart (bodyLine first second inline) = bodyLine first second inline :=
    trimStart_of_not_blank (by decide) _
  have hline : trim (bodyLine first second inline) =
      '@' :: 'b' :: ("ody".toList ++ trimEnd (bodyText first second inline)) := by
    rw [trim, hstart, bodyLine, trimEnd_append hsign]
    rfl
  have hletters : ∀ c ∈ "ody".toList, isKindChar c := List.all_eq_true.mp (by decide)
  have hspace : ∀ c ∈ (trimEnd (bodyText first second inline)).head?, isKindChar c = false := by
    rw [bodyText, trimEnd_space_braces]
    rintro c ⟨⟩
    decide
  rw [hline, tagLine?, if_pos (by decide), takeWhile_append_of_head hletters hspace,
    dropWhile_append_of_head hletters hspace]
  rfl

/-- The first text is the type of a body tag, and the second one its name. -/
theorem ofText_bodyText :
    TagBody.ofText (trimEnd (bodyText first second inline)) =
      { type := some (.ofList first.text)
        name := .ofList (braces second.text)
        inline := .ofList (trim inline) } := by
  have htext : trim (trimEnd (bodyText first second inline)) =
      '\x7b' :: (first.text ++ '\x7d' ::
        (' ' :: (braces second.text ++ trimEnd (' ' :: inline)))) := by
    rw [trim_trimEnd, bodyText, trim_cons_of_blank isBlank_space, trim_braces_append,
      trimEnd_space_braces, braces_append]
  have hrest : trim (' ' :: (braces second.text ++ trimEnd (' ' :: inline))) =
      '\x7b' :: (second.text ++ '\x7d' :: trimEnd (' ' :: inline)) := by
    rw [trim_cons_of_blank isBlank_space, trim_braces_append, trimEnd_trimEnd, braces_append]
  have hinline : trim (trimEnd (' ' :: inline)) = trim inline := by
    rw [trim_trimEnd, trim_cons_of_blank isBlank_space]
  have hempty : first.text.isEmpty = false := List.isEmpty_eq_false_iff.mpr first.nonempty
  have htype : splitType (trim (trimEnd (bodyText first second inline))) =
      (some first.text, '\x7b' :: (second.text ++ '\x7d' :: trimEnd (' ' :: inline))) := by
    rw [htext, splitType, splitGroup_eq first.balanced]
    dsimp only
    rw [first.trimmed, hrest, hempty]
    rfl
  have hname : splitName ('\x7b' :: (second.text ++ '\x7d' :: trimEnd (' ' :: inline))) =
      (braces second.text, trim inline) := by
    rw [splitName, splitGroup_eq second.balanced]
    dsimp only
    rw [hinline]
    rfl
  rw [TagBody.ofText, htype]
  dsimp only
  rw [hname]
  rfl

/-- The text after the types of a body tag, in its line and in the lines below it. -/
def literalText (inline : List Char) (following : List (List Char)) : String :=
  "\n".intercalate ([String.ofList (trim inline),
    String.ofList (trimNewlines (dedent (joinLines following)))].filter (· ≠ ""))

/-- The tag that is read from the line of a body tag and free lines below it. -/
theorem exists_bodyTag (first second : BracedText) (inline : List Char) (number : Nat)
    {following : List (List Char)}
    (hfollowing : ∀ line ∈ following, tagLine? (trim line) = none) :
    ∃ tag, (splitSections number (bodyLine first second inline :: following)).2.map
        Section.toTag = [tag] ∧
      tag.kind = "body" ∧ tag.type = some (.ofList first.text) ∧
      tag.name = .ofList (braces second.text) ∧
      tag.description = literalText inline following ∧ tag.line = number := by
  have hfree : splitSections (number + 1) following = (following, []) := by
    have hsplit := splitSections_append hfollowing (number + 1) []
    rw [List.append_nil] at hsplit
    rw [hsplit, splitSections, List.append_nil]
  rw [splitSections_cons tagLine?_bodyLine, hfree]
  refine ⟨_, rfl, rfl, ?_, ?_, ?_, rfl⟩
  · rw [Section.toTag, ofText_bodyText]
  · rw [Section.toTag, ofText_bodyText]
  · rw [Section.toTag, ofText_bodyText]
    rfl

/-! ### The request body of a tag -/

theorem isContentType_iff {text : List Char} : isContentType (.ofList text) ↔ '/' ∈ text := by
  rw [isContentType, String.toList_ofList, List.contains_iff_mem]

theorem nonEmpty?_ofList {text : List Char} (hne : text ≠ []) :
    nonEmpty? (.ofList text) = some (.ofList text) := by
  apply if_neg
  intro hempty
  exact hne (String.ofList_injective hempty)

theorem braced?_braces (text : BracedText) :
    braced? (.ofList (braces text.text)) = some (.ofList text.text) := by
  have hlast : (text.text ++ ['\x7d']).getLast? = some '\x7d' := List.getLast?_concat
  have hinside : (text.text ++ ['\x7d']).dropLast = text.text := List.dropLast_concat
  simp only [braced?, braces, String.toList_ofList]
  rw [if_pos hlast, hinside, text.trimmed]

/-- Both types are taken up, the first one first. -/
theorem bodyTypes?_eq {tag : Tag} (htype : tag.type = some (.ofList first.text))
    (hname : tag.name = .ofList (braces second.text)) :
    bodyTypes? tag =
      some (((BodyTypes.add {} (.ofList first.text)).add (.ofList second.text))) := by
  have hne : tag.name ≠ "" := by
    rw [hname]
    intro hempty
    exact List.cons_ne_nil _ _ (String.ofList_injective hempty)
  rw [bodyTypes?, if_neg hne, htype, Option.bind_some, nonEmpty?_ofList first.nonempty, hname,
    braced?_braces]
  rfl

/-- A content type and another type are told apart in either order. -/
theorem add_add_eq {data content : String} (hdata : isContentType data = false)
    (hcontent : isContentType content = true) :
    (BodyTypes.add {} data).add content = ⟨some data, some content⟩ ∧
      (BodyTypes.add {} content).add data = ⟨some data, some content⟩ := by
  simp [BodyTypes.add, hdata, hcontent]

/-- The request body with a content type and a literal text, which replaces the example of
the data if it is not empty. -/
def requestBody (content literal : String) (data : Typed) : RequestBody where
  type := some content
  schema := some data.schema
  body := if literal = "" then data.sample else .str literal

/-- A body tag with a type gives the body of this type. -/
theorem bodyOf_eq {tag : Tag} {data : List Char} {content : String} (hne : data ≠ [])
    (htypes : bodyTypes? tag = some ⟨some (.ofList data), some content⟩) (context : Context)
    (start : Nat) :
    bodyOf context start tag =
      Option.map (requestBody content tag.description) <$>
        typedOf context (.ofList data) (start + tag.line) := by
  have hbody : ∀ sample : Value, ((nonEmpty? tag.description).map Value.str).getD sample =
      if tag.description = "" then sample else .str tag.description := by
    intro sample
    unfold nonEmpty?
    split <;> rfl
  rw [map_eq_pure_bind, bodyOf, htypes]
  dsimp only
  rw [Option.bind_some, nonEmpty?_ofList hne]
  dsimp only
  congr 1
  funext typed
  cases typed with
  | none => rfl
  | some typed =>
      simp only [hbody]
      rfl

/-- The types of a body tag can be written in either order.  Both lines are read as a body
tag, and both tags give the same request body, or none, and the same reports: the body has
the content type and what the other type gives, apart from a literal text in its place. -/
theorem body_types_in_either_order {data content : BracedText} (hdata : '/' ∉ data.text)
    (hcontent : '/' ∈ content.text) (inline : List Char) {following : List (List Char)}
    (hfollowing : ∀ line ∈ following, tagLine? (trim line) = none) (number : Nat) :
    ∃ tag swapped,
      (splitSections number (bodyLine data content inline :: following)).2.map Section.toTag =
        [tag] ∧
      (splitSections number (bodyLine content data inline :: following)).2.map Section.toTag =
        [swapped] ∧
      tag.kind = "body" ∧ swapped.kind = "body" ∧
      ∀ (context : Context) (start : Nat),
        bodyOf context start tag = bodyOf context start swapped ∧
        bodyOf context start tag =
          Option.map (requestBody (.ofList content.text) (literalText inline following)) <$>
            typedOf context (.ofList data.text) (start + number) := by
  obtain ⟨tag, htag, hkind, htype, hname, hliteral, hline⟩ :=
    exists_bodyTag data content inline number hfollowing
  obtain ⟨swapped, hswapped, hkind', htype', hname', hliteral', hline'⟩ :=
    exists_bodyTag content data inline number hfollowing
  refine ⟨tag, swapped, htag, hswapped, hkind, hkind', ?_⟩
  intro context start
  have hplain : isContentType (.ofList data.text) = false :=
    Bool.eq_false_iff.mpr (isContentType_iff.not.mpr hdata)
  obtain ⟨hadd, hadd'⟩ := add_add_eq hplain (isContentType_iff.mpr hcontent)
  have hbody := bodyOf_eq data.nonempty ((bodyTypes?_eq htype hname).trans (congrArg some hadd))
    context start
  have hbody' := bodyOf_eq data.nonempty
    ((bodyTypes?_eq htype' hname').trans (congrArg some hadd')) context start
  rw [hliteral, hline] at hbody
  rw [hliteral', hline'] at hbody'
  exact ⟨hbody.trans hbody'.symm, hbody⟩

theorem balanced_of_no_braces {text : List Char} (hopen : '\x7b' ∉ text)
    (hclose : '\x7d' ∉ text) : Balanced text := by
  induction text with
  | nil => exact .nil
  | cons c text ih =>
      rw [List.mem_cons, not_or] at hopen hclose
      exact .char (Ne.symm hopen.1) (Ne.symm hclose.1) (ih hopen.2 hclose.2)

def nestedType : BracedText where
  text := braces "User".toList
  balanced := .group (balanced_of_no_braces (by decide) (by decide)) .nil
  trimmed := trim_braces _
  nonempty := List.cons_ne_nil _ _

def plainContent : BracedText where
  text := "text/plain".toList
  balanced := balanced_of_no_braces (by decide) (by decide)
  trimmed := by decide
  nonempty := List.cons_ne_nil _ _

/-- Both lines have a text and a line below it, which are the body. -/
theorem body_types_in_either_order_nested :
    '/' ∉ nestedType.text ∧ '/' ∈ plainContent.text ∧
      ∃ tag swapped,
        (splitSections 2 [bodyLine nestedType plainContent "a user".toList,
          "  by name".toList]).2.map Section.toTag = [tag] ∧
        (splitSections 2 [bodyLine plainContent nestedType "a user".toList,
          "  by name".toList]).2.map Section.toTag = [swapped] ∧
        ∀ (context : Context) (start : Nat),
          bodyOf context start tag = bodyOf context start swapped ∧
          bodyOf context start tag =
            Option.map (requestBody "text/plain" "a user\nby name") <$>
              typedOf context "\x7bUser\x7d" (start + 2) := by
  have hdata : '/' ∉ nestedType.text := by decide
  have hcontent : '/' ∈ plainContent.text := by decide
  have hfollowing : ∀ line ∈ ["  by name".toList], tagLine? (trim line) = none := by
    decide
  have hliteral : literalText "a user".toList ["  by name".toList] = "a user\nby name" := by
    decide +kernel
  obtain ⟨tag, swapped, htag, hswapped, -, -, hbody⟩ :=
    body_types_in_either_order hdata hcontent "a user".toList hfollowing 2
  rw [hliteral] at hbody
  exact ⟨hdata, hcontent, tag, swapped, htag, hswapped, hbody⟩

end RouteScribe.Route
