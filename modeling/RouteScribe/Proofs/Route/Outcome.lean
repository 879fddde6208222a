import RouteScribe.Proofs.Route.TwoPhase

/-!
# What becomes of a registration

Every registration that a scan meets either has a block, or it is reported why it has
none.  A tag can be dropped, which is reported and leaves the block without it, or it
can be malformed, which is reported and leaves out the block.  The reports are counted
exactly, so nothing that was written down vanishes without a trace.
-/

namespace RouteScribe.Route

open RouteScribe.Blueprint RouteScribe.Comment RouteScribe.Source RouteScribe.Text

/-! ## Reports about tags -/

/-- The report that a type has no schema or no example. -/
inductive Context.Untyped (context : Context) (line : Nat) (type : String) : Diagnostic → Prop where
  | noSchema {fault : Schema.TypeFault}
      (hschema : context.types.schemaOf type = .error (.fault fault)) :
      Untyped context line type (context.diagnostic .error line
        ("Error: In generating schema for type " ++ type ++ ", " ++ fault.message ++ "."))
  | noExample {schema : Schema} {kind shown : String}
      (hschema : context.types.schemaOf type = .ok schema)
      (hsample : Example.payload context.config schema.document =
        .error (.unsupported kind shown)) :
      Untyped context line type (context.diagnostic .error line
        ("Error: " ++ Example.unsupportedMessage kind shown ++ "."))

/-- The report that a tag of a comment is dropped, because its type has no schema or no
example. -/
inductive Context.Dropped (context : Context) (line : Nat) (comment : DocComment)
    (diagnostic : Diagnostic) : Prop where
  | response {tag : Tag} {type : String} (htag : tag ∈ comment.tagsOf "response")
      (htype : (tag.type.bind nonEmpty?).filter (!isContentType ·) = some type)
      (huntyped : context.Untyped (line + tag.line) type diagnostic)
  | body {tag : Tag} {type : String} (htag : tag ∈ comment.tagsOf "body")
      (htype : (bodyTypes? tag).bind (·.data.bind nonEmpty?) = some type)
      (huntyped : context.Untyped (line + tag.line) type diagnostic)

/-- The report that a tag of a comment is malformed. -/
inductive Context.Malformed (context : Context) (line : Nat) (comment : DocComment) :
    Diagnostic → Prop where
  | code {tag : Tag} (htag : tag ∈ comment.tagsOf "response")
      (hname : isDigits tag.name.toList = false) :
      Malformed context line comment (context.diagnostic .error (line + tag.line)
        ("Error: Response code '" ++ tag.name ++ "' should be a number."))
  | braces {tag : Tag} (htag : tag ∈ comment.tagsOf "body") (htypes : bodyTypes? tag = none) :
      Malformed context line comment (context.diagnostic .error (line + tag.line)
        "Error: @body tag should have types surrounded in curly braces.")

theorem Context.Untyped.severity_eq {context : Context} {line : Nat} {type : String}
    {diagnostic : Diagnostic} (huntyped : context.Untyped line type diagnostic) :
    diagnostic.severity = .error := by
  cases huntyped <;> rfl

theorem Context.Dropped.severity_eq {context : Context} {line : Nat} {comment : DocComment}
    {diagnostic : Diagnostic} (hdropped : context.Dropped line comment diagnostic) :
    diagnostic.severity = .error := by
  cases hdropped with
  | response _ _ huntyped => exact huntyped.severity_eq
  | body _ _ huntyped => exact huntyped.severity_eq

theorem Context.Malformed.severity_eq {context : Context} {line : Nat} {comment : DocComment}
    {diagnostic : Diagnostic} (hmalformed : context.Malformed line comment diagnostic) :
    diagnostic.severity = .error := by
  cases hmalformed <;> rfl

/-- A part of reading a comment whose reports are accounted for, unless it fails: either
all of them are about dropped tags and their number fits to the value, or the last one
is about a malformed tag, which ends the reading. -/
inductive Accounted {α : Type} (dropped malformed : Diagnostic → Prop) (fits : Nat → α → Prop) :
    Documenting α → Prop where
  | read {diagnostics : List Diagnostic} {value : α}
      (hdropped : ∀ diagnostic ∈ diagnostics, dropped diagnostic)
      (hfits : fits diagnostics.length value) :
      Accounted dropped malformed fits ⟨diagnostics, .ok value⟩
  | malformed {diagnostics : List Diagnostic} {last : Diagnostic}
      (hdropped : ∀ diagnostic ∈ diagnostics, dropped diagnostic) (hlast : malformed last) :
      Accounted dropped malformed fits ⟨diagnostics ++ [last], .error .leftOut⟩
  | failed (diagnostics : List Diagnostic) (error : ScanError) :
      Accounted dropped malformed fits ⟨diagnostics, .error (.failed error)⟩

namespace Accounted

variable {α β : Type} {dropped malformed : Diagnostic → Prop}

theorem quiet {fits : Nat → α → Prop} {value : α} (hfits : fits 0 value) :
    Accounted dropped malformed fits (pure value) :=
  .read (by simp) hfits

/-- One report about a malformed tag. -/
theorem leftOut {fits : Nat → α → Prop} {diagnostic : Diagnostic}
    (hmalformed : malformed diagnostic) :
    Accounted dropped malformed fits (Reported.report diagnostic >>= fun _ => .fail .leftOut) :=
  .malformed (by simp : ∀ diagnostic ∈ [], dropped diagnostic) hmalformed

/-- Accounts of steps that follow one another add up. -/
theorem bind {first : Documenting α} {next : α → Documenting β} {fits : Nat → α → Prop}
    {fitsNext : Nat → β → Prop} (hfirst : Accounted dropped malformed fits first)
    (hnext : ∀ count value, fits count value →
      Accounted dropped malformed (fun more result => fitsNext (count + more) result)
        (next value)) :
    Accounted dropped malformed fitsNext (first >>= next) := by
  cases hfirst with
  | malformed hdropped hlast =>
      rw [Reported.bind_of_error rfl]
      exact .malformed hdropped hlast
  | failed diagnostics error =>
      rw [Reported.bind_of_error rfl]
      exact .failed diagnostics error
  | @read diagnostics value hdropped hfits =>
      rw [Reported.bind_of_ok rfl]
      have hvalue := hnext diagnostics.length value hfits
      generalize next value = report at hvalue ⊢
      cases hvalue with
      | read hothers hmore =>
          refine .read (List.forall_mem_append.mpr ⟨hdropped, hothers⟩) ?_
          rw [List.length_append]
          exact hmore
      | malformed hothers hlast =>
          rw [← List.append_assoc]
          exact .malformed (List.forall_mem_append.mpr ⟨hdropped, hothers⟩) hlast
      | failed others error => exact .failed _ error

end Accounted

/-- A tag that is not kept has one report. -/
def KeptOrReported {α : Type} (count : Nat) (value : Option α) : Prop :=
  count + value.toList.length = 1

/-- A type without schema or example is reported once. -/
theorem typedOf_accounted {context : Context} {type : String} {line : Nat}
    {dropped malformed : Diagnostic → Prop}
    (hdropped : ∀ diagnostic, context.Untyped line type diagnostic → dropped diagnostic) :
    Accounted dropped malformed KeptOrReported (typedOf context type line) := by
  unfold typedOf
  split
  · rename_i fault hschema
    exact .read (List.forall_mem_singleton.mpr (hdropped _ (.noSchema hschema))) rfl
  · rename_i error hne hschema
    exact .failed [] (.type error)
  · rename_i schema hschema
    dsimp only
    split
    · rename_i sample hsample
      exact .quiet rfl
    · rename_i kind shown hsample
      exact .read (List.forall_mem_singleton.mpr (hdropped _ (.noExample hschema hsample))) rfl
    · rename_i error hne hsample
      exact .failed [] (.sample error)

/-- A tag whose type is resolved last is kept if the type is. -/
theorem Accounted.ofTyped {α : Type} {dropped malformed : Diagnostic → Prop}
    {typed : Documenting (Option Typed)} (next : Typed → α)
    (htyped : Accounted dropped malformed KeptOrReported typed) :
    Accounted dropped malformed KeptOrReported (do
      match ← typed with
      | none => return none
      | some typed => return some (next typed)) := by
  refine htyped.bind fun count value hcount => ?_
  cases value with
  | none => exact .quiet hcount
  | some value => exact .quiet hcount

/-- A response is kept, or its loss is reported. -/
theorem responseOf_accounted (context : Context) (line : Nat) {comment : DocComment} {tag : Tag}
    (htag : tag ∈ comment.tagsOf "response") :
    Accounted (context.Dropped line comment) (context.Malformed line comment) KeptOrReported
      (responseOf context line tag) := by
  unfold responseOf
  split
  · rename_i hname
    exact .leftOut (.code htag (by simpa using hname))
  · split
    · rename_i error _
      exact .failed [] error
    · rename_i code _
      dsimp only
      split
      · exact .quiet rfl
      · rename_i type htype
        exact .ofTyped _ (typedOf_accounted fun _ huntyped => .response htag htype huntyped)

/-- A body is kept, or its loss is reported. -/
theorem bodyOf_accounted (context : Context) (line : Nat) {comment : DocComment} {tag : Tag}
    (htag : tag ∈ comment.tagsOf "body") :
    Accounted (context.Dropped line comment) (context.Malformed line comment) KeptOrReported
      (bodyOf context line tag) := by
  unfold bodyOf
  dsimp only
  split
  · rename_i htypes
    exact .leftOut (.braces htag htypes)
  · rename_i types htypes
    split
    · exact .quiet rfl
    · rename_i type hdata
      exact .ofTyped _ (typedOf_accounted fun _ huntyped =>
        .body htag (by simp only [htypes, Option.bind_some, hdata]) huntyped)

/-- Of the tags of a kind, those that are not kept have one report each. -/
theorem forEach_accounted {α : Type} {dropped malformed : Diagnostic → Prop}
    {act : Tag → Documenting (Option α)} {tags : List Tag}
    (hact : ∀ tag ∈ tags, Accounted dropped malformed KeptOrReported (act tag)) :
    Accounted dropped malformed
      (fun count values => count + (values.filterMap id).length = tags.length)
      (Reported.forEach act tags) := by
  induction tags with
  | nil => exact .quiet rfl
  | cons tag tags ih =>
      unfold Reported.forEach
      refine (hact tag List.mem_cons_self).bind fun count value hvalue => ?_
      refine (ih fun other hother => hact other (List.mem_cons_of_mem _ hother)).bind
        fun others values hvalues => .quiet ?_
      have hkept : ((value :: values).filterMap id).length =
          value.toList.length + (values.filterMap id).length := by
        cases value with
        | none => exact (Nat.zero_add _).symm
        | some value => exact Nat.add_comm _ 1
      unfold KeptOrReported at hvalue
      rw [hkept, List.length_cons]
      omega

/-- A body that is not kept has one report, and more than one body tag fails. -/
theorem singleBody_accounted (context : Context) (method path : String) (line : Nat)
    (comment : DocComment) :
    Accounted (context.Dropped line comment) (context.Malformed line comment)
      (fun count body => count = if comment.tagsOf "body" ≠ [] ∧ body = none then 1 else 0)
      (singleBody context method path line (comment.tagsOf "body")) := by
  cases htags : comment.tagsOf "body" with
  | nil => exact .quiet (by simp)
  | cons tag tags =>
      cases tags with
      | nil =>
          have htag : tag ∈ comment.tagsOf "body" := by
            rw [htags]
            exact List.mem_singleton_self tag
          have hbody := bodyOf_accounted context line htag
          rw [show singleBody context method path line [tag] =
            bodyOf context line tag >>= pure by rw [bind_pure]; rfl]
          refine hbody.bind fun count body hcount => .quiet ?_
          unfold KeptOrReported at hcount
          cases body <;> simp_all
      | cons second others => exact .failed _ _

/-! ## Verdicts -/

def errorCount (diagnostics : List Diagnostic) : Nat :=
  diagnostics.countP (·.severity = .error)

/-- A block says less than its comment by as many tags as errors are reported. -/
structure LossesReported (comment : DocComment) (errors : Nat) (block : Block) : Prop where
  responses_le : block.responses.length ≤ (comment.tagsOf "response").length
  errors_eq : errors =
    ((comment.tagsOf "response").length - block.responses.length) +
      if comment.tagsOf "body" ≠ [] ∧ block.body = none then 1 else 0

/-- Every loss of a block is reported, and nothing else is. -/
theorem blockOf_accounted (context : Context) (method path : String) (line : Nat)
    (comment : DocComment) :
    Accounted (context.Dropped line comment) (context.Malformed line comment)
      (LossesReported comment) (blockOf context method path line comment) := by
  unfold blockOf
  refine (forEach_accounted fun tag htag => responseOf_accounted context line htag).bind
    fun count responses hresponses => ?_
  refine (singleBody_accounted context method path line comment).bind
    fun others body hbody => .quiet ?_
  constructor
  · dsimp only
    omega
  · dsimp only
    rw [hbody]
    omega

/-- What can become of a registration. -/
inductive Verdict where
  | documented
  | ignored
  | malformed
  deriving DecidableEq, Repr

/-- When a verdict holds of a registration: which block it has, and what exactly is
reported about it. -/
inductive Verdict.Holds (context : Context) (sighting : Sighting) : Verdict → Prop where
  /-- There is a block, and each error is about a tag that the block does not keep. -/
  | documented {path : String} {line : Nat} {comment : DocComment} {block : Block}
      {diagnostics : List Diagnostic} (hpath : sighting.path = some path)
      (hcomment : commentOf context.file sighting.start = some (line, comment))
      (hreported : documentSighting context sighting = ⟨diagnostics, .ok (some block)⟩)
      (hdropped : ∀ diagnostic ∈ diagnostics, context.Dropped line comment diagnostic)
      (hlosses : LossesReported comment (errorCount diagnostics) block) :
      Holds context sighting .documented
  /-- The path is not written as a text, which is warned of. -/
  | withoutPath (hpath : sighting.path = none)
      (hreported : documentSighting context sighting =
        ⟨[context.diagnostic .warning (sighting.start.line - 1)
          "Skipping router using something other than a string literal for defining the path"],
          .ok none⟩) :
      Holds context sighting .ignored
  /-- There is no comment, or a blank one, which is warned of. -/
  | withoutComment {path : String} (hpath : sighting.path = some path)
      (hcomment : commentOf context.file sighting.start = none)
      (hreported : documentSighting context sighting =
        ⟨[context.diagnostic .warning (sighting.start.line - 1)
          ("Ignoring undocumented route " ++ sighting.method.toUpper ++ " " ++ path)],
          .ok none⟩) :
      Holds context sighting .ignored
  /-- The last error is about a malformed tag, and those before it about dropped
  ones. -/
  | malformed {path : String} {line : Nat} {comment : DocComment}
      {diagnostics : List Diagnostic} {last : Diagnostic} (hpath : sighting.path = some path)
      (hcomment : commentOf context.file sighting.start = some (line, comment))
      (hreported : documentSighting context sighting = ⟨diagnostics ++ [last], .ok none⟩)
      (hdropped : ∀ diagnostic ∈ diagnostics, context.Dropped line comment diagnostic)
      (hlast : context.Malformed line comment last) :
      Holds context sighting .malformed

/-- All reports about dropped tags are errors. -/
theorem errorCount_of_dropped {context : Context} {line : Nat} {comment : DocComment}
    {diagnostics : List Diagnostic}
    (hdropped : ∀ diagnostic ∈ diagnostics, context.Dropped line comment diagnostic) :
    errorCount diagnostics = diagnostics.length :=
  List.countP_eq_length.mpr fun diagnostic hmem => by
    simpa using (hdropped diagnostic hmem).severity_eq

/-- A registration with a path and a comment has the verdict that the tags of the comment
lead to, unless its documentation fails. -/
theorem exists_verdict_of_comment {context : Context} {sighting : Sighting} {path : String}
    {line : Nat} {comment : DocComment} {block : Option Block}
    (hpath : sighting.path = some path)
    (hcomment : commentOf context.file sighting.start = some (line, comment))
    (hblock : (documentSighting context sighting).result = .ok block) :
    ∃ verdict, Verdict.Holds context sighting verdict := by
  have hroute : documentSighting context sighting = documentRoute context sighting path := by
    simp only [documentSighting, hpath]
  have haccounted := blockOf_accounted context sighting.method path line comment
  simp only [documentRoute, hcomment] at hroute
  generalize blockOf context sighting.method path line comment = reported at hroute haccounted
  cases haccounted with
  | read hdropped hlosses =>
      refine ⟨.documented, .documented hpath hcomment hroute hdropped ?_⟩
      rwa [errorCount_of_dropped hdropped]
  | malformed hdropped hlast =>
      exact ⟨.malformed, .malformed hpath hcomment hroute hdropped hlast⟩
  | failed diagnostics error =>
      rw [hroute] at hblock
      cases hblock

/-- A registration has a verdict unless its documentation fails. -/
theorem exists_verdict {context : Context} {sighting : Sighting} {block : Option Block}
    (hblock : (documentSighting context sighting).result = .ok block) :
    ∃ verdict, Verdict.Holds context sighting verdict := by
  cases hpath : sighting.path with
  | none =>
      refine ⟨.ignored, .withoutPath hpath ?_⟩
      simp only [documentSighting, hpath]
      rfl
  | some path =>
      cases hcomment : commentOf context.file sighting.start with
      | none =>
          refine ⟨.ignored, .withoutComment hpath hcomment ?_⟩
          simp only [documentSighting, hpath, documentRoute, hcomment]
          rfl
      | some found => exact exists_verdict_of_comment hpath hcomment hblock

def Verdict.ofReport (reported : Reported ScanError (Option Block)) : Verdict :=
  match reported.result with
  | .ok (some _) => .documented
  | _ =>
      if reported.diagnostics.getLast?.any (·.severity = .warning) then .ignored else .malformed

/-- The report on a registration tells its verdict, so it has no other one. -/
theorem Verdict.Holds.eq_ofReport {context : Context} {sighting : Sighting} {verdict : Verdict}
    (hverdict : Verdict.Holds context sighting verdict) :
    verdict = Verdict.ofReport (documentSighting context sighting) := by
  cases hverdict with
  | documented _ _ hreported _ _ => rw [hreported]; rfl
  | withoutPath _ hreported => rw [hreported]; rfl
  | withoutComment _ _ hreported => rw [hreported]; rfl
  | malformed _ _ hreported _ hlast =>
      rw [hreported]
      simp [Verdict.ofReport, hlast.severity_eq]

/-- A scan without an error drops nothing silently.  Each registration that it meets has
exactly one verdict, the routers hold the blocks of those that are documented, and the
scan reports nothing else than what the verdicts say. -/
theorem scan_accounts_for_every_registration {context : Context} {routers : List Router}
    (hscan : (scan context).result = .ok routers) :
    let sightings := sightingsIn context.config.routerTypes context.file.module
    (∀ sighting ∈ sightings, ∃! verdict, Verdict.Holds context sighting verdict) ∧
      (routers.flatMap fun router => router.routes.flatMap Group.methods).Perm
        (sightings.filterMap (documented context)) ∧
      (scan context).diagnostics =
        sightings.flatMap fun sighting => (documentSighting context sighting).diagnostics := by
  intro sightings
  obtain ⟨hassembled, hblocks, hdiagnostics⟩ := scan_of_ok hscan
  refine ⟨?_, ?_, hdiagnostics⟩
  · intro sighting hsighting
    obtain ⟨block, hblock⟩ := hblocks sighting hsighting
    obtain ⟨verdict, hverdict⟩ := exists_verdict hblock
    refine ⟨verdict, hverdict, fun other hother => ?_⟩
    rw [hverdict.eq_ofReport, hother.eq_ofReport]
  · have hperm := hassembled.blocks_perm
    simpa [documentedBlocks, List.map_filterMap, Function.comp_def] using hperm

theorem scan_accounts_for_every_registration_sample :
    let context := sampleContext "# @response ok"
    (scan context).result = .ok sampleRouters ∧
      ∀ sighting ∈ sightingsIn ["Router"] context.file.module,
        ∃! verdict, Verdict.Holds context sighting verdict :=
  ⟨scan_sampleContext, (scan_accounts_for_every_registration scan_sampleContext).1⟩

end RouteScribe.Route
