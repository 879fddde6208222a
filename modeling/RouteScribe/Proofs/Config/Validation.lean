import RouteScribe.Config.Load
import RouteScribe.Proofs.Json.Decoding

/-!
# What a config means

A config is read leniently: only its output is required, and only lists of names are
checked.  What else is given counts if it has the right type and is ignored if it has
not.  The format of a config and its meaning are stated in terms of the values under its
keys; what is accepted is what has the format.
-/

namespace RouteScribe.Config

open RouteScribe.Config.Model RouteScribe.Json RouteScribe.Table

variable {value raw : Value} {entries : Table Value} {given : Option Value}
  {config : Config} {names standard : List String} {text : String}

/-! ### Values of a type -/

theorem asString?_eq_some_iff : value.asString? = some text ↔ value = .str text := by
  cases value <;> simp [Value.asString?]

theorem optionalString_eq_some_iff :
    optionalString given = some text ↔ given = some (.str text) := by
  simp [optionalString, Option.bind_eq_some_iff, asString?_eq_some_iff]

theorem asNumeral?_eq_some_iff {number : Numeral} :
    asNumeral? value = some number ↔ value = number.toValue := by
  cases value <;> cases number <;> simp [asNumeral?, Numeral.toValue]

theorem asBool?_eq_some_iff {truth : Bool} : asBool? value = some truth ↔ value = .bool truth := by
  cases value <;> simp [asBool?]

/-- What is chosen among values that may be given: the first one of a type, or a standard
one if none of them has it. -/
inductive Chosen {α : Type} (type : α → Value) (standard : α) : List (Option Value) → α → Prop where
  | standard : Chosen type standard [] standard
  | given {value : α} {given : Option Value} {others : List (Option Value)}
      (hgiven : given = some (type value)) : Chosen type standard (given :: others) value
  | ignored {value : α} {given : Option Value} {others : List (Option Value)}
      (hgiven : ∀ other, given ≠ some (type other)) (hothers : Chosen type standard others value) :
      Chosen type standard (given :: others) value

/-- A value that is read if it has its type, and passed over otherwise, is a choice. -/
theorem Chosen.read {α : Type} {type : α → Value} {read : Value → Option α} {standard other : α}
    {others : List (Option Value)}
    (hread : ∀ value found, read value = some found ↔ value = type found)
    (hothers : Chosen type standard others other) (given : Option Value) :
    Chosen type standard (given :: others) ((given.bind read).getD other) := by
  cases hgiven : given.bind read with
  | none =>
      refine .ignored ?_ hothers
      rintro found rfl
      rw [Option.bind_some, (hread _ found).mpr rfl] at hgiven
      cases hgiven
  | some found =>
      obtain ⟨value, rfl, hvalue⟩ := Option.bind_eq_some_iff.mp hgiven
      exact .given (congrArg some ((hread value found).mp hvalue))

/-! ### Lists of names -/

/-- An array has no problems exactly if it holds strings only. -/
theorem stringProblems_eq_nil_iff {location : List Step} {index : Nat} {items : List Value} :
    stringProblems location index items = [] ↔ ∃ names : List String, items = names.map .str := by
  induction items generalizing index with
  | nil => simp [stringProblems]
  | cons item items ih =>
      constructor
      · intro hnone
        cases item with
        | str name =>
            obtain ⟨names, rfl⟩ := ih.mp hnone
            exact ⟨name :: names, rfl⟩
        | _ => cases hnone
      · rintro ⟨names, hnames⟩
        cases names with
        | nil => cases hnames
        | cons name names =>
            obtain ⟨rfl, hitems⟩ := List.cons.inj hnames
            exact ih.mpr ⟨names, hitems⟩

theorem filterMap_asString? (names : List String) :
    (names.map Value.str).filterMap Value.asString? = names := by
  rw [List.filterMap_map]
  exact List.filterMap_some

/-- A list of names is read from an array of strings and from nothing else. -/
theorem stringArray_eq_ok_iff {key : String} :
    stringArray key value = .ok names ↔ value = .strings names := by
  cases value with
  | arr items =>
      rw [stringArray, Value.strings, Value.arr.injEq]
      cases hproblems : stringProblems [.key key] 0 items with
      | nil =>
          obtain ⟨found, rfl⟩ := stringProblems_eq_nil_iff.mp hproblems
          simp only [filterMap_asString?, Except.ok.injEq]
          exact (List.map_injective_iff.mpr fun _ _ => Value.str.inj).eq_iff.symm
      | cons problem problems =>
          have hmixed : ∀ names : List String, items ≠ names.map .str := by
            intro names hitems
            rw [stringProblems_eq_nil_iff.mpr ⟨names, hitems⟩] at hproblems
            cases hproblems
          simp [hmixed]
  | _ => simp [stringArray, Value.strings]

/-- Names that are given where they are looked for, or else the standard ones. -/
def NamesFrom (standard : List String) (given : Option Value) (names : List String) : Prop :=
  (given = none ∧ names = standard) ∨ given = some (.strings names)

theorem withDefault_eq_ok_iff {found : Option (String × Value)} :
    withDefault standard stringArray found = .ok names ↔
      NamesFrom standard (found.map (·.2)) names := by
  cases found with
  | none => simp [withDefault, NamesFrom, eq_comm]
  | some pair => simp [withDefault, NamesFrom, stringArray_eq_ok_iff]

/-- The value for which there are two keys, of which the first one counts if it is there. -/
def eitherOf (raw : Value) (first second : String) : Option Value :=
  (raw.get? first).or (raw.get? second)

theorem map_fieldOf (entries : Table Value) (first second : String) :
    (fieldOf entries first second).map (·.2) = eitherOf (.obj entries) first second := by
  cases hfirst : entries.get? first with
  | none => simp [fieldOf, eitherOf, Value.get?, hfirst, Function.comp_def]
  | some value => simp [fieldOf, eitherOf, Value.get?, hfirst]

theorem withDefault_fieldOf_eq_ok_iff {first second : String} :
    withDefault standard stringArray (fieldOf entries first second) = .ok names ↔
      NamesFrom standard (eitherOf (.obj entries) first second) names := by
  rw [withDefault_eq_ok_iff, map_fieldOf]

/-- A name that is looked up under one key only. -/
theorem eitherOf_self (raw : Value) (key : String) : eitherOf raw key key = raw.get? key :=
  Option.or_self

theorem exists_namesFrom_iff :
    (∃ names, NamesFrom standard given names) ↔
      ∀ value, given = some value → ∃ names, value = .strings names := by
  cases given with
  | none => simp [NamesFrom]
  | some value => simp [NamesFrom]

/-! ### The format -/

def partOf (given : Option Value) (key : String) : Option Value :=
  given.bind (·.get? key)

/-- The format of a config: an object with an output, in which lists of names are arrays of
strings. -/
structure IsConfig (raw : Value) : Prop where
  object : ∃ entries, raw = .obj entries
  output : ∃ output, raw.get? "output" = some (.str output)
  routerTypes : ∀ value, eitherOf raw "routerTypes" "router_types" = some value →
    ∃ names, value = .strings names
  exclude : ∀ value, raw.get? "exclude" = some value → ∃ names, value = .strings names

/-- The default values that are given, each one if it has its type. -/
structure DefaultsFrom (given : Option Value) (defaults : Defaults) : Prop where
  string : Chosen .str "abcd" [partOf given "string"] defaults.string
  number : Chosen Numeral.toValue (.int 0) [partOf given "number"] defaults.number
  boolean : Chosen .bool true [partOf given "boolean"] defaults.boolean
  jsonKey : Chosen .str "key" [partOf given "jsonKey", partOf given "json_key"] defaults.jsonKey

/-- The tables of examples that are given.  What is given for all of them comes first. -/
structure ExamplesFrom (given : Option Value) (examples : Examples) : Prop where
  response : ∀ name, examples.response.get? name =
    (partOf (partOf given "all") name).or (partOf (partOf given "response") name)
  param : ∀ name, examples.param.get? name =
    (partOf (partOf given "all") name).or (partOf (partOf given "param") name)

/-- What a value means as a config. -/
structure Means (raw : Value) (config : Config) : Prop where
  output : raw.get? "output" = some (.str config.output)
  host : ∀ text, config.host = some text ↔ raw.get? "host" = some (.str text)
  title : ∀ text, config.title = some text ↔ raw.get? "title" = some (.str text)
  description : ∀ text, config.description = some text ↔
    raw.get? "description" = some (.str text)
  afterHook : ∀ text, config.afterHook = some text ↔
    eitherOf raw "afterHook" "after_hook" = some (.str text)
  routerTypes : NamesFrom ["Router"] (eitherOf raw "routerTypes" "router_types")
    config.routerTypes
  exclude : NamesFrom ["node_modules", ".venv", "site-packages"] (raw.get? "exclude")
    config.exclude
  defaults : DefaultsFrom (raw.get? "defaults") config.defaults
  examples : ExamplesFrom (raw.get? "examples") config.examples

/-! ### Sections of a config -/

@[simp]
theorem get?_entriesOf (given : Option Value) (key : String) :
    (entriesOf given).get? key = partOf given key := by
  cases given with
  | none => rfl
  | some value => cases value <;> rfl

/-- A section that is not given is read like a section without entries. -/
@[simp]
theorem partOf_getD_null (given : Option Value) (key : String) :
    partOf (some (given.getD .null)) key = partOf given key := by
  cases given with
  | none => rfl
  | some value => rfl

/-- The defaults of a config are those that are given, each one if it has its type. -/
theorem Defaults.ofValue_from (given : Option Value) :
    DefaultsFrom given (Defaults.ofValue (given.getD .null)) := by
  constructor
  · simpa [Defaults.ofValue, optionalString] using
      Chosen.read (fun _ _ => asString?_eq_some_iff) .standard (partOf given "string")
  · simpa [Defaults.ofValue] using
      Chosen.read (fun _ _ => asNumeral?_eq_some_iff) .standard (partOf given "number")
  · simpa [Defaults.ofValue] using
      Chosen.read (fun _ _ => asBool?_eq_some_iff) .standard (partOf given "boolean")
  · have hplain : Chosen .str "key" [partOf given "json_key"]
        (((partOf given "json_key").bind Value.asString?).getD "key") :=
      .read (fun _ _ => asString?_eq_some_iff) .standard _
    simpa [Defaults.ofValue, optionalString] using
      hplain.read (fun _ _ => asString?_eq_some_iff) (partOf given "jsonKey")

theorem nodup_names_entriesOf (hdistinct : ∀ value ∈ given, value.hasDistinctKeys) :
    (entriesOf given).names.Nodup := by
  cases given with
  | none => exact List.nodup_nil
  | some value =>
      cases value with
      | obj entries => exact (Value.hasDistinctKeys_obj.mp (hdistinct _ rfl)).1
      | _ => exact List.nodup_nil

theorem hasDistinctKeys_of_partOf {key : String}
    (hdistinct : ∀ value ∈ given, value.hasDistinctKeys) :
    ∀ value ∈ partOf given key, value.hasDistinctKeys := by
  intro value hvalue
  obtain ⟨whole, hwhole, hpart⟩ := Option.bind_eq_some_iff.mp hvalue
  exact Value.hasDistinctKeys_of_get? (hdistinct whole hwhole) hpart

theorem Examples.ofValue_from (hdistinct : ∀ value ∈ given, value.hasDistinctKeys) :
    ExamplesFrom given (Examples.ofValue (given.getD .null)) := by
  have hshared : (entriesOf (partOf given "all")).names.Nodup :=
    nodup_names_entriesOf (hasDistinctKeys_of_partOf hdistinct)
  constructor <;> intro name <;>
    simp [Examples.ofValue, get?_merge, lastValue_eq_get? hshared]

/-! ### Validation -/

theorem checkOutput_eq_ok_iff {key : String} :
    checkOutput key value = .ok text ↔ value = .str text := by
  cases value <;> simp [checkOutput]

theorem output_eq_ok_iff {name : String} :
    required name checkOutput (fieldOf entries name name) = .ok text ↔
      entries.get? name = some (.str text) := by
  cases hname : entries.get? name with
  | none => simp [fieldOf, hname, required]
  | some value => simp [fieldOf, hname, required, checkOutput_eq_ok_iff]

theorem exists_withDefault_of {first second : String} (standard : List String)
    (hnames : ∀ value, eitherOf (.obj entries) first second = some value →
      ∃ names, value = .strings names) :
    ∃ names, withDefault standard stringArray (fieldOf entries first second) = .ok names := by
  obtain ⟨names, hfrom⟩ := exists_namesFrom_iff.mpr hnames
  exact ⟨names, withDefault_fieldOf_eq_ok_iff.mpr hfrom⟩

/-- A config that has been read means what its entries say. -/
theorem ofEntries_means (hdistinct : (Value.obj entries).hasDistinctKeys)
    (hok : ofEntries entries = .ok config) : Means (.obj entries) config := by
  simp only [ofEntries] at hok
  split at hok
  · rename_i output routerTypes exclude houtput hrouterTypes hexclude
    rw [withDefault_fieldOf_eq_ok_iff] at hrouterTypes hexclude
    cases hok
    exact
      { output := output_eq_ok_iff.mp houtput
        host := fun _ => optionalString_eq_some_iff
        title := fun _ => optionalString_eq_some_iff
        description := fun _ => optionalString_eq_some_iff
        afterHook := fun _ => by rw [optionalString_eq_some_iff, map_fieldOf]
        routerTypes := hrouterTypes
        exclude := by rwa [eitherOf_self] at hexclude
        defaults := Defaults.ofValue_from _
        examples := Examples.ofValue_from fun _ => Value.hasDistinctKeys_of_get? hdistinct }
  · cases hok

/-- Entries are read as a config exactly if they have the format of one. -/
theorem exists_ofEntries_iff :
    (∃ config, ofEntries entries = .ok config) ↔ IsConfig (.obj entries) := by
  constructor
  · rintro ⟨config, hok⟩
    simp only [ofEntries] at hok
    split at hok
    · rename_i output routerTypes exclude houtput hrouterTypes hexclude
      rw [withDefault_fieldOf_eq_ok_iff] at hrouterTypes hexclude
      rw [eitherOf_self] at hexclude
      exact
        { object := ⟨entries, rfl⟩
          output := ⟨output, output_eq_ok_iff.mp houtput⟩
          routerTypes := exists_namesFrom_iff.mp ⟨routerTypes, hrouterTypes⟩
          exclude := exists_namesFrom_iff.mp ⟨exclude, hexclude⟩ }
    · cases hok
  · intro hconfig
    obtain ⟨output, houtput⟩ := hconfig.output
    have houtput := output_eq_ok_iff.mpr houtput
    obtain ⟨routerTypes, hrouterTypes⟩ := exists_withDefault_of ["Router"] hconfig.routerTypes
    have hexclude := hconfig.exclude
    rw [← eitherOf_self] at hexclude
    obtain ⟨exclude, hexclude⟩ :=
      exists_withDefault_of ["node_modules", ".venv", "site-packages"] hexclude
    simp [ofEntries, houtput, hrouterTypes, hexclude]

/-- The check that comes first refuses nothing that would have been accepted. -/
theorem validate_obj_eq_ok_iff :
    validate (.obj entries) = .ok config ↔ ofEntries entries = .ok config := by
  have hvalidate : validate (.obj entries) =
      if (optionalString (entries.get? "output")).isSome then
        (ofEntries entries).mapError .problems
      else .error .outputNotDefined := rfl
  rw [hvalidate]
  split
  · cases ofEntries entries <;> simp [Except.mapError]
  · rename_i houtput
    constructor
    · intro hok
      cases hok
    · intro hok
      obtain ⟨output, hgiven⟩ := (exists_ofEntries_iff.mp ⟨config, hok⟩).output
      have hgiven : entries.get? "output" = some (.str output) := hgiven
      rw [optionalString_eq_some_iff.mpr hgiven] at houtput
      exact absurd rfl houtput

theorem exists_validate_iff : (∃ config, validate raw = .ok config) ↔ IsConfig raw := by
  constructor
  · rintro ⟨config, hok⟩
    cases raw with
    | obj entries => exact exists_ofEntries_iff.mp ⟨config, validate_obj_eq_ok_iff.mp hok⟩
    | _ => cases hok
  · intro hconfig
    obtain ⟨entries, rfl⟩ := hconfig.object
    obtain ⟨config, hok⟩ := exists_ofEntries_iff.mpr hconfig
    exact ⟨config, validate_obj_eq_ok_iff.mpr hok⟩

theorem validate_means (hdistinct : raw.hasDistinctKeys) (hok : validate raw = .ok config) :
    Means raw config := by
  cases raw with
  | obj entries => exact ofEntries_means hdistinct (validate_obj_eq_ok_iff.mp hok)
  | _ => cases hok

/-- A config that has been loaded from a text means what the text says. -/
theorem ofText_means {chars : List Char} (hok : ofText chars = .ok config) :
    ∃ raw, Json.read chars = .ok raw ∧ IsConfig raw ∧ Means raw config := by
  unfold ofText at hok
  split at hok
  · rename_i raw hread
    cases hvalidate : validate raw with
    | error refusal =>
        rw [hvalidate] at hok
        cases hok
    | ok found =>
        rw [hvalidate] at hok
        cases hok
        exact ⟨raw, hread, exists_validate_iff.mp ⟨_, hvalidate⟩,
          validate_means (hasDistinctKeys_of_read hread) hvalidate⟩
  · cases hok
  · cases hok
  · cases hok

/-- Exactly what has the format of a config is accepted, and everything else is refused.
What is accepted means what its values say, where no object repeats a key, as in all that is
decoded. -/
theorem validate_exact (raw : Value) :
    ((∃ config, validate raw = .ok config) ↔ IsConfig raw) ∧
      ((∃ refusal, validate raw = .error refusal) ↔ ¬ IsConfig raw) ∧
      (raw.hasDistinctKeys → ∀ config, validate raw = .ok config → Means raw config) := by
  refine ⟨exists_validate_iff, ?_, fun hdistinct _ hok => validate_means hdistinct hok⟩
  rw [← exists_validate_iff]
  cases validate raw with
  | ok config => simp
  | error refusal => simp

/-- A value in which a host and a number have a wrong type, a hook and a list of names stand
under their second keys, and one name has an example of its own and a shared one. -/
def lenientValue : Value :=
  .obj
    [("output", .str "docs/api.apib"), ("host", .int 80), ("after_hook", .str "make"),
      ("router_types", .strings ["APIRouter"]),
      ("defaults", .obj [("number", .bool true), ("json_key", .str "id")]),
      ("examples", .obj
        [("response", .obj [("id", .int 7), ("name", .str "ryan")]), ("param", .null),
          ("all", .obj [("id", .int 1)])])]

def lenientConfig : Config where
  output := "docs/api.apib"
  afterHook := some "make"
  routerTypes := ["APIRouter"]
  defaults := { jsonKey := "id" }
  examples := { response := [("id", .int 1), ("name", .str "ryan")], param := [("id", .int 1)] }

theorem validate_exact_lenient :
    lenientValue.hasDistinctKeys ∧ validate lenientValue = .ok lenientConfig ∧
      IsConfig lenientValue ∧ Means lenientValue lenientConfig := by
  have hdistinct : lenientValue.hasDistinctKeys := by decide +kernel
  have hok : validate lenientValue = .ok lenientConfig := by rfl
  obtain ⟨haccepted, -, hmeans⟩ := validate_exact lenientValue
  exact ⟨hdistinct, hok, haccepted.mp ⟨_, hok⟩, hmeans hdistinct _ hok⟩

end RouteScribe.Config
