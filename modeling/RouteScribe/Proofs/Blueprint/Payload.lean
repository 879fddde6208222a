import RouteScribe.Proofs.Blueprint.KeyOrder
import RouteScribe.Proofs.Json.RoundTrip

/-!
# Payloads in a blueprint

A payload stands on lines with a margin, after an empty line.  Without the margin the lines
are the text of the payload: a string as it is, and for every other value a text from which
the value is read back up to the order of its keys.
-/

namespace RouteScribe.Blueprint

open RouteScribe.Json RouteScribe.Text

/-! ### Pieces of writing -/

namespace Written

theorem andThen_assoc (first second third : Written) :
    (first.andThen second).andThen third = first.andThen (second.andThen third) := by
  obtain ⟨text, complete⟩ := first
  cases complete with
  | false => rfl
  | true =>
      obtain ⟨more, complete⟩ := second
      cases complete with
      | false => rfl
      | true => simp [andThen, String.append_assoc]

@[simp]
theorem andThen_done_empty (first : Written) : first.andThen (.done "") = first := by
  obtain ⟨text, complete⟩ := first
  cases complete <;> simp [andThen, done]

theorem done_andThen_done (text more : String) :
    (done text).andThen (done more) = done (text ++ more) :=
  rfl

end Written

/-! ### Margins -/

/-- What a payload is without the margin of its lines. -/
def withoutMargin (text : String) : List Char :=
  joinLines ((splitNewlines text.toList).map (·.drop 12))

section Margin

variable (text : String)

theorem splitNewlines_indentText :
    splitNewlines (indentText text payloadMargin).toList =
      (splitNewlines text.toList).map (payloadMargin.toList ++ ·) := by
  rw [indentText, String.toList_ofList]
  apply splitNewlines_joinLines
  · exact List.map_eq_nil_iff.not.mpr (splitOnChar_ne_nil '\n' text.toList)
  · intro line hline
    obtain ⟨old, hold, rfl⟩ := List.mem_map.mp hline
    rw [List.mem_append, not_or]
    exact ⟨by decide, (of_mem_splitOnChar hold).1⟩

theorem margin_of_mem_indentText {line : List Char}
    (hline : line ∈ splitNewlines (indentText text payloadMargin).toList) :
    List.replicate 12 ' ' <+: line := by
  rw [splitNewlines_indentText] at hline
  obtain ⟨old, -, rfl⟩ := List.mem_map.mp hline
  exact List.prefix_append _ _

/-- Taking off the margin of a payload restores its text. -/
theorem withoutMargin_indentText :
    withoutMargin (indentText text payloadMargin) = text.toList := by
  have hdrop : (List.drop 12 ∘ fun line => payloadMargin.toList ++ line) = id := by
    funext line
    rfl
  calc withoutMargin (indentText text payloadMargin)
      = joinLines ((splitNewlines text.toList).map
          (List.drop 12 ∘ fun line => payloadMargin.toList ++ line)) := by
        rw [withoutMargin, splitNewlines_indentText, List.map_map]
    _ = joinLines (splitNewlines text.toList) := by rw [hdrop, List.map_id]
    _ = text.toList := joinWith_splitOnChar '\n' text.toList

end Margin

/-! ### Texts that carry a payload -/

/-- A text stands for a payload: it is the string itself, or every other value is read from
it up to the order of keys. -/
def GivesBack (text : List Char) : Value → Prop
  | .str original => text = original.toList
  | value => ∃ back, Json.read text = .ok back ∧ value.Alike back

/-- A text whose lines have the margin of a payload and stand for the payload without it. -/
structure Carries (text : String) (value : Value) : Prop where
  margin : ∀ line ∈ splitNewlines text.toList, List.replicate 12 ' ' <+: line
  content : GivesBack (withoutMargin text) value

theorem exists_payloadText? {value : Value} (hexact : value.isExact) :
    ∃ text, payloadText? value = some text ∧ GivesBack text.toList value := by
  obtain ⟨text, htext, hread⟩ := read_pretty? hexact
  have hback : ∃ back, Json.read text.toList = .ok back ∧ value.Alike back :=
    ⟨value.sortKeys, hread, value.alike_sortKeys⟩
  cases value with
  | str original => exact ⟨original, rfl, rfl⟩
  | _ => exact ⟨text, htext, hback⟩

theorem exists_writePayload {value : Value} (hexact : value.isExact) :
    ∃ text, writePayload value = .done ("\n" ++ text ++ "\n") ∧ Carries text value := by
  obtain ⟨text, htext, hback⟩ := exists_payloadText? hexact
  refine ⟨indentText text payloadMargin, ?_, fun line => margin_of_mem_indentText text, ?_⟩
  · rw [writePayload, htext]
  · rwa [withoutMargin_indentText]

/-! ### Places of payloads -/

theorem present?_of_ne_null {value : Value} (hvalue : value ≠ .null) :
    present? value = some value := by
  cases value with
  | null => exact absurd rfl hvalue
  | _ => rfl

theorem writeBody_present (title : String) (body : RequestBody) {value : Value}
    (hvalue : value ≠ .null) :
    writeBody title { body with body := value } =
      (writeBody title { body with body := .null }).andThen (writePayload value) := by
  rw [writeBody_eq, writeBody_eq, present?_of_ne_null hvalue]
  exact congrArg (·.andThen (writePayload value)) (Written.andThen_done_empty _).symm

theorem writeResponse_eq (response : Response) :
    writeResponse response =
      ((writeResponse { response with body := .null, schema := none }).andThen
        (writeSection "Body" (present? response.body))).andThen
          (writeSection "Schema" response.schema) := by
  simp only [writeResponse, Written.all, Written.andThen_done_empty, present?, writeSection,
    Written.andThen_assoc]

/-- Payloads survive in a blueprint.  A value without floats, overlong numbers, foreign
literals and repeated keys stands as a text that carries it in the body of a request, in the
body of a response and under the schema of a response, and nothing else changes there. -/
theorem payload_survives {value : Value} (hexact : value.isExact) :
    ∃ text, Carries text value ∧
      (value ≠ .null → ∀ (title : String) (body : RequestBody),
        writeBody title { body with body := value } =
          (writeBody title { body with body := .null }).andThen (.done ("\n" ++ text ++ "\n"))) ∧
      (value ≠ .null → ∀ response : Response,
        writeResponse { response with body := value } =
          ((writeResponse { response with body := .null, schema := none }).andThen
            (.done ("\n    + Body\n" ++ ("\n" ++ text ++ "\n")))).andThen
              (writeSection "Schema" response.schema)) ∧
      ∀ response : Response,
        writeResponse { response with schema := some value } =
          (writeResponse { response with schema := none }).andThen
            (.done ("\n    + Schema\n" ++ ("\n" ++ text ++ "\n"))) := by
  obtain ⟨text, htext, hcarries⟩ := exists_writePayload hexact
  have hsection : ∀ heading, writeSection heading (some value) =
      .done ("\n" ++ sectionMargin ++ "+ " ++ heading ++ "\n" ++ ("\n" ++ text ++ "\n")) := by
    intro heading
    rw [writeSection, htext, Written.done_andThen_done]
  refine ⟨text, hcarries, ?_, ?_, ?_⟩
  · intro hvalue title body
    rw [writeBody_present title body hvalue, htext]
  · intro hvalue response
    rw [writeResponse_eq, present?_of_ne_null hvalue, hsection]
    rfl
  · intro response
    rw [writeResponse_eq, hsection, writeResponse_eq { response with schema := none }]
    exact congrArg (Written.andThen · _) (Written.andThen_done_empty _).symm

/-- An order with nested and empty containers, escapes and a negative number. -/
def sampleOrder : Value :=
  .obj [("title", .str "Zoë's \"big\"\torder\n"), ("total", .int (-120)), ("open", .bool true),
    ("lines", .arr [.obj [("sku", .str "a\\b"), ("notes", .arr []), ("extra", .obj [])], .null])]

theorem payload_survives_order :
    sampleOrder.isExact ∧ ∃ text, Carries text sampleOrder ∧
      writeBody "Buy" ⟨none, sampleOrder, none⟩ =
        (writeBody "Buy" ⟨none, .null, none⟩).andThen (.done ("\n" ++ text ++ "\n")) := by
  have hexact : sampleOrder.isExact := by decide
  obtain ⟨text, hcarries, hbody, -⟩ := payload_survives hexact
  exact ⟨hexact, text, hcarries, hbody (by simp [sampleOrder]) "Buy" ⟨none, .null, none⟩⟩

end RouteScribe.Blueprint
