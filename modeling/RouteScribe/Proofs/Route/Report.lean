import Mathlib.Tactic
import RouteScribe.Route.Report

/-!
# Laws of results with diagnostics

Computations that report diagnostics form a monad.  A computation in two parts has a
result only if both parts have one, and then it reports what the first part and what
the second part report.
-/

namespace RouteScribe.Route

namespace Reported

variable {ε α β : Type}

@[ext]
theorem ext {left right : Reported ε α} (hdiagnostics : left.diagnostics = right.diagnostics)
    (hresult : left.result = right.result) : left = right := by
  cases left
  cases right
  simp only at hdiagnostics hresult
  rw [hdiagnostics, hresult]

instance : LawfulMonad (Reported ε) :=
  LawfulMonad.mk' _
    (fun reported => by
      obtain ⟨diagnostics, result⟩ := reported
      cases result <;> simp [Functor.map, andThen, quiet])
    (fun value next => by simp [bind, pure, andThen, quiet])
    (fun reported next last => by
      obtain ⟨diagnostics, result⟩ := reported
      cases result with
      | error error => rfl
      | ok value =>
          simp only [bind, andThen]
          cases (next value).result <;> simp)

@[simp]
theorem pure_diagnostics (value : α) : (pure value : Reported ε α).diagnostics = [] := rfl

@[simp]
theorem pure_result (value : α) : (pure value : Reported ε α).result = .ok value := rfl

@[simp]
theorem report_diagnostics (diagnostic : Diagnostic) :
    (report diagnostic : Reported ε Unit).diagnostics = [diagnostic] := rfl

@[simp]
theorem report_result (diagnostic : Diagnostic) :
    (report diagnostic : Reported ε Unit).result = .ok () := rfl

@[simp]
theorem fail_diagnostics (error : ε) : (fail error : Reported ε α).diagnostics = [] := rfl

@[simp]
theorem fail_result (error : ε) : (fail error : Reported ε α).result = .error error := rfl

/-- After a result the computation goes on. -/
theorem bind_of_ok {first : Reported ε α} {value : α} (hfirst : first.result = .ok value)
    (next : α → Reported ε β) :
    first >>= next =
      ⟨first.diagnostics ++ (next value).diagnostics, (next value).result⟩ := by
  simp only [bind, andThen, hfirst]

/-- After an error the computation has ended. -/
theorem bind_of_error {first : Reported ε α} {error : ε} (hfirst : first.result = .error error)
    (next : α → Reported ε β) : first >>= next = ⟨first.diagnostics, .error error⟩ := by
  simp only [bind, andThen, hfirst]

/-- A result of two parts comes from a result of each. -/
theorem bind_result_eq_ok {first : Reported ε α} {next : α → Reported ε β} {value : β}
    (hresult : (first >>= next).result = .ok value) :
    ∃ middle, first.result = .ok middle ∧ (next middle).result = .ok value := by
  cases hfirst : first.result with
  | error error =>
      rw [bind_of_error hfirst] at hresult
      cases hresult
  | ok middle =>
      rw [bind_of_ok hfirst] at hresult
      exact ⟨middle, rfl, hresult⟩

/-- A computation for each item has a result if it has one for every item, and then it
reports everything that is reported on the way. -/
theorem forEach_of_ok {act : α → Reported ε β} {items : List α} {values : List β}
    (hresult : (forEach act items).result = .ok values) :
    List.Forall₂ (fun item value => (act item).result = .ok value) items values ∧
      (forEach act items).diagnostics = items.flatMap fun item => (act item).diagnostics := by
  induction items generalizing values with
  | nil =>
      cases hresult
      exact ⟨List.Forall₂.nil, rfl⟩
  | cons item items ih =>
      obtain ⟨value, hvalue, hrest⟩ := bind_result_eq_ok hresult
      obtain ⟨others, hothers, hpure⟩ := bind_result_eq_ok hrest
      obtain ⟨hall, hdiagnostics⟩ := ih hothers
      cases hpure
      refine ⟨List.Forall₂.cons hvalue hall, ?_⟩
      have hsplit : forEach act (item :: items) =
          act item >>= fun value => forEach act items >>= fun values =>
            pure (value :: values) := rfl
      rw [hsplit, bind_of_ok hvalue, bind_of_ok hothers]
      simp [hdiagnostics]

/-- A computation for each item that has a result has one for any item. -/
theorem exists_ok_of_mem {act : α → Reported ε β} {items : List α} {values : List β} {item : α}
    (hall : List.Forall₂ (fun item value => (act item).result = .ok value) items values)
    (hitem : item ∈ items) : ∃ value, (act item).result = .ok value := by
  induction hall with
  | nil => cases hitem
  | cons hvalue _ ih =>
      rcases List.mem_cons.mp hitem with rfl | hrest
      · exact ⟨_, hvalue⟩
      · exact ih hrest

/-- A computation with its error replaced. -/
def mapError {φ : Type} (convert : ε → φ) (reported : Reported ε α) :
    Reported φ α :=
  ⟨reported.diagnostics, reported.result.mapError convert⟩

theorem mapError_bind {φ : Type} (convert : ε → φ) (first : Reported ε α)
    (next : α → Reported ε β) :
    (first >>= next).mapError convert =
      first.mapError convert >>= fun value => (next value).mapError convert := by
  cases hfirst : first.result with
  | ok value =>
      have hmapped : (first.mapError convert).result = .ok value := by
        rw [mapError, hfirst]
        rfl
      rw [bind_of_ok hfirst, bind_of_ok hmapped]
      rfl
  | error error =>
      have hmapped : (first.mapError convert).result = .error (convert error) := by
        rw [mapError, hfirst]
        rfl
      rw [bind_of_error hfirst, bind_of_error hmapped]
      rfl

theorem mapError_forEach {φ : Type} (convert : ε → φ)
    (act : α → Reported ε β) (items : List α) :
    (forEach act items).mapError convert =
      forEach (fun item => (act item).mapError convert) items := by
  induction items with
  | nil => rfl
  | cons item items ih =>
      simp only [forEach, mapError_bind, ih]
      rfl

theorem map_forEach {γ : Type} (convert : β → γ) (act : α → Reported ε β) (items : List α) :
    List.map convert <$> forEach act items = forEach (fun item => convert <$> act item) items := by
  induction items with
  | nil => rfl
  | cons item items ih =>
      simp only [forEach, ← ih, map_bind, map_pure, bind_map_left, List.map_cons]

theorem map_result {γ : Type} (convert : α → γ) (reported : Reported ε α) :
    (convert <$> reported).result = reported.result.map convert := by
  cases hresult : reported.result with
  | ok value =>
      rw [map_eq_pure_bind, bind_of_ok hresult]
      rfl
  | error error =>
      rw [map_eq_pure_bind, bind_of_error hresult]
      rfl

theorem map_diagnostics {γ : Type} (convert : α → γ) (reported : Reported ε α) :
    (convert <$> reported).diagnostics = reported.diagnostics := by
  cases hresult : reported.result with
  | ok value =>
      rw [map_eq_pure_bind, bind_of_ok hresult]
      exact List.append_nil _
  | error error => rw [map_eq_pure_bind, bind_of_error hresult]

theorem forEach_map {γ : Type} (act : β → Reported ε γ) (convert : α → β)
    (items : List α) :
    forEach act (items.map convert) = forEach (act ∘ convert) items := by
  induction items with
  | nil => rfl
  | cons item items ih => simp only [List.map_cons, forEach, ih, Function.comp_apply]

end Reported

end RouteScribe.Route
