import RouteScribe.Json.Reader
import RouteScribe.Proofs.Json.KeyOrder
import RouteScribe.Proofs.Table

/-!
# Decoded values

Of the values of a repeated key the reader keeps the last one.  No object of what it reads
has a key twice, at any depth, so that its keys can be looked up in any order.
-/

namespace RouteScribe.Json

open RouteScribe.Table

variable {reader : Read Value} {value part : Value} {cursor after : Cursor} {fuel : Nat}
  {key : String} {items : List Value} {entries : Table Value}

namespace Value

theorem hasDistinctKeys_arr :
    (arr items).hasDistinctKeys ↔ ∀ item ∈ items, item.hasDistinctKeys := by
  simp [hasDistinctKeys, everywhere_arr, keysDiffer]

theorem hasDistinctKeys_obj :
    (obj entries).hasDistinctKeys ↔
      entries.names.Nodup ∧ ∀ entry ∈ entries, entry.2.hasDistinctKeys := by
  simp [hasDistinctKeys, everywhere_obj, keysDiffer]

theorem hasDistinctKeys_of_get? (hdistinct : value.hasDistinctKeys)
    (hpart : value.get? key = some part) : part.hasDistinctKeys := by
  cases value with
  | obj entries => exact (hasDistinctKeys_obj.mp hdistinct).2 _ (mem_of_get? hpart)
  | _ => cases hpart

theorem hasDistinctKeys_ofPairs (hentries : ∀ entry ∈ entries, entry.2.hasDistinctKeys) :
    (obj (ofPairs entries)).hasDistinctKeys := by
  refine hasDistinctKeys_obj.mpr ⟨nodup_names_merge entries List.nodup_nil, ?_⟩
  intro entry hentry
  rcases mem_or_mem_of_mem_merge hentry with hnone | hentry
  · cases hnone
  · exact hentries entry hentry

end Value

/-- A reader of values without repeated keys. -/
def Read.KeepsDistinct (reader : Read Value) : Prop :=
  ∀ ⦃cursor value after⦄, reader cursor = .ok (value, after) → value.hasDistinctKeys

/-- A number has no keys. -/
theorem readNumber_keepsDistinct : Read.KeepsDistinct readNumber := by
  intro cursor value after hread
  unfold readNumber at hread
  extract_lets negative unsigned whole fraction exponent taken number at hread
  split at hread
  · cases hread
  · split at hread
    · split at hread
      · cases hread
      · cases hread
        rfl
    · cases hread
      rfl

theorem hasDistinctKeys_of_mem_wordValues :
    ∀ word ∈ wordValues, word.2.hasDistinctKeys := by
  decide +kernel

theorem readScalar_keepsDistinct : Read.KeepsDistinct readScalar := by
  intro cursor value after hread
  simp only [readScalar] at hread
  split at hread
  · rename_i word hfound
    cases hread
    exact hasDistinctKeys_of_mem_wordValues _ (List.mem_of_find?_eq_some hfound)
  · exact readNumber_keepsDistinct hread

/-- Array elements have distinct keys if the reader's values do. -/
theorem readItems_keepsDistinct (hreader : reader.KeepsDistinct)
    (hread : readItems reader fuel cursor = .ok (items, after)) :
    ∀ item ∈ items, item.hasDistinctKeys := by
  induction fuel generalizing cursor items after with
  | zero => cases hread
  | succ fuel ih =>
      simp only [readItems, bind, Except.bind] at hread
      split at hread
      · cases hread
      · rename_i first hfirst
        split at hread
        · cases hread
          exact List.forall_mem_singleton.mpr (hreader hfirst)
        · split at hread
          · cases hread
          · rename_i others hothers
            cases hread
            exact List.forall_mem_cons.mpr ⟨hreader hfirst, ih hothers⟩
        · cases hread

/-- The values of an object have distinct keys if the reader's values do. -/
theorem readEntries_keepsDistinct (hreader : reader.KeepsDistinct)
    (hread : readEntries reader fuel cursor = .ok (entries, after)) :
    ∀ entry ∈ entries, entry.2.hasDistinctKeys := by
  induction fuel generalizing cursor entries after with
  | zero => cases hread
  | succ fuel ih =>
      simp only [readEntries, bind, Except.bind] at hread
      split at hread
      · split at hread
        · cases hread
        · split at hread
          · split at hread
            · cases hread
            · rename_i first hfirst
              split at hread
              · cases hread
                exact List.forall_mem_singleton.mpr (hreader hfirst)
              · split at hread
                · cases hread
                · rename_i others hothers
                  cases hread
                  exact List.forall_mem_cons.mpr ⟨hreader hfirst, ih hothers⟩
              · cases hread
          · cases hread
      · cases hread

/-- Every value that is read has distinct keys, at every depth. -/
theorem readValue_keepsDistinct (fuel : Nat) : Read.KeepsDistinct (readValue fuel) := by
  induction fuel with
  | zero =>
      intro cursor value after hread
      cases hread
  | succ fuel ih =>
      intro cursor value after hread
      simp only [readValue, bind, Except.bind] at hread
      split at hread
      · split at hread
        · cases hread
        · cases hread
          rfl
      · split at hread
        · cases hread
          rfl
        · split at hread
          · cases hread
          · rename_i items hitems
            cases hread
            exact Value.hasDistinctKeys_arr.mpr (readItems_keepsDistinct ih hitems)
      · split at hread
        · cases hread
          rfl
        · split at hread
          · cases hread
          · rename_i entries hentries
            cases hread
            exact Value.hasDistinctKeys_ofPairs (readEntries_keepsDistinct ih hentries)
      · exact readScalar_keepsDistinct hread

/-- No object of a decoded value repeats a key. -/
theorem hasDistinctKeys_of_read {text : List Char} (hread : read text = .ok value) :
    value.hasDistinctKeys := by
  simp only [read, bind, Except.bind] at hread
  split at hread
  · cases hread
  · split at hread
    · cases hread
    · rename_i first hfirst
      split at hread
      · cases hread
        exact readValue_keepsDistinct _ hfirst
      · cases hread

end RouteScribe.Json
