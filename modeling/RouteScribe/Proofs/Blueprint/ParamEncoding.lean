import RouteScribe.Blueprint.Path
import RouteScribe.Proofs.Text.Percent

/-!
# Encoded parameter values

A value in the query of an address keeps letters, digits and a few marks, as
`encodeURIComponent` does.  A value in the path also keeps the characters that structure an
address, as `encodeURI` does.  Everything else becomes escaped bytes, and nothing is lost.
-/

namespace RouteScribe.Blueprint

open RouteScribe.Text

/-- The letters, digits and the underscore of ASCII. -/
def wordCharacters : List Char :=
  "ABCDEFGHIJKLMNOPQRSTUVWXYZabcdefghijklmnopqrstuvwxyz0123456789_".toList

/-- The characters that are not escaped in an address. -/
def unescaped : ParamPlace → List Char
  | .query => wordCharacters ++ "-.!~*'()".toList
  | .path => wordCharacters ++ "-.!~*'()".toList ++ ";/?:@&=+$,#".toList

/-! ### Kept characters -/

variable {place : ParamPlace} {c : Char}

theorem isAlphanum_iff : c.isAlphanum ↔
    65 ≤ c.toNat ∧ c.toNat < 91 ∨ 97 ≤ c.toNat ∧ c.toNat < 123 ∨
      48 ≤ c.toNat ∧ c.toNat < 58 := by
  have hranges : c.isAlphanum =
      (decide (c.val ≥ 65 ∧ c.val ≤ 90) || (c.val ≥ 97 && c.val ≤ 122) ||
        (c.val ≥ 48 && c.val ≤ 57)) := rfl
  have hcode : c.val.toNat = c.toNat := rfl
  simp only [hranges, Bool.or_eq_true, Bool.and_eq_true, decide_eq_true_eq, ge_iff_le,
    UInt32.le_iff_toNat_le, UInt32.reduceToNat, hcode]
  omega

theorem mem_wordCharacters : c ∈ wordCharacters ↔ c.isAlphanum ∨ c = '_' := by
  -- As code points the word characters are three ranges, and the underscore is alone.
  have hcodes : wordCharacters.map Char.toNat =
      List.range' 65 26 ++ List.range' 97 26 ++ List.range' 48 10 ++ [95] := by
    have hlist : wordCharacters = _ := String.toList_ofList
    rw [hlist]
    rfl
  have hmem : c ∈ wordCharacters ↔ c.toNat ∈ wordCharacters.map Char.toNat := by
    simp [List.mem_map, Char.toNat_inj]
  have hunderscore : c = '_' ↔ c.toNat = 95 := Char.toNat_inj.symm
  rw [hmem, hcodes, isAlphanum_iff, hunderscore]
  simp only [List.mem_append, List.mem_range'_1, List.mem_singleton]
  omega

/-- The kept characters are those that are not escaped in an address. -/
theorem isKept_iff : isKept place c ↔ c ∈ unescaped place := by
  cases place with
  | query =>
    simp only [isKept, isUnreserved, unescaped, Bool.or_eq_true, String.contains_char_eq,
      decide_eq_true_eq, List.mem_append, mem_wordCharacters, String.reduceToList,
      List.mem_cons]
    grind
  | path =>
    simp only [isKept, isUnreserved, unescaped, Bool.or_eq_true, String.contains_char_eq,
      decide_eq_true_eq, List.mem_append, mem_wordCharacters, String.reduceToList,
      List.mem_cons]
    grind

theorem isKept_percent : isKept place '%' = false := by
  cases place with
  | query => simp [isKept, isUnreserved]
  | path => simp [isKept, isUnreserved]

/-- All that is kept unescaped is ASCII. -/
theorem toNat_lt_of_mem_unescaped (hc : c ∈ unescaped place) : c.toNat < 128 := by
  have hword : c ∈ wordCharacters → c.toNat < 128 := by
    rw [mem_wordCharacters, isAlphanum_iff]
    rintro (hrange | rfl)
    · omega
    · decide
  have hmarks : ∀ m ∈ "-.!~*'()".toList ++ ";/?:@&=+$,#".toList, m.toNat < 128 := by simp
  cases place with
  | query =>
    rcases List.mem_append.mp hc with hc | hc
    · exact hword hc
    · exact hmarks c (List.mem_append_left _ hc)
  | path =>
    rw [unescaped, List.append_assoc] at hc
    rcases List.mem_append.mp hc with hc | hc
    · exact hword hc
    · exact hmarks c hc

/-! ### Values -/

theorem toList_encodeParam (place : ParamPlace) (value : String) :
    (encodeParam place value).toList = percentEncode (isKept place) value.toList :=
  String.toList_ofList

theorem toList_encodeParam_singleton (place : ParamPlace) (c : Char) :
    (encodeParam place (.singleton c)).toList = percentChar (isKept place) c := by
  simp [toList_encodeParam, percentEncode]

/-- The encoded form of a value is decoded to the value, so different values have different
forms.  It consists of characters that are not escaped and of escaped bytes.  Each character
is encoded on its own, and left as it is exactly if it is one of those that are not escaped.
It is also the form that the code units of the value are encoded to. -/
theorem encodeParam_lossless (place : ParamPlace) (value : String) :
    percentDecode? (encodeParam place value).toList = some value.toList ∧
      (∀ other, encodeParam place other = encodeParam place value → other = value) ∧
      Escaped (unescaped place) (encodeParam place value).toList ∧
      (encodeParam place value).toList =
        value.toList.flatMap (fun c => (encodeParam place (.singleton c)).toList) ∧
      (∀ c, encodeParam place (.singleton c) = .singleton c ↔ c ∈ unescaped place) ∧
      encodeUnits? (unescaped place) (value.toList.flatMap codeUnits) =
        some (encodeParam place value).toList := by
  have hdecode : ∀ value : String,
      percentDecode? (encodeParam place value).toList = some value.toList := by
    intro value
    rw [toList_encodeParam]
    exact percentDecode?_percentEncode isKept_percent value.toList
  have hplane : ∀ c ∈ unescaped place, c.toNat < 0x10000 := fun c hc =>
    Nat.lt_trans (toNat_lt_of_mem_unescaped hc) (by decide)
  refine ⟨hdecode value, ?_, ?_, ?_, ?_, ?_⟩
  · intro other hother
    have hsame := hdecode other
    rw [hother, hdecode value] at hsame
    exact (String.toList_inj.mp (Option.some.inj hsame)).symm
  · rw [toList_encodeParam]
    exact escaped_percentEncode (fun c => isKept_iff.mp) value.toList
  · simp only [toList_encodeParam_singleton]
    exact toList_encodeParam place value
  · intro c
    rw [← String.toList_inj, toList_encodeParam_singleton, String.toList_singleton,
      percentChar_eq_self_iff, isKept_iff]
  · rw [toList_encodeParam]
    exact encodeUnits?_eq_percentEncode (fun c => isKept_iff) hplane value.toList

end RouteScribe.Blueprint
