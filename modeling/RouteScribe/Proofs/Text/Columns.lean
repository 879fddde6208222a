import Mathlib.Order.Bounds.Basic
import RouteScribe.Proofs.Text.Utf8

/-!
# Byte offsets and columns

The bytes of a line up to an offset are those of its whole characters in front of the
offset, and perhaps the first bytes of one more.  These first bytes alone are no
character, so that decoding leaves them out, and the column of the offset counts the
characters that end no later than there.
-/

namespace RouteScribe.Text.Utf8

variable {first second third : UInt8} {c : Char} {line rest : List Char} {offset column : Nat}

/-! ### Characters that are cut off -/

theorem readChar_nil (hlow : 0xC2 ≤ first.toNat) (hhigh : first.toNat < 0xF5) :
    readChar first [] = .error (.unexpectedEnd, 1) := by
  obtain ⟨hstart, hleads⟩ := leads_of_toNat hlow hhigh
  simp [readChar, hstart, hleads]

theorem readChar_singleton (hlow : 0xE0 ≤ first.toNat) (hhigh : first.toNat < 0xF5)
    (hfollows : mayFollow first second = true) :
    readChar first [second] = .error (.unexpectedEnd, 2) := by
  obtain ⟨hstart, hleads⟩ := leads_of_toNat (show 0xC2 ≤ first.toNat by omega) hhigh
  have hlong : ¬ first < 0xE0 := UInt8.not_lt.mpr (UInt8.le_iff_toNat_le.mpr hlow)
  simp [readChar, hstart, hleads, hfollows, hlong]

theorem readChar_pair (hlow : 0xF0 ≤ first.toNat) (hhigh : first.toNat < 0xF5)
    (hfollows : mayFollow first second = true) (hthird : isContinuation third = true) :
    readChar first [second, third] = .error (.unexpectedEnd, 3) := by
  obtain ⟨hstart, hleads⟩ := leads_of_toNat (show 0xC2 ≤ first.toNat by omega) hhigh
  have hlong : ¬ first < 0xE0 :=
    UInt8.not_lt.mpr (UInt8.le_iff_toNat_le.mpr (show 0xE0 ≤ first.toNat by omega))
  have hlonger : ¬ first < 0xF0 := UInt8.not_lt.mpr (UInt8.le_iff_toNat_le.mpr hlow)
  simp [readChar, hstart, hleads, hfollows, hthird, hlong, hlonger]

/-- The first bytes of a character end too soon. -/
theorem readChar_of_cut {more others : List UInt8}
    (hbytes : String.utf8EncodeChar c = first :: (more ++ others)) (hothers : others ≠ []) :
    readChar first more = .error (.unexpectedEnd, more.length + 1) := by
  have hvalid := toNat_valid c
  have hcodes := toNat_utf8EncodeChar c
  rw [hbytes, List.map_cons] at hcodes
  unfold octets at hcodes
  split at hcodes
  · -- A single byte cannot be cut.
    simp [hothers] at hcodes
  · split at hcodes
    · obtain ⟨hfirst, hrest⟩ := List.cons.inj hcodes
      cases more with
      | nil => exact readChar_nil (by omega) (by omega)
      | cons second more => simp [hothers] at hrest
    · split at hcodes
      · obtain ⟨hfirst, hrest⟩ := List.cons.inj hcodes
        cases more with
        | nil => exact readChar_nil (by omega) (by omega)
        | cons second more =>
            obtain ⟨hsecond, hmore⟩ := List.cons.inj hrest
            cases more with
            | nil => exact readChar_singleton (by omega) (by omega) (mayFollow_iff.mpr (by omega))
            | cons third more => simp [hothers] at hmore
      · obtain ⟨hfirst, hrest⟩ := List.cons.inj hcodes
        cases more with
        | nil => exact readChar_nil (by omega) (by omega)
        | cons second more =>
            obtain ⟨hsecond, hmore⟩ := List.cons.inj hrest
            have hfollows : mayFollow first second = true := mayFollow_iff.mpr (by omega)
            cases more with
            | nil => exact readChar_singleton (by omega) (by omega) hfollows
            | cons third more =>
                obtain ⟨hthird, hlast⟩ := List.cons.inj hmore
                cases more with
                | nil =>
                    exact readChar_pair (by omega) (by omega) hfollows
                      (isContinuation_iff.mpr (by omega))
                | cons fourth more => simp [hothers] at hlast

/-! ### Decoding without what is malformed -/

@[simp]
theorem decodeValidFrom_nil (skip : Nat) : decodeValidFrom skip [] = [] := by
  cases skip <;> rfl

/-- The rest of what has been read is passed over. -/
theorem decodeValidFrom_append (bytes others : List UInt8) :
    decodeValidFrom bytes.length (bytes ++ others) = decodeValid others := by
  induction bytes with
  | nil => rfl
  | cons byte bytes ih => exact ih

theorem decodeValid_utf8EncodeChar_append (c : Char) (others : List UInt8) :
    decodeValid (String.utf8EncodeChar c ++ others) = c :: decodeValid others := by
  obtain ⟨first, more, hbytes, hread⟩ := readChar_utf8EncodeChar c
  rw [hbytes, List.cons_append, decodeValid, decodeValidFrom, hread]
  simp only [Nat.add_sub_cancel, decodeValidFrom_append]

/-- A character that is cut off is left out. -/
theorem decodeValid_take (hoffset : offset < c.utf8Size) :
    decodeValid ((String.utf8EncodeChar c).take offset) = [] := by
  cases offset with
  | zero => rfl
  | succ offset =>
      obtain ⟨first, more, hbytes, -⟩ := readChar_utf8EncodeChar c
      rw [← String.length_utf8EncodeChar, hbytes, List.length_cons] at hoffset
      have hrest : more.drop offset ≠ [] := by
        rw [ne_eq, List.drop_eq_nil_iff]
        omega
      have hread : readChar first (more.take offset) =
          .error (.unexpectedEnd, (more.take offset).length + 1) := by
        apply readChar_of_cut (c := c) _ hrest
        rw [List.take_append_drop, hbytes]
      rw [hbytes, List.take_succ_cons, decodeValid, decodeValidFrom, hread]
      simpa [decodeValid] using decodeValidFrom_append (more.take offset) []

/-! ### Columns -/

theorem encode_cons (c : Char) (line : List Char) :
    encode (c :: line) = String.utf8EncodeChar c ++ encode line :=
  List.flatMap_cons

@[simp]
theorem columnOfByte_nil (offset : Nat) : columnOfByte offset [] = 0 := by
  simp [columnOfByte, encode, decodeValid]

/-- The column goes on by one if the next character ends no later than the offset. -/
theorem columnOfByte_cons (offset : Nat) (c : Char) (line : List Char) :
    columnOfByte offset (c :: line) =
      if c.utf8Size ≤ offset then columnOfByte (offset - c.utf8Size) line + 1 else 0 := by
  unfold columnOfByte
  rw [encode_cons, List.take_append, String.length_utf8EncodeChar]
  split
  · rename_i hfits
    rw [List.take_of_length_le (by rwa [String.length_utf8EncodeChar]),
      decodeValid_utf8EncodeChar_append, List.length_cons]
  · rename_i hcut
    have hnone : offset - c.utf8Size = 0 := by omega
    rw [hnone, List.take_zero, List.append_nil, decodeValid_take (by omega), List.length_nil]

/-- A column is reached if the characters in front of it end no later than the offset. -/
theorem le_columnOfByte_iff : column ≤ columnOfByte offset line ↔
    column ≤ line.length ∧ (encode (line.take column)).length ≤ offset := by
  induction line generalizing column offset with
  | nil => simp +contextual [encode]
  | cons c line ih =>
      rw [columnOfByte_cons]
      cases column with
      | zero => simp [encode]
      | succ column =>
          rw [List.take_succ_cons, encode_cons, List.length_append, String.length_utf8EncodeChar,
            List.length_cons]
          split
          · rename_i hfits
            rw [Nat.add_le_add_iff_right, Nat.add_le_add_iff_right, ih]
            omega
          · rename_i hcut
            omega

/-- The column is the greatest number of characters that end no later than the offset. -/
theorem isGreatest_columnOfByte (offset : Nat) (line : List Char) :
    IsGreatest {column | column ≤ line.length ∧ (encode (line.take column)).length ≤ offset}
      (columnOfByte offset line) :=
  ⟨le_columnOfByte_iff.mp le_rfl, fun _ hcolumn => le_columnOfByte_iff.mpr hcolumn⟩

theorem monotone_columnOfByte (line : List Char) :
    Monotone fun offset => columnOfByte offset line := by
  intro offset later hle
  obtain ⟨hlength, hbytes⟩ := (isGreatest_columnOfByte offset line).1
  exact le_columnOfByte_iff.mpr ⟨hlength, hbytes.trans hle⟩

/-- Where a character starts, the column is the number of characters in front of it. -/
theorem columnOfByte_append (front rest : List Char) :
    columnOfByte (encode front).length (front ++ rest) = front.length := by
  induction front with
  | nil =>
      apply Nat.le_zero.mp
      cases rest with
      | nil => simp
      | cons c rest =>
          have hcut : ¬ c.utf8Size ≤ 0 := Nat.not_le.mpr c.utf8Size_pos
          simp [encode, columnOfByte_cons, hcut]
  | cons c front ih =>
      rw [encode_cons, List.length_append, String.length_utf8EncodeChar, List.cons_append,
        columnOfByte_cons, if_pos (Nat.le_add_right _ _), Nat.add_sub_cancel_left, ih,
        List.length_cons]

end RouteScribe.Text.Utf8
