import RouteScribe.Text.Utf8

/-!
# Texts that are encoded and decoded

A code point has one to four octets.  The decoder reads a character from its octets, whatever
follows them, and so a text from its bytes.
-/

namespace RouteScribe.Text.Utf8

/-! ### Octets -/

def octets (point : Nat) : List Nat :=
  if point < 0x80 then [point]
  else if point < 0x800 then [0xC0 + point / 0x40, 0x80 + point % 0x40]
  else if point < 0x10000 then
    [0xE0 + point / 0x1000, 0x80 + point / 0x40 % 0x40, 0x80 + point % 0x40]
  else
    [0xF0 + point / 0x40000, 0x80 + point / 0x1000 % 0x40, 0x80 + point / 0x40 % 0x40,
      0x80 + point % 0x40]

theorem toNat_valid (c : Char) :
    c.toNat < 0xD800 ∨ 0xDFFF < c.toNat ∧ c.toNat < 0x110000 :=
  c.valid

/-- A character is encoded to the octets of its code point. -/
theorem toNat_utf8EncodeChar (c : Char) :
    (String.utf8EncodeChar c).map UInt8.toNat = octets c.toNat := by
  have hvalid := toNat_valid c
  have hcode : c.val.toNat = c.toNat := rfl
  simp only [String.utf8EncodeChar, hcode, octets]
  generalize c.toNat = point at hvalid
  by_cases hone : point < 0x80
  · rw [if_pos hone, if_pos (by omega)]
    simp only [List.map_cons, List.map_nil, UInt8.toNat_ofNat', List.cons.injEq, and_true]
    omega
  · rw [if_neg hone, if_neg (by omega)]
    by_cases htwo : point < 0x800
    · rw [if_pos htwo, if_pos (by omega)]
      simp only [List.map_cons, List.map_nil, UInt8.toNat_ofNat', List.cons.injEq, and_true]
      omega
    · rw [if_neg htwo, if_neg (by omega)]
      by_cases hthree : point < 0x10000
      · rw [if_pos hthree, if_pos (by omega)]
        simp only [List.map_cons, List.map_nil, UInt8.toNat_ofNat', List.cons.injEq, and_true]
        omega
      · rw [if_neg hthree, if_neg (by omega)]
        simp only [List.map_cons, List.map_nil, UInt8.toNat_ofNat', List.cons.injEq, and_true]
        omega

/-! ### Reading -/

variable {point : Nat} {first second third fourth : UInt8}

theorem isContinuation_iff {byte : UInt8} :
    isContinuation byte ↔ 0x80 ≤ byte.toNat ∧ byte.toNat < 0xC0 := by
  simp [isContinuation, UInt8.le_iff_toNat_le, UInt8.lt_iff_toNat_lt]

theorem mayFollow_iff :
    mayFollow first second ↔ (0x80 ≤ second.toNat ∧ second.toNat < 0xC0) ∧
      (first.toNat = 0xE0 → 0xA0 ≤ second.toNat) ∧ (first.toNat = 0xED → second.toNat < 0xA0) ∧
      (first.toNat = 0xF0 → 0x90 ≤ second.toNat) ∧ (first.toNat = 0xF4 → second.toNat < 0x90) := by
  simp only [mayFollow, Bool.and_eq_true, isContinuation_iff, Bool.or_eq_true, bne_iff_ne,
    decide_eq_true_eq, ne_eq, ← UInt8.toNat_inj, UInt8.le_iff_toNat_le, UInt8.lt_iff_toNat_lt,
    UInt8.reduceToNat]
  omega

/-- The first of several octets is in the range that opens a longer character. -/
theorem leads_of_toNat (hlow : 0xC2 ≤ first.toNat) (hhigh : first.toNat < 0xF5) :
    ¬ first < 0x80 ∧ (first < 0xC2 || 0xF5 ≤ first) = false := by
  simp only [UInt8.lt_iff_toNat_lt, UInt8.le_iff_toNat_le, UInt8.reduceToNat,
    Bool.or_eq_false_iff, decide_eq_false_iff_not]
  omega

theorem readChar_one (hfirst : first.toNat = point) (hpoint : point < 0x80)
    (rest : List UInt8) : readChar first rest = .ok (Char.ofNat point, 1) := by
  have hsmall : first < 0x80 := by
    simpa [UInt8.lt_iff_toNat_lt, hfirst] using hpoint
  unfold readChar
  rw [if_pos hsmall, hfirst]

/-- Two octets are read back. -/
theorem readChar_two (hlow : 0x80 ≤ point) (hhigh : point < 0x800)
    (hfirst : first.toNat = 0xC0 + point / 0x40) (hsecond : second.toNat = 0x80 + point % 0x40)
    (rest : List UInt8) : readChar first (second :: rest) = .ok (Char.ofNat point, 2) := by
  obtain ⟨hstart, hleads⟩ := leads_of_toNat (show 0xC2 ≤ first.toNat by omega) (by omega)
  have hfollows : mayFollow first second = true := mayFollow_iff.mpr (by omega)
  have hshort : first < 0xE0 :=
    UInt8.lt_iff_toNat_lt.mpr (show first.toNat < 0xE0 by omega)
  have hvalue : first.toNat % 32 * 64 + continuationBits second = point := by
    simp only [continuationBits]
    omega
  simp [readChar, hstart, hleads, hfollows, hshort, hvalue]

/-- Three octets are read back, if they do not stand for a surrogate. -/
theorem readChar_three (hlow : 0x800 ≤ point) (hhigh : point < 0x10000)
    (hscalar : point < 0xD800 ∨ 0xDFFF < point)
    (hfirst : first.toNat = 0xE0 + point / 0x1000)
    (hsecond : second.toNat = 0x80 + point / 0x40 % 0x40)
    (hthird : third.toNat = 0x80 + point % 0x40) (rest : List UInt8) :
    readChar first (second :: third :: rest) = .ok (Char.ofNat point, 3) := by
  obtain ⟨hstart, hleads⟩ := leads_of_toNat (show 0xC2 ≤ first.toNat by omega) (by omega)
  have hfollows : mayFollow first second = true := mayFollow_iff.mpr (by omega)
  have hcontinues : isContinuation third = true := isContinuation_iff.mpr (by omega)
  have hlong : ¬ first < 0xE0 :=
    UInt8.not_lt.mpr (UInt8.le_iff_toNat_le.mpr (show 0xE0 ≤ first.toNat by omega))
  have hshort : first < 0xF0 :=
    UInt8.lt_iff_toNat_lt.mpr (show first.toNat < 0xF0 by omega)
  have hvalue : first.toNat % 16 * 4096 +
      (continuationBits second * 64 + continuationBits third) = point := by
    simp only [continuationBits]
    omega
  simp [readChar, hstart, hleads, hfollows, hcontinues, hlong, hshort, hvalue]

/-- Four octets are read back. -/
theorem readChar_four (hlow : 0x10000 ≤ point) (hhigh : point < 0x110000)
    (hfirst : first.toNat = 0xF0 + point / 0x40000)
    (hsecond : second.toNat = 0x80 + point / 0x1000 % 0x40)
    (hthird : third.toNat = 0x80 + point / 0x40 % 0x40)
    (hfourth : fourth.toNat = 0x80 + point % 0x40) (rest : List UInt8) :
    readChar first (second :: third :: fourth :: rest) = .ok (Char.ofNat point, 4) := by
  obtain ⟨hstart, hleads⟩ := leads_of_toNat (show 0xC2 ≤ first.toNat by omega) (by omega)
  have hfollows : mayFollow first second = true := mayFollow_iff.mpr (by omega)
  have hthirds : isContinuation third = true := isContinuation_iff.mpr (by omega)
  have hfourths : isContinuation fourth = true := isContinuation_iff.mpr (by omega)
  have hlong : ¬ first < 0xE0 :=
    UInt8.not_lt.mpr (UInt8.le_iff_toNat_le.mpr (show 0xE0 ≤ first.toNat by omega))
  have hlonger : ¬ first < 0xF0 :=
    UInt8.not_lt.mpr (UInt8.le_iff_toNat_le.mpr (show 0xF0 ≤ first.toNat by omega))
  have hvalue : first.toNat % 8 * 262144 +
      (continuationBits second * 64 + continuationBits third) * 64 + continuationBits fourth =
        point := by
    simp only [continuationBits]
    omega
  simp [readChar, hstart, hleads, hfollows, hthirds, hfourths, hlong, hlonger, hvalue]

/-- A character is read from its bytes, whatever follows them. -/
theorem readChar_utf8EncodeChar (c : Char) :
    ∃ first more, String.utf8EncodeChar c = first :: more ∧
      ∀ rest, readChar first (more ++ rest) = .ok (c, more.length + 1) := by
  have hvalid := toNat_valid c
  have hbytes := toNat_utf8EncodeChar c
  have hchar : Char.ofNat c.toNat = c := Char.ofNat_toNat c
  unfold octets at hbytes
  split at hbytes
  · rename_i hone
    obtain ⟨first, heq, hfirst⟩ := List.map_eq_singleton_iff.mp hbytes
    refine ⟨first, [], heq, fun rest => ?_⟩
    rw [List.nil_append, readChar_one hfirst hone, hchar]
    rfl
  · split at hbytes
    · obtain ⟨first, more, heq, hfirst, hmore⟩ := List.map_eq_cons_iff.mp hbytes
      obtain ⟨second, rfl, hsecond⟩ := List.map_eq_singleton_iff.mp hmore
      refine ⟨first, [second], heq, fun rest => ?_⟩
      rw [List.singleton_append, readChar_two (by omega) (by omega) hfirst hsecond, hchar]
      rfl
    · split at hbytes
      · obtain ⟨first, more, heq, hfirst, hmore⟩ := List.map_eq_cons_iff.mp hbytes
        obtain ⟨second, last, rfl, hsecond, hlast⟩ := List.map_eq_cons_iff.mp hmore
        obtain ⟨third, rfl, hthird⟩ := List.map_eq_singleton_iff.mp hlast
        refine ⟨first, [second, third], heq, fun rest => ?_⟩
        rw [List.cons_append, List.singleton_append,
          readChar_three (by omega) (by omega) (by omega) hfirst hsecond hthird, hchar]
        rfl
      · obtain ⟨first, more, heq, hfirst, hmore⟩ := List.map_eq_cons_iff.mp hbytes
        obtain ⟨second, last, rfl, hsecond, hlast⟩ := List.map_eq_cons_iff.mp hmore
        obtain ⟨third, tail, rfl, hthird, hend⟩ := List.map_eq_cons_iff.mp hlast
        obtain ⟨fourth, rfl, hfourth⟩ := List.map_eq_singleton_iff.mp hend
        refine ⟨first, [second, third, fourth], heq, fun rest => ?_⟩
        rw [List.cons_append, List.cons_append, List.singleton_append,
          readChar_four (by omega) (by omega) hfirst hsecond hthird hfourth, hchar]
        rfl

/-! ### Decoding -/

/-- The rest of a character that has been read is passed over. -/
theorem decodeFrom_append (bytes rest : List UInt8) (offset : Nat) :
    decodeFrom offset bytes.length (bytes ++ rest) =
      decodeFrom (offset + bytes.length) 0 rest := by
  induction bytes generalizing offset with
  | nil => rfl
  | cons byte bytes ih =>
      rw [List.cons_append, List.length_cons, decodeFrom, ih]
      congr 1
      omega

/-- An encoded text is decoded to itself. -/
theorem decodeFrom_encode (text : List Char) (offset : Nat) :
    decodeFrom offset 0 (encode text) = .ok text := by
  induction text generalizing offset with
  | nil => rfl
  | cons c text ih =>
      obtain ⟨first, more, hbytes, hread⟩ := readChar_utf8EncodeChar c
      have hencode : encode (c :: text) = first :: (more ++ encode text) := by
        rw [encode, List.flatMap_cons, hbytes, List.cons_append]
        rfl
      rw [hencode, decodeFrom, hread]
      simp only [Nat.add_sub_cancel, decodeFrom_append, ih]
      rfl

/-- The bytes of a text are decoded to the text. -/
theorem decode_encode (text : List Char) : decode (encode text) = .ok text :=
  decodeFrom_encode text 0

end RouteScribe.Text.Utf8
