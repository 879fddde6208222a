import Mathlib.Data.List.Basic
import RouteScribe.Json.Reader
import RouteScribe.Json.Writer
import RouteScribe.Proofs.Text.Lines

/-!
# Strings and numbers that are read back

The written form of a string, a whole number or a word is read for the value that it was
written for, whatever follows it.  A number is the one form whose end is not marked: it has
to be followed by something that cannot belong to a number.
-/

namespace RouteScribe.Json

open RouteScribe.Number RouteScribe.Text

/-! ### Places in a text -/

theorem Cursor.advance_append (front rest : List Char) (position : Nat) :
    (⟨front ++ rest, position⟩ : Cursor).advance front.length =
      ⟨rest, position + front.length⟩ := by
  simp [Cursor.advance]

/-- The blank characters between the parts of a text. -/
def isGap (c : Char) : Bool :=
  [' ', '\t', '\n', '\r'].contains c

theorem Cursor.skipBlank_append {front rest : List Char} (hfront : ∀ c ∈ front, isGap c)
    (hrest : ∀ c ∈ rest.head?, isGap c = false) (position : Nat) :
    (⟨front ++ rest, position⟩ : Cursor).skipBlank = ⟨rest, position + front.length⟩ := by
  have hgap : (front ++ rest).takeWhile ([' ', '\t', '\n', '\r'].contains ·) = front :=
    takeWhile_append_of_head hfront hrest
  rw [Cursor.skipBlank, hgap, Cursor.advance_append]

/-! ### Strings -/

def writtenChar (c : Char) : List Char :=
  if plainUnicode c then [c] else escapeJsonChar c

/-- The three ways to write a character: as it is, by a letter, or by its code. -/
inductive WrittenAs (c : Char) : List Char → Prop where
  | plain (hcode : 0x20 ≤ c.toNat) (hquote : c ≠ '"') (hescape : c ≠ '\\') : WrittenAs c [c]
  | letter {letter : Char} (hletter : letter ≠ 'u') (hsimple : simpleEscape? letter = some c) :
      WrittenAs c ['\\', letter]
  | code (hcode : c.toNat < 0x20) : WrittenAs c ('\\' :: 'u' :: toHex 4 c.toNat)

/-- A character is written in one of the ways that the reader knows. -/
theorem writtenAs_writtenChar (c : Char) : WrittenAs c (writtenChar c) := by
  unfold writtenChar
  split
  · rename_i hplain
    simp only [plainUnicode, Bool.and_eq_true, decide_eq_true_eq, bne_iff_ne] at hplain
    exact .plain hplain.1.1 hplain.1.2 hplain.2
  · rename_i hplain
    unfold escapeJsonChar
    split
    · exact .letter (by decide) rfl
    · exact .letter (by decide) rfl
    · exact .letter (by decide) rfl
    · exact .letter (by decide) rfl
    · exact .letter (by decide) rfl
    · exact .letter (by decide) rfl
    · exact .letter (by decide) rfl
    · -- Of the characters that are not left alone, only control characters are left.
      rename_i hquote hescape _ _ _ _ _
      have hcode : c.toNat < 0x20 := by
        by_contra hlarge
        apply hplain
        simpa [plainUnicode] using ⟨⟨Nat.not_lt.mp hlarge, hquote⟩, hescape⟩
      have hwide : wideEscape c = '\\' :: 'u' :: toHex 4 c.toNat := by
        rw [wideEscape, if_pos (by omega), unitEscape]
      rw [hwide]
      exact .code hcode

theorem WrittenAs.length_pos {c : Char} {written : List Char} (hwritten : WrittenAs c written) :
    1 ≤ written.length := by
  cases hwritten <;> simp

/-- Four hexadecimal digits give a control character back. -/
theorem unicodeEscape?_toHex {c : Char} (hcode : c.toNat < 0x20) {more : List Char}
    (hmore : more ≠ []) :
    unicodeEscape? (toHex 4 c.toNat ++ more) = some (.character c 4) := by
  have hlength : (toHex 4 c.toNat).length = 4 := by simp [toHex]
  have hdigits : ∀ code, code < 0x20 → hexNumber? (toHex 4 code) = some code := by decide
  have hunit : codeUnit? (toHex 4 c.toNat ++ more) = some c.toNat := by
    rw [codeUnit?, List.drop_left' hlength, List.take_left' hlength, hdigits _ hcode]
    simp [hmore]
  have hhigh : isHighSurrogate c.toNat = false := by
    simp only [isHighSurrogate, Bool.and_eq_false_iff, decide_eq_false_iff_not]
    omega
  have hlow : isLowSurrogate c.toNat = false := by
    simp only [isLowSurrogate, Bool.and_eq_false_iff, decide_eq_false_iff_not]
    omega
  simp [unicodeEscape?, hunit, hhigh, hlow]

/-- A written character is read before what follows it. -/
theorem readChars_written {c : Char} {written : List Char} (hwritten : WrittenAs c written)
    {opening fuel position : Nat} {more text : List Char} {after : Cursor} (hmore : more ≠ [])
    (hread : readChars opening fuel ⟨more, position + written.length⟩ = .ok (text, after)) :
    readChars opening (fuel + 1) ⟨written ++ more, position⟩ = .ok (c :: text, after) := by
  cases hwritten with
  | plain hcode hquote hescape =>
      have hstep : (⟨c :: more, position⟩ : Cursor).advance 1 = ⟨more, position + 1⟩ := rfl
      have hread : readChars opening fuel ⟨more, position + 1⟩ = .ok (text, after) := hread
      rw [List.singleton_append, readChars]
      simp [hescape, Nat.not_lt.mpr hcode, hstep, hread]
  | @letter letter hletter hsimple =>
      have hstep : (⟨'\\' :: letter :: more, position⟩ : Cursor).advance 2 =
          ⟨more, position + 2⟩ := rfl
      have hread : readChars opening fuel ⟨more, position + 2⟩ = .ok (text, after) := hread
      change readChars opening (fuel + 1) ⟨'\\' :: letter :: more, position⟩ = _
      rw [readChars]
      simp [hsimple, hstep, hread]
  | code hcode =>
      have hstep : (⟨'\\' :: 'u' :: (toHex 4 c.toNat ++ more), position⟩ : Cursor).advance
          (2 + 4) = ⟨more, position + 6⟩ := by
        simp [Cursor.advance, toHex]
      have hread : readChars opening fuel ⟨more, position + 6⟩ = .ok (text, after) := hread
      change readChars opening (fuel + 1)
        ⟨'\\' :: 'u' :: (toHex 4 c.toNat ++ more), position⟩ = _
      rw [readChars]
      simp [unicodeEscape?_toHex hcode hmore, hstep, hread]

/-- The characters of a string are read up to the closing quote. -/
theorem readChars_text (text rest : List Char) (opening : Nat) {fuel : Nat}
    (hfuel : (text.flatMap writtenChar).length < fuel) (position : Nat) :
    ∃ after, readChars opening fuel ⟨text.flatMap writtenChar ++ '"' :: rest, position⟩ =
      .ok (text, ⟨rest, after⟩) := by
  induction text generalizing fuel position with
  | nil =>
      obtain ⟨fuel, rfl⟩ := Nat.exists_eq_add_one_of_ne_zero (Nat.ne_zero_of_lt hfuel)
      exact ⟨position + 1, rfl⟩
  | cons c text ih =>
      obtain ⟨fuel, rfl⟩ := Nat.exists_eq_add_one_of_ne_zero (Nat.ne_zero_of_lt hfuel)
      have hwritten := writtenAs_writtenChar c
      have hlength := hwritten.length_pos
      rw [List.flatMap_cons, List.length_append] at hfuel
      have hshort : (text.flatMap writtenChar).length < fuel := by omega
      obtain ⟨after, hread⟩ := ih hshort (position + (writtenChar c).length)
      rw [List.flatMap_cons, List.append_assoc]
      exact ⟨after, readChars_written hwritten (by simp) hread⟩

/-- The written form of a string after its opening quote. -/
def quotedBody (text : String) : List Char :=
  text.toList.flatMap writtenChar ++ ['"']

theorem toList_stringText (text : String) :
    (stringText plainUnicode text).toList = '"' :: quotedBody text := by
  rw [stringText, String.toList_ofList]
  rfl

/-- A string is read once its opening quote has been passed. -/
theorem readString_quotedBody (text : String) (rest : List Char) (position : Nat) :
    ∃ after, readString ⟨quotedBody text ++ rest, position⟩ = .ok (text, ⟨rest, after⟩) := by
  have hbody : quotedBody text ++ rest = text.toList.flatMap writtenChar ++ '"' :: rest := by
    rw [quotedBody, List.append_assoc, List.singleton_append]
  have hfuel : (text.toList.flatMap writtenChar).length <
      (text.toList.flatMap writtenChar ++ '"' :: rest).length + 1 := by
    simp only [List.length_append]
    omega
  obtain ⟨after, hread⟩ := readChars_text text.toList rest (position - 1) hfuel position
  refine ⟨after, ?_⟩
  rw [hbody, readString]
  dsimp only
  rw [hread]
  dsimp only
  rw [String.ofList_toList]

/-! ### Numbers -/

/-- What follows a number and cannot belong to it. -/
def EndsNumber (rest : List Char) : Prop :=
  ∀ c ∈ rest.head?, c.isDigit = false ∧ c ≠ '.' ∧ c ≠ 'e' ∧ c ≠ 'E'

theorem isDigit_of_mem_digits {n : Nat} {c : Char} (hc : c ∈ Nat.toDigits 10 n) : c.isDigit :=
  Nat.isDigit_of_mem_toDigits (by decide) (by decide) hc

theorem digitsValue_toDigits (n : Nat) : digitsValue (Nat.toDigits 10 n) = n := by
  have hvalue : Nat.ofDigitChars 10 (Nat.toDigits 10 n) 0 = n := Nat.ofDigitChars_ten_toDigits
  rw [Nat.ofDigitChars_eq_foldl] at hvalue
  rw [digitsValue]
  simpa only [Nat.mul_comm] using hvalue

/-- Only zero starts with the digit zero. -/
theorem head_toDigits {n : Nat} (hn : 0 < n) : ∀ c ∈ (Nat.toDigits 10 n).head?, c ≠ '0' := by
  induction n using Nat.strongRecOn with
  | ind n ih =>
      have hdigit : ∀ n, n < 10 → 0 < n → n.digitChar ≠ '0' := by decide
      intro c hc
      rw [Nat.toDigits_eq_if (by decide)] at hc
      split at hc
      · rename_i hsmall
        rw [← Option.some.inj hc]
        exact hdigit n hsmall hn
      · rename_i hlarge
        rw [List.head?_append_of_ne_nil _ Nat.toDigits_ne_nil] at hc
        exact ih (n / 10) (by omega) (by omega) c hc

/-- The digits of a number are taken up to where the number ends. -/
theorem wholePart_toDigits (n : Nat) {rest : List Char} (hrest : EndsNumber rest) :
    wholePart (Nat.toDigits 10 n ++ rest) = Nat.toDigits 10 n := by
  have htake : (Nat.toDigits 10 n ++ rest).takeWhile Char.isDigit = Nat.toDigits 10 n :=
    takeWhile_append_of_head (fun c hc => isDigit_of_mem_digits hc) fun c hc => (hrest c hc).1
  rcases Nat.eq_zero_or_pos n with rfl | hn
  · rfl
  · have hhead := head_toDigits hn
    cases hdigits : Nat.toDigits 10 n with
    | nil => exact absurd hdigits Nat.toDigits_ne_nil
    | cons c digits =>
        rw [hdigits] at hhead htake
        rw [wholePart]
        · exact htake
        · rintro _ hzero
          exact hhead c rfl (List.cons.inj hzero).1

theorem fractionPart_of_endsNumber {rest : List Char} (hrest : EndsNumber rest) :
    fractionPart rest = [] := by
  cases rest with
  | nil => rfl
  | cons c rest =>
      have hc : c ≠ '.' := (hrest c rfl).2.1
      simp [fractionPart, hc]

theorem exponentPart_of_endsNumber {rest : List Char} (hrest : EndsNumber rest) :
    exponentPart rest = [] := by
  cases rest with
  | nil => rfl
  | cons c rest =>
      obtain ⟨-, -, hsmall, hlarge⟩ := hrest c rfl
      simp [exponentPart, hsmall, hlarge]

/-- The digits of a number, with a sign in front if it is negative. -/
theorem toList_toString (n : Int) :
    (toString n).toList = (if n < 0 then ['-'] else []) ++ Nat.toDigits 10 n.natAbs := by
  rw [Int.toString_eq_repr, Int.repr_eq_if]
  split
  · have habs : n.toNat = n.natAbs := by omega
    rw [if_neg (by omega), habs, Nat.repr_eq_ofList_toDigits, String.toList_ofList,
      List.nil_append]
  · have habs : (-n).toNat = n.natAbs := by omega
    rw [if_pos (by omega), habs, Nat.repr_eq_ofList_toDigits, String.toList_append,
      String.toList_ofList]
    simp

/-- A written integer is read back in front of whatever ends a number. -/
theorem readNumber_toString {n : Int} (hn : isConvertible n) {rest : List Char}
    (hrest : EndsNumber rest) (position : Nat) :
    ∃ after, readNumber ⟨(toString n).toList ++ rest, position⟩ = .ok (.int n, ⟨rest, after⟩) := by
  have hlimit : ¬ digitLimit < (Nat.toDigits 10 n.natAbs).length :=
    Nat.not_lt.mpr (of_decide_eq_true hn)
  have hne : Nat.toDigits 10 n.natAbs ≠ [] := Nat.toDigits_ne_nil
  have hwhole := wholePart_toDigits n.natAbs hrest
  have hfraction := fractionPart_of_endsNumber hrest
  have hexponent := exponentPart_of_endsNumber hrest
  rw [toList_toString]
  by_cases hneg : n < 0
  · have hvalue : -(n.natAbs : Int) = n := by omega
    refine ⟨position + (1 + (Nat.toDigits 10 n.natAbs).length), ?_⟩
    rw [if_pos hneg, readNumber]
    generalize n.natAbs = size at *
    simp [hwhole, hfraction, hexponent, hne, hlimit, digitsValue_toDigits, hvalue, Cursor.advance,
      Nat.add_comm 1]
  · have hvalue : (n.natAbs : Int) = n := by omega
    have hhead : (Nat.toDigits 10 n.natAbs ++ rest).head? ≠ some '-' := by
      rw [List.head?_append_of_ne_nil _ hne]
      intro hsign
      cases isDigit_of_mem_digits (List.mem_of_head? hsign)
    refine ⟨position + (Nat.toDigits 10 n.natAbs).length, ?_⟩
    rw [if_neg hneg, List.nil_append, readNumber]
    simp only [hhead, decide_false, if_false, hwhole, List.drop_left, hfraction, hexponent,
      List.isEmpty_iff, hne, hlimit, List.length_nil, Nat.add_zero, and_self, if_true,
      digitsValue_toDigits, hvalue, Cursor.advance, Nat.zero_add]

/-! ### Numbers and words -/

/-- A number starts with a digit, or with a sign in front of one. -/
theorem exists_toString (n : Int) :
    ∃ digit more, digit.isDigit ∧
      ((toString n).toList = digit :: more ∨ (toString n).toList = '-' :: digit :: more) := by
  rw [toList_toString]
  cases hdigits : Nat.toDigits 10 n.natAbs with
  | nil => exact absurd hdigits Nat.toDigits_ne_nil
  | cons digit more =>
      refine ⟨digit, more, isDigit_of_mem_digits (hdigits ▸ List.mem_cons_self), ?_⟩
      by_cases hneg : n < 0
      · exact .inr (by rw [if_pos hneg]; rfl)
      · exact .inl (by rw [if_neg hneg]; rfl)

/-- A word starts with two letters, or with a sign and a letter. -/
theorem exists_word {entry : String × Value} (hentry : entry ∈ wordValues) :
    ∃ first second more, entry.1.toList = first :: second :: more ∧
      first.isDigit = false ∧ second.isDigit = false := by
  simp only [wordValues, List.mem_cons, List.not_mem_nil, or_false] at hentry
  rcases hentry with rfl | rfl | rfl | rfl | rfl | rfl <;> exact ⟨_, _, _, rfl, rfl, rfl⟩

/-- No word of the language begins with a digit or a minus sign. -/
theorem not_word_isPrefix_toString {entry : String × Value} (hentry : entry ∈ wordValues)
    (n : Int) (rest : List Char) : ¬ entry.1.toList <+: (toString n).toList ++ rest := by
  obtain ⟨first, second, letters, hword, hfirst, hsecond⟩ := exists_word hentry
  obtain ⟨digit, more, hdigit, htext | htext⟩ := exists_toString n
  · rw [hword, htext, List.cons_append, List.cons_prefix_cons]
    rintro ⟨rfl, -⟩
    rw [hfirst] at hdigit
    cases hdigit
  · rw [hword, htext, List.cons_append, List.cons_prefix_cons, List.cons_append,
      List.cons_prefix_cons]
    rintro ⟨-, rfl, -⟩
    rw [hsecond] at hdigit
    cases hdigit

/-- No number is taken for a word. -/
theorem readScalar_toString (n : Int) (rest : List Char) (position : Nat) :
    readScalar ⟨(toString n).toList ++ rest, position⟩ =
      readNumber ⟨(toString n).toList ++ rest, position⟩ := by
  unfold readScalar
  split
  · rename_i word value hfound
    have hprefix := List.find?_some hfound
    exact absurd (List.isPrefixOf_iff_prefix.mp hprefix)
      (not_word_isPrefix_toString (List.mem_of_find?_eq_some hfound) n rest)
  · rfl

end RouteScribe.Json
