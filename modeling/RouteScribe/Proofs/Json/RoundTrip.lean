import RouteScribe.Proofs.Json.KeyOrder
import RouteScribe.Proofs.Json.Scalars
import RouteScribe.Proofs.Table

/-!
# Values that are read back

The indented form of a value is read for the value, as long as its numbers are whole and of
limited length and no object has a key twice.  The argument goes through the text from part
to part: each part starts with a character that tells it from a gap and from the end of a
list, and is followed by a comma or a line break, at which a number ends.
-/

namespace RouteScribe.Json

open RouteScribe.Number RouteScribe.Text

/-! ### Parts of a text -/

/-- A reader takes a text for a value, whatever follows that cannot belong to a number. -/
def Takes (reader : Read Value) (text : List Char) (value : Value) : Prop :=
  ∀ rest position, EndsNumber rest →
    ∃ after, reader ⟨text ++ rest, position⟩ = .ok (value, ⟨rest, after⟩)

/-- The characters that no part starts with: blanks, the marks that close a list, and the
byte order mark. -/
def noStart : List Char :=
  [' ', '\t', '\n', '\r', ']', '}', '\uFEFF']

/-- A text that starts as a part does. -/
def StartsPart (text : List Char) : Prop :=
  ∃ c more, text = c :: more ∧ c ∉ noStart

theorem StartsPart.append {text : List Char} (htext : StartsPart text) (rest : List Char) :
    StartsPart (text ++ rest) := by
  obtain ⟨c, more, rfl, hc⟩ := htext
  exact ⟨c, more ++ rest, rfl, hc⟩

theorem StartsPart.head_ne {text : List Char} (htext : StartsPart text) {mark : Char}
    (hmark : mark ∈ noStart) : text.head? ≠ some mark := by
  obtain ⟨c, more, rfl, hc⟩ := htext
  rw [List.head?_cons]
  rintro ⟨⟩
  exact hc hmark

theorem StartsPart.not_gap {text : List Char} (htext : StartsPart text) :
    ∀ c ∈ text.head?, isGap c = false := by
  intro c hc
  have hblank : ∀ mark, isGap mark → mark ∈ noStart := by
    intro mark hmark
    rw [isGap, List.contains_iff_mem] at hmark
    exact (List.Sublist.subset (by decide : [' ', '\t', '\n', '\r'].Sublist noStart)) hmark
  rw [Bool.eq_false_iff]
  intro hgap
  exact htext.head_ne (hblank c hgap) hc

theorem endsNumber_cons {c : Char} (hc : c ∈ ['\n', ',']) (rest : List Char) :
    EndsNumber (c :: rest) := by
  have hmarks : ∀ c ∈ ['\n', ','], c.isDigit = false ∧ c ≠ '.' ∧ c ≠ 'e' ∧ c ≠ 'E' := by
    rw [List.forall_mem_cons, List.forall_mem_singleton]
    decide
  intro other hother
  rw [← Option.some.inj hother]
  exact hmarks c hc

/-! ### Lists of parts -/

/-- The line break in front of a part on a level. -/
def breakAt (level : Nat) : List Char :=
  '\n' :: List.replicate (2 * level) ' '

theorem isGap_of_mem_breakAt {level : Nat} : ∀ c ∈ breakAt level, isGap c := by
  intro c hc
  rcases List.mem_cons.mp hc with rfl | hspace
  · rfl
  · rw [List.eq_of_mem_replicate hspace]
    rfl

/-- The parts of a list up to the mark that closes it, and what follows. -/
def listed (level : Nat) (texts : List (List Char)) (close : Char) (rest : List Char) :
    List Char :=
  (',' :: breakAt (level + 1)).intercalate texts ++ (breakAt level ++ close :: rest)

section Listed

variable {level : Nat} {text : List Char} {texts : List (List Char)} {close : Char}
variable {rest : List Char} {position : Nat}

theorem listed_singleton (level : Nat) (text : List Char) (close : Char) (rest : List Char) :
    listed level [text] close rest = text ++ (breakAt level ++ close :: rest) := by
  rw [listed, List.intercalate_singleton]

theorem listed_cons (level : Nat) (text second : List Char) (texts : List (List Char))
    (close : Char) (rest : List Char) :
    listed level (text :: second :: texts) close rest =
      text ++ (',' :: (breakAt (level + 1) ++ listed level (second :: texts) close rest)) := by
  rw [listed, List.intercalate_cons_cons, listed]
  simp

theorem startsPart_listed (htext : StartsPart text) :
    StartsPart (listed level (text :: texts) close rest) := by
  cases texts with
  | nil =>
      rw [listed_singleton]
      exact htext.append _
  | cons second texts =>
      rw [listed_cons]
      exact htext.append _

theorem skipBlank_listed (htext : StartsPart text) :
    (⟨breakAt (level + 1) ++ listed level (text :: texts) close rest, position⟩ :
      Cursor).skipBlank =
        ⟨listed level (text :: texts) close rest, position + (breakAt (level + 1)).length⟩ :=
  Cursor.skipBlank_append isGap_of_mem_breakAt (startsPart_listed htext).not_gap position

/-- The mark that closes a list comes after a line break. -/
theorem skipBlank_close (hclose : isGap close = false) :
    (⟨breakAt level ++ close :: rest, position⟩ : Cursor).skipBlank =
      ⟨close :: rest, position + (breakAt level).length⟩ := by
  apply Cursor.skipBlank_append isGap_of_mem_breakAt
  intro c hc
  rwa [← Option.some.inj hc]

theorem length_lt_listed (htext : text ∈ texts) :
    text.length < (listed level texts close rest).length := by
  induction texts with
  | nil => cases htext
  | cons first texts ih =>
      cases texts with
      | nil =>
          rw [List.mem_singleton.mp htext, listed_singleton]
          simp only [List.length_append, List.length_cons]
          omega
      | cons second texts =>
          rw [listed_cons]
          simp only [List.length_append, List.length_cons]
          rcases List.mem_cons.mp htext with rfl | hmem
          · omega
          · have hrest := ih hmem
            omega

theorem toList_block (level : Nat) (texts : List String) (close : Char) (rest : List Char) :
    (Value.block level texts).toList ++ close :: rest =
      breakAt (level + 1) ++ listed level (texts.map String.toList) close rest := by
  simp [Value.block, Value.newlineAt, listed, breakAt, String.toList_intercalate]

end Listed

/-! ### Items of arrays -/

section Items

variable {reader : Read Value} {fuel position : Nat} {cursor after last : Cursor} {item : Value}
variable {items : List Value} {more rest : List Char}

theorem readItems_last (hitem : reader cursor = .ok (item, after))
    (hclose : after.skipBlank = ⟨']' :: rest, position⟩) :
    readItems reader (fuel + 1) cursor = .ok ([item], ⟨rest, position + 1⟩) := by
  simp only [readItems, hitem, bind, Except.bind, hclose]
  rfl

theorem readItems_more (hitem : reader cursor = .ok (item, after))
    (hcomma : after.skipBlank = ⟨',' :: more, position⟩)
    (hitems : readItems reader fuel (⟨more, position + 1⟩ : Cursor).skipBlank =
      .ok (items, last)) :
    readItems reader (fuel + 1) cursor = .ok (item :: items, last) := by
  have hstep : (⟨',' :: more, position⟩ : Cursor).advance 1 = ⟨more, position + 1⟩ := rfl
  simp only [readItems, hitem, bind, Except.bind, hcomma, hstep, hitems]
  rfl

end Items

/-- The items of an array are read if each of them is. -/
theorem readItems_listed {reader : Read Value} {items : List Value} {texts : List (List Char)}
    (hparts : List.Forall₂ (fun item text => Takes reader text item ∧ StartsPart text) items texts)
    (hne : texts ≠ []) (level : Nat) (rest : List Char) {fuel : Nat}
    (hfuel : (listed level texts ']' rest).length < fuel) (position : Nat) :
    ∃ after, readItems reader fuel ⟨listed level texts ']' rest, position⟩ =
      .ok (items, ⟨rest, after⟩) := by
  induction hparts generalizing fuel position with
  | nil => exact absurd rfl hne
  | @cons item text items texts hpart hparts ih =>
      obtain ⟨fuel, rfl⟩ := Nat.exists_eq_add_one_of_ne_zero (Nat.ne_zero_of_lt hfuel)
      cases hparts with
      | nil =>
          obtain ⟨after, hread⟩ := hpart.1 (breakAt level ++ ']' :: rest) position
            (endsNumber_cons (by decide) _)
          rw [listed_singleton]
          exact ⟨_, readItems_last hread (skipBlank_close rfl)⟩
      | @cons second other items texts hsecond hparts =>
          rw [listed_cons] at hfuel ⊢
          have hshort : (listed level (other :: texts) ']' rest).length < fuel := by
            simp only [List.length_append, List.length_cons] at hfuel
            omega
          obtain ⟨after, hread⟩ := hpart.1
            (',' :: (breakAt (level + 1) ++ listed level (other :: texts) ']' rest)) position
            (endsNumber_cons (by decide) _)
          obtain ⟨last, hitems⟩ := ih (by simp) hshort (after + 1 + (breakAt (level + 1)).length)
          rw [← skipBlank_listed hsecond.2] at hitems
          exact ⟨last, readItems_more hread rfl hitems⟩

/-! ### Entries of objects -/

def entryText (key : String) (text : List Char) : List Char :=
  '"' :: (quotedBody key ++ ':' :: ' ' :: text)

theorem startsPart_entryText (key : String) (text : List Char) :
    StartsPart (entryText key text) :=
  ⟨'"', _, rfl, by decide⟩

/-- A text is that of an entry, and a reader takes the text of its value. -/
def TakesEntry (reader : Read Value) (entry : String × Value) (text : List Char) : Prop :=
  ∃ value, text = entryText entry.1 value ∧ Takes reader value entry.2 ∧ StartsPart value

/-- The key of an entry is read, and then its value. -/
theorem Takes.entry {reader : Read Value} {value : Value} {text : List Char}
    (htakes : Takes reader text value) (hstarts : StartsPart text) (key : String)
    {rest : List Char} (hrest : EndsNumber rest) (position : Nat) :
    ∃ place, readString ⟨quotedBody key ++ ':' :: ' ' :: text ++ rest, position + 1⟩ =
        .ok (key, ⟨':' :: ' ' :: text ++ rest, place⟩) ∧
      ∃ after, reader (⟨' ' :: text ++ rest, place + 1⟩ : Cursor).skipBlank =
        .ok (value, ⟨rest, after⟩) := by
  obtain ⟨place, hkey⟩ := readString_quotedBody key (':' :: ' ' :: text ++ rest) (position + 1)
  have hgap : (⟨' ' :: text ++ rest, place + 1⟩ : Cursor).skipBlank =
      ⟨text ++ rest, place + 1 + 1⟩ :=
    Cursor.skipBlank_append (List.forall_mem_singleton.mpr rfl) (hstarts.append rest).not_gap
      (place + 1)
  refine ⟨place, ?_, ?_⟩
  · rw [List.append_assoc]
    exact hkey
  · rw [hgap]
    exact htakes rest (place + 1 + 1) hrest

section Entries

variable {reader : Read Value} {fuel position place stop : Nat} {after last : Cursor}
variable {key : String} {value : Value} {entries : Table Value} {more rest final : List Char}

/-- The last entry of an object is read, up to the closing brace. -/
theorem readEntries_last
    (hkey : readString ⟨more, position + 1⟩ = .ok (key, ⟨':' :: rest, place⟩))
    (hvalue : reader (⟨rest, place + 1⟩ : Cursor).skipBlank = .ok (value, after))
    (hclose : after.skipBlank = ⟨'}' :: final, stop⟩) :
    readEntries reader (fuel + 1) ⟨'"' :: more, position⟩ =
      .ok ([(key, value)], ⟨final, stop + 1⟩) := by
  have hopen : (⟨'"' :: more, position⟩ : Cursor).advance 1 = ⟨more, position + 1⟩ := rfl
  have hcolon : (⟨':' :: rest, place⟩ : Cursor).skipBlank = ⟨':' :: rest, place⟩ := rfl
  have hstep : (⟨':' :: rest, place⟩ : Cursor).advance 1 = ⟨rest, place + 1⟩ := rfl
  simp only [readEntries, hopen, hkey, bind, Except.bind, hcolon, hstep, hvalue, hclose]
  rfl

/-- An entry is read in front of those behind its comma. -/
theorem readEntries_more
    (hkey : readString ⟨more, position + 1⟩ = .ok (key, ⟨':' :: rest, place⟩))
    (hvalue : reader (⟨rest, place + 1⟩ : Cursor).skipBlank = .ok (value, after))
    (hcomma : after.skipBlank = ⟨',' :: final, stop⟩)
    (hentries : readEntries reader fuel (⟨final, stop + 1⟩ : Cursor).skipBlank =
      .ok (entries, last)) :
    readEntries reader (fuel + 1) ⟨'"' :: more, position⟩ =
      .ok ((key, value) :: entries, last) := by
  have hopen : (⟨'"' :: more, position⟩ : Cursor).advance 1 = ⟨more, position + 1⟩ := rfl
  have hcolon : (⟨':' :: rest, place⟩ : Cursor).skipBlank = ⟨':' :: rest, place⟩ := rfl
  have hstep : (⟨':' :: rest, place⟩ : Cursor).advance 1 = ⟨rest, place + 1⟩ := rfl
  have hnext : (⟨',' :: final, stop⟩ : Cursor).advance 1 = ⟨final, stop + 1⟩ := rfl
  simp only [readEntries, hopen, hkey, bind, Except.bind, hcolon, hstep, hvalue, hcomma, hnext,
    hentries]
  rfl

end Entries

/-- The entries of an object are read if the value of each of them is. -/
theorem readEntries_listed {reader : Read Value} {entries : Table Value}
    {texts : List (List Char)} (hparts : List.Forall₂ (TakesEntry reader) entries texts)
    (hne : texts ≠ []) (level : Nat) (rest : List Char) {fuel : Nat}
    (hfuel : (listed level texts '}' rest).length < fuel) (position : Nat) :
    ∃ after, readEntries reader fuel ⟨listed level texts '}' rest, position⟩ =
      .ok (entries, ⟨rest, after⟩) := by
  induction hparts generalizing fuel position with
  | nil => exact absurd rfl hne
  | @cons entry text entries texts hpart hparts ih =>
      obtain ⟨fuel, rfl⟩ := Nat.exists_eq_add_one_of_ne_zero (Nat.ne_zero_of_lt hfuel)
      obtain ⟨value, rfl, htakes, hstarts⟩ := hpart
      cases hparts with
      | nil =>
          have hends : EndsNumber (breakAt level ++ '}' :: rest) := endsNumber_cons (by decide) _
          obtain ⟨place, hkey, after, hvalue⟩ := htakes.entry hstarts entry.1 hends position
          rw [listed_singleton]
          exact ⟨_, readEntries_last hkey hvalue (skipBlank_close rfl)⟩
      | @cons second other entries texts hsecond hparts =>
          rw [listed_cons] at hfuel ⊢
          have hshort : (listed level (other :: texts) '}' rest).length < fuel := by
            simp only [List.length_append, List.length_cons] at hfuel
            omega
          have hends : EndsNumber
              (',' :: (breakAt (level + 1) ++ listed level (other :: texts) '}' rest)) :=
            endsNumber_cons (by decide) _
          obtain ⟨place, hkey, after, hvalue⟩ := htakes.entry hstarts entry.1 hends position
          obtain ⟨last, hentries⟩ := ih (by simp) hshort (after + 1 + (breakAt (level + 1)).length)
          obtain ⟨_, rfl, -⟩ := hsecond
          rw [← skipBlank_listed (startsPart_entryText _ _)] at hentries
          exact ⟨last, readEntries_more hkey hvalue rfl hentries⟩

/-! ### Texts that are read for a value -/

/-- A text is read for a value, with enough fuel for its length. -/
def IsReadFor (text : List Char) (value : Value) : Prop :=
  StartsPart text ∧ ∀ fuel, text.length ≤ fuel → Takes (readValue (fuel + 1)) text value

theorem IsReadFor.takes {text : List Char} {value : Value} (hread : IsReadFor text value)
    {fuel : Nat} (hfuel : text.length < fuel) : Takes (readValue fuel) text value := by
  obtain ⟨fuel, rfl⟩ := Nat.exists_eq_add_one_of_ne_zero (Nat.ne_zero_of_lt hfuel)
  exact hread.2 fuel (Nat.le_of_lt_succ hfuel)

theorem isReadFor_of_eq {text : List Char} {value : Value} (hstarts : StartsPart text)
    (hread : ∀ fuel rest position, readValue (fuel + 1) ⟨text ++ rest, position⟩ =
      .ok (value, ⟨rest, position + text.length⟩)) : IsReadFor text value := by
  refine ⟨hstarts, ?_⟩
  intro fuel _ rest position _
  exact ⟨position + text.length, hread fuel rest position⟩

theorem isReadFor_null : IsReadFor "null".toList .null := by
  apply isReadFor_of_eq ⟨'n', _, rfl, by decide⟩
  intro fuel rest position
  simp [readValue, readScalar, wordValues]
  rfl

theorem isReadFor_bool (value : Bool) :
    IsReadFor (if value then "true" else "false").toList (.bool value) := by
  cases value with
  | true =>
      apply isReadFor_of_eq ⟨'t', _, rfl, by decide⟩
      intro fuel rest position
      simp [readValue, readScalar, wordValues]
      rfl
  | false =>
      apply isReadFor_of_eq ⟨'f', _, rfl, by decide⟩
      intro fuel rest position
      simp [readValue, readScalar, wordValues]
      rfl

theorem isReadFor_empty_arr : IsReadFor (inBrackets "").toList (.arr []) :=
  isReadFor_of_eq ⟨'[', _, rfl, by decide⟩ fun _ _ _ => rfl

theorem isReadFor_empty_obj : IsReadFor (inBraces "").toList (.obj []) :=
  isReadFor_of_eq ⟨'{', _, rfl, by decide⟩ fun _ _ _ => rfl

/-- Behind any other character than a quote or an opening bracket comes a scalar. -/
theorem readValue_scalar {c : Char} (hstring : c ≠ '"') (harray : c ≠ '[') (hobject : c ≠ '{')
    (fuel position : Nat) (more : List Char) :
    readValue (fuel + 1) ⟨c :: more, position⟩ = readScalar ⟨c :: more, position⟩ := by
  simp only [readValue]
  split
  · rename_i hrest
    exact absurd (List.cons.inj hrest).1 hstring
  · rename_i hrest
    exact absurd (List.cons.inj hrest).1 harray
  · rename_i hrest
    exact absurd (List.cons.inj hrest).1 hobject
  · rfl

/-- A written integer is read back, if it is not too long to convert. -/
theorem isReadFor_int {n : Int} (hn : isConvertible n) :
    IsReadFor (toString n).toList (.int n) := by
  obtain ⟨c, more, htext, hc⟩ : ∃ c more, (toString n).toList = c :: more ∧
      (c.isDigit ∨ c = '-') := by
    obtain ⟨digit, more, hdigit, htext | htext⟩ := exists_toString n
    · exact ⟨digit, more, htext, .inl hdigit⟩
    · exact ⟨'-', digit :: more, htext, .inr rfl⟩
  have hother : ∀ mark : Char, mark.isDigit = false ∧ mark ≠ '-' → c ≠ mark := by
    rintro _ ⟨hmark, hsign⟩ rfl
    rw [hmark] at hc
    exact hc.elim (fun h => nomatch h) hsign
  have hnoStart : noStart.all fun mark => !mark.isDigit && mark != '-' := by decide
  refine ⟨⟨c, more, htext, ?_⟩, ?_⟩
  · intro hmem
    exact hother c (by simpa using List.all_eq_true.mp hnoStart c hmem) rfl
  · intro fuel _ rest position hrest
    obtain ⟨after, hread⟩ := readNumber_toString hn hrest position
    rw [← readScalar_toString, htext, List.cons_append] at hread
    rw [htext, List.cons_append, readValue_scalar (hother '"' (by decide))
      (hother '[' (by decide)) (hother '{' (by decide))]
    exact ⟨after, hread⟩

/-- A written string is read back. -/
theorem isReadFor_str (text : String) :
    IsReadFor (stringText plainUnicode text).toList (.str text) := by
  rw [toList_stringText]
  refine ⟨⟨'"', _, rfl, by decide⟩, ?_⟩
  intro fuel _ rest position _
  have hopen : (⟨'"' :: (quotedBody text ++ rest), position⟩ : Cursor).advance 1 =
      ⟨quotedBody text ++ rest, position + 1⟩ := rfl
  obtain ⟨after, hread⟩ := readString_quotedBody text rest (position + 1)
  refine ⟨after, ?_⟩
  rw [List.cons_append]
  simp only [readValue, hopen, hread]
  rfl

section Containers

variable {fuel position : Nat} {more : List Char} {inside after : Cursor}

theorem readValue_arr {items : List Value}
    (hinside : (⟨more, position + 1⟩ : Cursor).skipBlank = inside)
    (hhead : inside.rest.head? ≠ some ']')
    (hitems : readItems (readValue fuel) (inside.rest.length + 1) inside = .ok (items, after)) :
    readValue (fuel + 1) ⟨'[' :: more, position⟩ = .ok (.arr items, after) := by
  have hopen : (⟨'[' :: more, position⟩ : Cursor).advance 1 = ⟨more, position + 1⟩ := rfl
  simp only [readValue, hopen, hinside]
  split
  · rename_i hrest
    rw [hrest] at hhead
    exact absurd rfl hhead
  · rw [hitems]
    rfl

theorem readValue_obj {entries : Table Value}
    (hinside : (⟨more, position + 1⟩ : Cursor).skipBlank = inside)
    (hhead : inside.rest.head? ≠ some '}')
    (hentries : readEntries (readValue fuel) (inside.rest.length + 1) inside =
      .ok (entries, after)) :
    readValue (fuel + 1) ⟨'{' :: more, position⟩ = .ok (.obj (Table.ofPairs entries), after) := by
  have hopen : (⟨'{' :: more, position⟩ : Cursor).advance 1 = ⟨more, position + 1⟩ := rfl
  simp only [readValue, hopen, hinside]
  split
  · rename_i hrest
    rw [hrest] at hhead
    exact absurd rfl hhead
  · rw [hentries]
    rfl

end Containers

/-- A list is read if its parts are: what is inside is read with one unit of fuel less. -/
theorem isReadFor_listed {mark close : Char} (hmark : mark ∉ noStart) {level : Nat}
    {texts : List (List Char)} {value : Value}
    (hread : ∀ fuel, (∀ text ∈ texts, text.length < fuel) → ∀ rest position,
      ∃ after, readValue (fuel + 1)
        ⟨mark :: (breakAt (level + 1) ++ listed level texts close rest), position⟩ =
          .ok (value, ⟨rest, after⟩)) :
    IsReadFor (mark :: (breakAt (level + 1) ++ listed level texts close [])) value := by
  refine ⟨⟨mark, _, rfl, hmark⟩, ?_⟩
  intro fuel hfuel rest position _
  have hshort : ∀ text ∈ texts, text.length < fuel := by
    intro text htext
    have hlisted : text.length < (listed level texts close []).length := length_lt_listed htext
    simp only [List.length_cons, List.length_append] at hfuel
    omega
  have hrest : listed level texts close [] ++ rest = listed level texts close rest := by
    simp [listed]
  rw [List.cons_append, List.append_assoc, hrest]
  exact hread fuel hshort rest position

/-- A written array is read back if each of its elements is. -/
theorem isReadFor_arr {level : Nat} {items : List Value} {texts : List (List Char)}
    (hitems : List.Forall₂ (fun item text => IsReadFor text item) items texts) (hne : texts ≠ []) :
    IsReadFor ('[' :: (breakAt (level + 1) ++ listed level texts ']' [])) (.arr items) := by
  apply isReadFor_listed (by decide)
  intro fuel hfuel rest position
  have hparts : List.Forall₂ (fun item text => Takes (readValue fuel) text item ∧ StartsPart text)
      items texts := by
    clear hne
    induction hitems with
    | nil => exact .nil
    | cons hitem _ ih =>
        rw [List.forall_mem_cons] at hfuel
        exact .cons ⟨hitem.takes hfuel.1, hitem.1⟩ (ih hfuel.2)
  cases hitems with
  | nil => exact absurd rfl hne
  | cons hitem _ =>
      obtain ⟨after, hread⟩ := readItems_listed hparts hne level rest (Nat.lt_succ_self _)
        (position + 1 + (breakAt (level + 1)).length)
      exact ⟨after, readValue_arr (skipBlank_listed hitem.1)
        ((startsPart_listed hitem.1).head_ne (by decide)) hread⟩

/-- A written object is read back if each of its values is and its keys are distinct. -/
theorem isReadFor_obj {level : Nat} {entries : Table Value} {texts : List (List Char)}
    (hentries : List.Forall₂ (fun entry text => ∃ value, text = entryText entry.1 value ∧
      IsReadFor value entry.2) entries texts) (hne : texts ≠ [])
    (hdistinct : entries.names.Nodup) :
    IsReadFor ('{' :: (breakAt (level + 1) ++ listed level texts '}' [])) (.obj entries) := by
  apply isReadFor_listed (by decide)
  intro fuel hfuel rest position
  have hparts : List.Forall₂ (TakesEntry (readValue fuel)) entries texts := by
    clear hne hdistinct
    induction hentries with
    | nil => exact .nil
    | cons hentry _ ih =>
        rw [List.forall_mem_cons] at hfuel
        obtain ⟨value, rfl, hvalue⟩ := hentry
        have hshort : value.length < fuel := by
          have hlength := hfuel.1
          simp only [entryText, List.length_cons, List.length_append] at hlength
          omega
        exact .cons ⟨value, rfl, hvalue.takes hshort, hvalue.1⟩ (ih hfuel.2)
  cases hentries with
  | nil => exact absurd rfl hne
  | cons hentry _ =>
      obtain ⟨value, rfl, -⟩ := hentry
      obtain ⟨after, hread⟩ := readEntries_listed hparts hne level rest (Nat.lt_succ_self _)
        (position + 1 + (breakAt (level + 1)).length)
      have hobj := readValue_obj (skipBlank_listed (startsPart_entryText _ _))
        ((startsPart_listed (startsPart_entryText _ _)).head_ne (by decide)) hread
      rw [Table.ofPairs_eq_self hdistinct] at hobj
      exact ⟨after, hobj⟩

/-! ### Values that are written and read -/

namespace Value

/-- Whether a value is none of those whose text does not determine them: floats, foreign
literals, numbers too long to be converted and objects with a key twice. -/
def isPlain : Value → Bool
  | .int value => isConvertible value
  | .float _ => false
  | .foreign _ => false
  | other => other.keysDiffer

/-- Whether a value is determined by its text, at any depth. -/
def isExact (value : Value) : Bool :=
  value.everywhere isPlain

theorem toList_inBrackets_block (level : Nat) (texts : List String) :
    (inBrackets (block level texts)).toList =
      '[' :: (breakAt (level + 1) ++ listed level (texts.map String.toList) ']' []) := by
  rw [← toList_block]
  simp [inBrackets]

theorem toList_inBraces_block (level : Nat) (texts : List String) :
    (inBraces (block level texts)).toList =
      '{' :: (breakAt (level + 1) ++ listed level (texts.map String.toList) '}' []) := by
  rw [← toList_block]
  simp [inBraces]

theorem toList_entry (key text : String) :
    (stringText plainUnicode key ++ ": " ++ text).toList = entryText key text.toList := by
  simp [toList_stringText, entryText]

/-- The text of a value on a level is read for the value. -/
def ReadsBack (value : Value) (level : Nat) : Prop :=
  ∃ text, value.indented? level = some text ∧ IsReadFor text.toList value

/-- Elements that read back are written, each to a text that is read for it. -/
theorem exists_indentedItems? {level : Nat} {items : List Value}
    (hitems : ∀ item ∈ items, item.ReadsBack level) :
    ∃ texts, indentedItems? level items = some texts ∧
      List.Forall₂ (fun item text => IsReadFor text item) items (texts.map String.toList) := by
  induction items with
  | nil => exact ⟨[], rfl, .nil⟩
  | cons item items ih =>
      rw [List.forall_mem_cons] at hitems
      obtain ⟨text, htext, hread⟩ := hitems.1
      obtain ⟨texts, htexts, hreads⟩ := ih hitems.2
      refine ⟨text :: texts, ?_, .cons hread hreads⟩
      rw [indentedItems?, htext, htexts]
      rfl

/-- Values that read back are written behind their keys. -/
theorem exists_indentedEntries? {level : Nat} {entries : Table Value}
    (hentries : ∀ entry ∈ entries, entry.2.ReadsBack level) :
    ∃ texts, indentedEntries? level entries = some texts ∧
      List.Forall₂ (fun entry text => ∃ value, text = entryText entry.1 value ∧
        IsReadFor value entry.2) entries (texts.map String.toList) := by
  induction entries with
  | nil => exact ⟨[], rfl, .nil⟩
  | cons entry entries ih =>
      rw [List.forall_mem_cons] at hentries
      obtain ⟨text, htext, hread⟩ := hentries.1
      obtain ⟨texts, htexts, hreads⟩ := ih hentries.2
      refine ⟨(stringText plainUnicode entry.1 ++ ": " ++ text) :: texts, ?_,
        .cons ⟨text.toList, toList_entry entry.1 text, hread⟩ hreads⟩
      rw [indentedEntries?, htext, htexts]
      rfl

/-- An array reads back if its elements do one level further in. -/
theorem readsBack_arr {level : Nat} {items : List Value}
    (hitems : ∀ item ∈ items, item.ReadsBack (level + 1)) : (Value.arr items).ReadsBack level := by
  obtain ⟨texts, htexts, hreads⟩ := exists_indentedItems? hitems
  rw [ReadsBack, indented?, htexts, Option.map_some]
  cases texts with
  | nil =>
      cases hreads
      exact ⟨inBrackets "", rfl, isReadFor_empty_arr⟩
  | cons text texts =>
      refine ⟨inBrackets (block level (text :: texts)), rfl, ?_⟩
      rw [toList_inBrackets_block]
      exact isReadFor_arr hreads (List.cons_ne_nil _ _)

/-- An object with distinct keys reads back if its values do one level further in. -/
theorem readsBack_obj {level : Nat} {entries : Table Value} (hdistinct : entries.names.Nodup)
    (hentries : ∀ entry ∈ entries, entry.2.ReadsBack (level + 1)) :
    (Value.obj entries).ReadsBack level := by
  obtain ⟨texts, htexts, hreads⟩ := exists_indentedEntries? hentries
  rw [ReadsBack, indented?, htexts, Option.map_some]
  cases texts with
  | nil =>
      cases hreads
      exact ⟨inBraces "", rfl, isReadFor_empty_obj⟩
  | cons text texts =>
      refine ⟨inBraces (block level (text :: texts)), rfl, ?_⟩
      rw [toList_inBraces_block]
      exact isReadFor_obj hreads (List.cons_ne_nil _ _) hdistinct

/-- The text of an exact value is read for the value, on every level. -/
theorem readsBack {value : Value} (hexact : value.isExact) (level : Nat) :
    value.ReadsBack level := by
  induction value using inductionOn generalizing level with
  | null => exact ⟨_, rfl, isReadFor_null⟩
  | bool value => exact ⟨_, rfl, isReadFor_bool value⟩
  | int n =>
      have htext : integerText? n = some (toString n) := if_pos hexact
      exact ⟨_, htext, isReadFor_int hexact⟩
  | str text => exact ⟨_, rfl, isReadFor_str text⟩
  | arr items ih =>
      apply readsBack_arr
      intro item hitem
      exact ih item hitem ((everywhere_arr.mp hexact).2 item hitem) (level + 1)
  | obj entries ih =>
      obtain ⟨hkeys, hvalues⟩ := everywhere_obj.mp hexact
      apply readsBack_obj (of_decide_eq_true hkeys)
      intro entry hentry
      exact ih entry hentry (hvalues entry hentry) (level + 1)
  | float => cases hexact
  | foreign => cases hexact

theorem isExact_sortKeys {value : Value} (hexact : value.isExact) : value.sortKeys.isExact := by
  induction value using inductionOn with
  | arr items ih =>
      obtain ⟨-, hitems⟩ := everywhere_arr.mp hexact
      rw [sortKeys_arr]
      apply everywhere_arr.mpr
      refine ⟨rfl, ?_⟩
      intro item hitem
      obtain ⟨old, hold, rfl⟩ := List.mem_map.mp hitem
      exact ih old hold (hitems old hold)
  | obj entries ih =>
      obtain ⟨hkeys, hvalues⟩ := everywhere_obj.mp hexact
      have hperm := (entries.map sortEntry).mergeSort_perm keyLe
      have hnodup : (Table.names (entries.map sortEntry)).Nodup := by
        rw [names_map_sortEntry]
        exact of_decide_eq_true hkeys
      rw [sortKeys_obj]
      apply everywhere_obj.mpr
      constructor
      · exact decide_eq_true ((hperm.map Prod.fst).nodup_iff.mpr hnodup)
      · intro entry hentry
        obtain ⟨old, hold, rfl⟩ := List.mem_map.mp (hperm.mem_iff.mp hentry)
        exact ih old hold (hvalues old hold)
  | _ => exact hexact

end Value

/-- A whole text is read if it is read as a part. -/
theorem IsReadFor.read_eq {text : List Char} {value : Value} (hread : IsReadFor text value) :
    read text = .ok value := by
  have hstart : (⟨text, 0⟩ : Cursor).skipBlank = ⟨text, 0⟩ :=
    Cursor.skipBlank_append (List.forall_mem_nil _) hread.1.not_gap 0
  obtain ⟨after, hvalue⟩ := hread.takes (Nat.lt_succ_self _) [] 0 (fun c hc => nomatch hc)
  rw [List.append_nil] at hvalue
  rw [read, if_neg (hread.1.head_ne (by decide))]
  simp only [hstart, hvalue, bind, Except.bind, pure, Except.pure]
  rfl

/-- An exact value is read back from its indented form with its keys sorted. -/
theorem read_pretty? {value : Value} (hexact : value.isExact) :
    ∃ text, value.pretty? = some text ∧ read text.toList = .ok value.sortKeys := by
  obtain ⟨text, htext, hread⟩ := Value.readsBack (Value.isExact_sortKeys hexact) 0
  exact ⟨text, htext, hread.read_eq⟩

end RouteScribe.Json
