import RouteScribe.Proofs.Source.Layout
import RouteScribe.Proofs.Text.Columns
import RouteScribe.Source.Grammar.FormattedText

/-!
# Where a reading stands

A reading stands in a text where it says: behind complete lines and the front of the next
line, whose characters and bytes it counts.  What is left to be read need not be what is left
of the text.  The inside of a string literal ends before the text does, and the expression in
a field of a formatted text is read in parentheses, which stand in the place of a brace and
of the mark that ends the expression.
-/

namespace RouteScribe.Source

open RouteScribe.Text RouteScribe.Text.Utf8

/-! ### Characters in the place of others -/

/-- A character that takes one byte and does not end the line. -/
def IsNarrow (c : Char) : Prop :=
  c ≠ '\n' ∧ c.utf8Size = 1

/-- Characters that stand for those of a text, each for one that takes as many bytes.  They may
end before the text does, and may have a line end of their own. -/
inductive StandsFor : (shown actual : List Char) → Prop where
  | ended (actual : List Char) : StandsFor [] actual
  | lineEnd (actual : List Char) : StandsFor ['\n'] actual
  | newline {shown actual : List Char} (hrest : StandsFor shown actual) :
      StandsFor ('\n' :: shown) ('\n' :: actual)
  | char {c d : Char} {shown actual : List Char} (hc : c ≠ '\n') (hd : d ≠ '\n')
      (hsize : c.utf8Size = d.utf8Size) (hrest : StandsFor shown actual) :
      StandsFor (c :: shown) (d :: actual)

namespace StandsFor

theorem refl (text : List Char) : StandsFor text text := by
  induction text with
  | nil => exact .ended []
  | cons c text ih =>
      by_cases hc : c = '\n'
      · subst hc
        exact .newline ih
      · exact .char hc hc rfl ih

/-- The front of what stands for a text stands for it as well. -/
theorem front {shown more actual : List Char} (hstands : StandsFor (shown ++ more) actual) :
    StandsFor shown actual := by
  induction shown generalizing actual with
  | nil => exact .ended actual
  | cons c shown ih =>
      rw [List.cons_append] at hstands
      generalize hall : shown ++ more = all at hstands
      cases hstands with
      | lineEnd =>
          obtain ⟨rfl, -⟩ := List.append_eq_nil_iff.mp hall
          exact .lineEnd actual
      | newline hrest =>
          subst hall
          exact .newline (ih hrest)
      | char hc hd hsize hrest =>
          subst hall
          exact .char hc hd hsize (ih hrest)

/-- A parenthesis and a line end in the place of a narrow character and of what follows it. -/
theorem close {shown more actual : List Char} {d : Char} (hd : IsNarrow d)
    (hstands : StandsFor (shown ++ d :: more) actual) :
    StandsFor (shown ++ [')', '\n']) actual := by
  induction shown generalizing actual with
  | nil =>
      cases hstands with
      | lineEnd => exact absurd rfl hd.1
      | newline => exact absurd rfl hd.1
      | char _ hother hsize _ =>
          exact .char (by decide) hother (hd.2.symm.trans hsize) (.lineEnd _)
  | cons c shown ih =>
      rw [List.cons_append] at hstands ⊢
      generalize hall : shown ++ d :: more = all at hstands
      cases hstands with
      | lineEnd => simp at hall
      | newline hrest =>
          subst hall
          exact .newline (ih hrest)
      | char hc hother hsize hrest =>
          subst hall
          exact .char hc hother hsize (ih hrest)

end StandsFor

/-! ### Readings -/

/-- A reading stands in a text where it says, if there is anything left to be read. -/
def Reading.StandsIn (text : List Char) (reading : Reading) : Prop :=
  reading.rest = [] ∨ ∃ lines front actual,
    ({ reading with rest := actual } : Reading).IsAfter text lines front ∧
      reading.byte = (encode front).length ∧ StandsFor reading.rest actual

namespace Reading

variable {text : List Char} {reading : Reading}

theorem standsIn_start (text : List Char) : (Reading.mk text 1 0 0).StandsIn text :=
  .inr ⟨[], [], text, ⟨by simp [writeLines], by simp, by simp, rfl, rfl⟩, rfl, .refl text⟩

/-- One character further a reading still stands in the text. -/
theorem StandsIn.advance_one (hstands : reading.StandsIn text) :
    (reading.advance 1).StandsIn text := by
  rcases hstands with hnone | ⟨lines, front, actual, hafter, hbyte, hshown⟩
  · rw [advance_of_nil hnone]
    exact .inl hnone
  · obtain ⟨rest, line, column, byte⟩ := reading
    dsimp only at hafter hbyte hshown
    cases hshown with
    | ended => exact .inl rfl
    | lineEnd => exact .inl rfl
    | newline hrest => exact .inr ⟨_, [], _, hafter.newline rfl, rfl, hrest⟩
    | @char c d shown actual hc hd hsize hrest =>
        have hnext : Reading.advance 1 ⟨c :: shown, line, column, byte⟩ =
            ⟨shown, line, column + 1, byte + c.utf8Size⟩ := by simp [advance]
        rw [hnext]
        refine .inr ⟨lines, front ++ [d], actual, ?_, ?_, hrest⟩
        · have hmoved := hafter.char rfl hd
          simpa [advance, hsize] using hmoved
        · simp [hbyte, hsize, encode]

theorem StandsIn.advance (hstands : reading.StandsIn text) (count : Nat) :
    (reading.advance count).StandsIn text := by
  induction count generalizing reading with
  | zero => exact hstands
  | succ count ih =>
      rw [advance_succ]
      exact ih hstands.advance_one

/-- A part of what is left, if no more than that is to be read. -/
theorem StandsIn.front (hstands : reading.StandsIn text) {shown more : List Char}
    (hrest : reading.rest = shown ++ more) :
    ({ reading with rest := shown } : Reading).StandsIn text := by
  rcases hstands with hnone | ⟨lines, front, actual, hafter, hbyte, hshown⟩
  · exact .inl (List.append_eq_nil_iff.mp (hrest.symm.trans hnone)).1
  · rw [hrest] at hshown
    exact .inr ⟨lines, front, actual, hafter, hbyte, hshown.front⟩

/-- A text in parentheses between two narrow characters stands where it is. -/
theorem StandsIn.parenthesized (hstands : reading.StandsIn text) {c d : Char}
    {written more : List Char} (hrest : reading.rest = c :: (written ++ d :: more))
    (hc : IsNarrow c) (hd : IsNarrow d) : (reading.parenthesized written).StandsIn text := by
  rcases hstands with hnone | ⟨lines, front, actual, hafter, hbyte, hshown⟩
  · cases hrest.symm.trans hnone
  · rw [hrest] at hshown
    refine .inr ⟨lines, front, actual, hafter, hbyte, ?_⟩
    generalize hall : written ++ d :: more = all at hshown
    cases hshown with
    | lineEnd => exact absurd rfl hc.1
    | newline => exact absurd rfl hc.1
    | char _ hother hsize hinside =>
        subst hall
        exact .char (by decide) hother (hc.2.symm.trans hsize) (hinside.close hd)

/-- Narrow characters are counted one by one. -/
theorem advance_narrow {piece rest : List Char} (hrest : reading.rest = piece ++ rest)
    (hpiece : ∀ c ∈ piece, IsNarrow c) :
    reading.advance piece.length =
      ⟨rest, reading.line, reading.column + piece.length, reading.byte + piece.length⟩ := by
  induction piece generalizing reading with
  | nil =>
      obtain ⟨_, line, column, byte⟩ := reading
      cases hrest
      rfl
  | cons c piece ih =>
      rw [List.forall_mem_cons] at hpiece
      have hnext : reading.advance 1 =
          ⟨piece ++ rest, reading.line, reading.column + 1, reading.byte + 1⟩ := by
        simp [advance, hrest, hpiece.1.1, hpiece.1.2]
      rw [List.length_cons, advance_succ, hnext, ih rfl hpiece.2]
      simp only [Reading.mk.injEq, true_and]
      omega

theorem rest_upTo {after : List Char} (hsuffix : after <:+ reading.rest) :
    (reading.upTo after).rest = after := by
  rw [upTo, rest_advance]
  exact (List.suffix_iff_eq_drop.mp hsuffix).symm

theorem StandsIn.upTo (hstands : reading.StandsIn text) (after : List Char) :
    (reading.upTo after).StandsIn text :=
  hstands.advance _

end Reading

/-! ### Fields of formatted texts -/

/-- A run of text goes up to a brace or to the end. -/
theorem literalRun_spec {isRaw inFormat : Bool} {fuel : Nat} {text chars after : List Char}
    (hfuel : text.length < fuel) (hrun : literalRun isRaw inFormat fuel text = (chars, after)) :
    after <:+ text ∧ ∀ c ∈ after.head?, IsNarrow c := by
  induction fuel generalizing text chars with
  | zero => exact absurd hfuel (Nat.not_lt_zero _)
  | succ fuel ih =>
      have hkeep : ∀ {taken rest : List Char}, rest <:+ text → rest.length < text.length →
          (taken ++ (literalRun isRaw inFormat fuel rest).1,
            (literalRun isRaw inFormat fuel rest).2) = (chars, after) →
            after <:+ text ∧ ∀ c ∈ after.head?, IsNarrow c := by
        intro taken rest hsuffix hless hkept
        cases hkept
        obtain ⟨hlast, hnarrow⟩ := ih (by omega) rfl
        exact ⟨hlast.trans hsuffix, hnarrow⟩
      unfold literalRun at hrun
      dsimp only at hrun
      split at hrun
      · cases hrun
        exact ⟨List.suffix_rfl, by simp⟩
      · rename_i rest
        split at hrun
        · exact hkeep (List.suffix_cons _ _) (by simp) hrun
        · split at hrun
          · exact hkeep ((List.drop_suffix _ _).trans (List.suffix_cons _ _)) (by simp) hrun
          · exact hkeep (List.suffix_cons _ _) (by simp) hrun
          · exact hkeep (List.suffix_cons _ _) (by simp) hrun
          · exact hkeep ((List.suffix_cons _ _).trans (List.suffix_cons _ _)) (by simp) hrun
          · exact hkeep (List.suffix_cons _ _) (by simp) hrun
      · rename_i c rest _
        split at hrun
        · rename_i hbrace
          have hnarrow : ∀ d ∈ (c :: rest).head?, IsNarrow d := by
            rintro d ⟨⟩
            rcases hbrace with rfl | rfl <;> exact ⟨by decide, by decide⟩
          split at hrun
          · rename_i second more
            split at hrun
            · exact hkeep ((List.suffix_cons second more).trans (List.suffix_cons _ _)) (by simp)
                hrun
            · cases hrun
              exact ⟨List.suffix_rfl, hnarrow⟩
          · cases hrun
            exact ⟨List.suffix_rfl, hnarrow⟩
        · exact hkeep (List.suffix_cons _ _) (by simp) hrun

theorem isNarrow_of_mark {c : Char} (hmark : c ∈ ['!', ':', '}', '=', '<', '>']) :
    IsNarrow c := by
  simp only [List.mem_cons, List.not_mem_nil, or_false] at hmark
  rcases hmark with rfl | rfl | rfl | rfl | rfl | rfl <;> exact ⟨by decide, by decide⟩

/-- The expression of a field goes up to a mark that ends it. -/
theorem fieldExpression_spec {fuel : Nat} {scan : FieldScan} {text written rest : List Char}
    (hfield : fieldExpression fuel scan text = some (written, rest)) :
    text = written ++ rest ∧ ∃ d more, rest = d :: more ∧ IsNarrow d := by
  induction fuel generalizing scan text written with
  | zero => cases hfield
  | succ fuel ih =>
      have hkeep : ∀ {taken next : List Char} {scan : FieldScan}, text = taken ++ next →
          (fieldExpression fuel scan next).map (Prod.map (taken ++ ·) id) =
            some (written, rest) →
          text = written ++ rest ∧ ∃ d more, rest = d :: more ∧ IsNarrow d := by
        intro taken next scan htext hkept
        obtain ⟨⟨chars, after⟩, hmore, heq⟩ := Option.map_eq_some_iff.mp hkept
        cases heq
        obtain ⟨hnext, hnarrow⟩ := ih hmore
        refine ⟨?_, hnarrow⟩
        rw [htext, hnext, List.append_assoc]
      unfold fieldExpression at hfield
      dsimp only at hfield
      split at hfield
      · cases hfield
      · cases hfield
      · rename_i c next _
        split at hfield
        · split at hfield
          · exact hkeep rfl hfield
          · split at hfield
            · split at hfield
              · split at hfield
                · rename_i hsame
                  obtain ⟨rfl, rfl⟩ := hsame
                  exact hkeep rfl hfield
                · exact hkeep rfl hfield
              · exact hkeep rfl hfield
            · exact hkeep rfl hfield
        · split at hfield
          · split at hfield
            · split at hfield
              · rename_i hsame
                obtain ⟨rfl, rfl⟩ := hsame
                exact hkeep rfl hfield
              · exact hkeep rfl hfield
            · exact hkeep rfl hfield
          · split at hfield
            · exact hkeep rfl hfield
            · split at hfield
              · cases hfield
              · split at hfield
                · rename_i hmark
                  split at hfield
                  · rename_i hsign
                    refine hkeep ?_ hfield
                    obtain ⟨-, hhead⟩ := hsign
                    cases next with
                    | nil => cases hhead
                    | cons second next =>
                        cases hhead
                        rfl
                  · split at hfield
                    · exact hkeep rfl hfield
                    · cases hfield
                      exact ⟨rfl, c, next, rfl, isNarrow_of_mark hmark.2⟩
                · split at hfield
                  · split at hfield
                    · split at hfield
                      · exact hkeep rfl hfield
                      · cases hfield
                    · cases hfield
                  · exact hkeep rfl hfield

theorem readingsOfPieces_append (pieces others : List FormatPiece) :
    readingsOfPieces (pieces ++ others) = readingsOfPieces pieces ++ readingsOfPieces others := by
  induction pieces with
  | nil => rfl
  | cons piece pieces ih => simp [readingsOfPieces, ih]

/-- With its expression and its format a field adds only readings that stand in the text. -/
theorem standIn_of_field {text shown : List Char} {before others : List FormatPiece}
    {value : Reading} {conversion : Option Char} {format : Option (List FormatPiece)}
    (hbefore : readingsOfPieces before = []) (hvalue : value.StandsIn text)
    (hformat : ∀ reading ∈ readingsOfFormat format, reading.StandsIn text)
    (hothers : ∀ reading ∈ readingsOfPieces others, reading.StandsIn text) :
    ∀ reading ∈ readingsOfPieces (before ++ .field value shown conversion format :: others),
      reading.StandsIn text := by
  rw [readingsOfPieces_append, hbefore, List.nil_append, readingsOfPieces, FormatPiece.readings,
    List.forall_mem_append, List.forall_mem_cons]
  exact ⟨⟨hvalue, hformat⟩, hothers⟩

/-- The expressions in the fields of a formatted text stand where they are. -/
theorem formatPieces_standIn {text : List Char} {isRaw : Bool} {fuel level : Nat}
    {body last : Reading} {pieces : List FormatPiece} (hbody : body.StandsIn text)
    (hpieces : formatPieces? isRaw fuel level body = some (pieces, last)) :
    (∀ reading ∈ readingsOfPieces pieces, reading.StandsIn text) ∧ last.StandsIn text := by
  induction fuel generalizing level body last pieces with
  | zero => cases hpieces
  | succ fuel ih =>
      unfold formatPieces? at hpieces
      cases hrun : literalRun isRaw (0 < level) (body.rest.length + 1) body.rest with
      | mk chars after =>
          obtain ⟨hsuffix, hnarrow⟩ := literalRun_spec (Nat.lt_succ_self _) hrun
          have hbrace := hbody.upTo after
          have hrest := Reading.rest_upTo hsuffix
          have hbefore : readingsOfPieces
              (if chars.isEmpty then [] else [FormatPiece.text chars]) = [] := by
            split <;> rfl
          rw [hrun] at hpieces
          dsimp only at hpieces
          split at hpieces
          · cases hpieces
            rw [hbefore]
            exact ⟨List.forall_mem_nil _, hbrace⟩
          · split at hpieces
            · cases hpieces
            · cases hpieces
              rw [hbefore]
              exact ⟨List.forall_mem_nil _, hbrace⟩
          · rename_i c inside _
            split at hpieces
            · cases hpieces
            · obtain ⟨⟨written, rest⟩, hfield, hpieces⟩ := Option.bind_eq_some_iff.mp hpieces
              obtain ⟨hinside, d, more, rfl, hd⟩ := fieldExpression_spec hfield
              have hvalue : ((body.upTo (c :: inside)).parenthesized written).StandsIn text :=
                hbrace.parenthesized (hrest.trans (congrArg _ hinside)) (hnarrow c rfl) hd
              dsimp only at hpieces
              split at hpieces
              · cases hpieces
              · obtain ⟨⟨conversion, left⟩, -, hpieces⟩ := Option.bind_eq_some_iff.mp hpieces
                have hmark := hbrace.upTo left
                dsimp only at hpieces
                split at hpieces
                · obtain ⟨⟨format, middle⟩, hformat, hpieces⟩ := Option.bind_eq_some_iff.mp hpieces
                  obtain ⟨⟨inner, _⟩, hinner, heq⟩ := Option.map_eq_some_iff.mp hformat
                  cases heq
                  have hparts : (∀ reading ∈ readingsOfFormat (some inner),
                      reading.StandsIn text) ∧ _ := ih (hmark.advance 1) hinner
                  dsimp only at hpieces
                  split at hpieces
                  · obtain ⟨⟨others, _⟩, hothers, heq⟩ := Option.bind_eq_some_iff.mp hpieces
                    cases heq
                    obtain ⟨hothers, hlast⟩ := ih (hparts.2.advance 1) hothers
                    exact ⟨standIn_of_field hbefore hvalue hparts.1 hothers, hlast⟩
                  · cases hpieces
                · obtain ⟨_, heq, hpieces⟩ := Option.bind_eq_some_iff.mp hpieces
                  cases heq
                  dsimp only at hpieces
                  split at hpieces
                  · obtain ⟨⟨others, _⟩, hothers, heq⟩ := Option.bind_eq_some_iff.mp hpieces
                    cases heq
                    obtain ⟨hothers, hlast⟩ := ih (hmark.advance 1) hothers
                    exact ⟨standIn_of_field hbefore hvalue (List.forall_mem_nil _) hothers, hlast⟩
                  · cases hpieces

/-- The readings of all fields stand in the text where the literal does. -/
theorem PlacedString.readings_standIn {text : List Char} {placed : PlacedString}
    (hinside : placed.inside.StandsIn text) {pieces : List FormatPiece}
    (hpieces : placed.pieces? = some pieces) :
    ∀ reading ∈ readingsOfPieces pieces, reading.StandsIn text := by
  unfold PlacedString.pieces? at hpieces
  split at hpieces
  · obtain ⟨⟨found, last⟩, hfound, heq⟩ := Option.map_eq_some_iff.mp hpieces
    cases heq
    exact (formatPieces_standIn hinside hfound).1
  · cases hpieces
    exact List.forall_mem_nil _

end RouteScribe.Source
