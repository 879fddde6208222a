/-!
# Lines

Two notions of a line are in use.  `splitLines` ends a line at every line
boundary of the Unicode standard and yields no empty line after a final
boundary.  `splitNewlines` cuts at line feeds only and keeps an empty last
piece, so that `joinLines` undoes it.
-/

namespace RouteScribe.Text

/-- The characters that end a line on their own. -/
def isLineBreak (c : Char) : Bool :=
  let n := c.toNat
  (0x0A ≤ n && n ≤ 0x0D) || (0x1C ≤ n && n ≤ 0x1E) || n == 0x85 || n == 0x2028 || n == 0x2029

/-- Puts a character in front of the first of some lines. -/
def consLine (c : Char) : List (List Char) → List (List Char)
  | [] => [[c]]
  | line :: lines => (c :: line) :: lines

/-- The lines of a text without their line boundaries.  A carriage return with a
line feed is one boundary. -/
def splitLines : List Char → List (List Char)
  | [] => []
  | '\r' :: '\n' :: rest => [] :: splitLines rest
  | c :: rest => if isLineBreak c then [] :: splitLines rest else consLine c (splitLines rest)

/-- The pieces of a text between the occurrences of one character. -/
def splitOnChar (separator : Char) : List Char → List (List Char)
  | [] => [[]]
  | c :: rest =>
      if c = separator then [] :: splitOnChar separator rest
      else consLine c (splitOnChar separator rest)

/-- The pieces of a text between its line feeds. -/
def splitNewlines (text : List Char) : List (List Char) :=
  splitOnChar '\n' text

/-- Puts one character between pieces. -/
def joinWith (separator : Char) : List (List Char) → List Char
  | [] => []
  | [piece] => piece
  | piece :: pieces => piece ++ separator :: joinWith separator pieces

/-- Puts a line feed between lines. -/
def joinLines (lines : List (List Char)) : List Char :=
  joinWith '\n' lines

/-- Writes every line boundary made with a carriage return as a line feed. -/
def normalizeNewlines : List Char → List Char
  | [] => []
  | '\r' :: '\n' :: rest => '\n' :: normalizeNewlines rest
  | c :: rest => (if c = '\r' then '\n' else c) :: normalizeNewlines rest

theorem splitOnChar_ne_nil (separator : Char) (text : List Char) :
    splitOnChar separator text ≠ [] := by
  cases text with
  | nil => simp [splitOnChar]
  | cons c rest =>
      simp only [splitOnChar]
      split
      · simp
      · cases splitOnChar separator rest <;> simp [consLine]

/-- Joining the pieces of a text gives the text back. -/
theorem joinWith_splitOnChar (separator : Char) (text : List Char) :
    joinWith separator (splitOnChar separator text) = text := by
  induction text with
  | nil => rfl
  | cons c rest ih =>
      simp only [splitOnChar]
      cases hpieces : splitOnChar separator rest with
      | nil => exact absurd hpieces (splitOnChar_ne_nil separator rest)
      | cons piece pieces =>
          rw [hpieces] at ih
          by_cases hc : c = separator
          · simp [hc, joinWith, ih]
          · cases pieces <;> simp_all [joinWith, consLine]

end RouteScribe.Text
