/-!
# Blank characters and trimming

The blank characters are those with the Unicode property of white space,
together with the four information separators.  Trimming removes a maximal run
of them from one or both ends of a text.
-/

namespace RouteScribe.Text

/-- White space, counting the information separators `U+001C` to `U+001F`. -/
def isBlank (c : Char) : Bool :=
  let n := c.toNat
  (0x09 ≤ n && n ≤ 0x0D) || (0x1C ≤ n && n ≤ 0x20) || n == 0x85 || n == 0xA0 ||
    n == 0x1680 || (0x2000 ≤ n && n ≤ 0x200A) || n == 0x2028 || n == 0x2029 ||
    n == 0x202F || n == 0x205F || n == 0x3000

/-- Removes the longest run at the end of a list whose members satisfy `drop`. -/
def dropEndWhile {α : Type} (drop : α → Bool) (items : List α) : List α :=
  (items.reverse.dropWhile drop).reverse

def trimStart (text : List Char) : List Char :=
  text.dropWhile isBlank

def trimEnd (text : List Char) : List Char :=
  dropEndWhile isBlank text

/-- Removes the blank characters at both ends. -/
def trim (text : List Char) : List Char :=
  trimEnd (trimStart text)

/-- Applies a function on characters to a string. -/
def onString (f : List Char → List Char) (text : String) : String :=
  .ofList (f text.toList)

/-- A string without the blank characters at both ends. -/
def trimString (text : String) : String :=
  onString trim text

/-- Whether a text holds nothing but blank characters. -/
def isBlankText (text : List Char) : Bool :=
  text.all isBlank

/-- The first maximal run of characters that are not blank, and what follows the
blank characters after it.  Blank characters at the start are passed over. -/
def firstWord (text : List Char) : List Char × List Char :=
  let start := trimStart text
  (start.takeWhile (!isBlank ·), trimStart (start.dropWhile (!isBlank ·)))

@[simp] theorem toList_onString (f : List Char → List Char) (text : String) :
    (onString f text).toList = f text.toList := by
  simp [onString]

end RouteScribe.Text
