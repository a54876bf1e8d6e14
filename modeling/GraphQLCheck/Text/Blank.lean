/-!
# White space

The characters with the `White_Space` property of Unicode, and the functions on texts that look for
them: the blanks at the front of a line (`leadingBlanks`), lines that hold nothing else (`isBlank`)
and the text between the blanks at both ends (`trim`).
-/

namespace GraphQLCheck.Text

/-- The `White_Space` property of Unicode. -/
def isWhite (c : Char) : Bool :=
  let n := c.toNat
  (9 ≤ n && n ≤ 13) || n == 0x20 || n == 0x85 || n == 0xA0 || n == 0x1680 ||
    (0x2000 ≤ n && n ≤ 0x200A) || n == 0x2028 || n == 0x2029 || n == 0x202F || n == 0x205F ||
    n == 0x3000

/-- Whether a line has only white space. -/
def isBlank (line : List Char) : Bool := line.all isWhite

/-- The white space at the front of a line. -/
def leadingBlanks (line : List Char) : List Char := line.takeWhile isWhite

/-- The text without the white space at its front and at its end. -/
def trim (text : String) : String :=
  String.ofList ((text.toList.dropWhile isWhite).reverse.dropWhile isWhite).reverse

end GraphQLCheck.Text
