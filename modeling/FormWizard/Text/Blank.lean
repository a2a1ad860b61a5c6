/-! Blank characters, and texts without the blanks around them. -/

namespace FormWizard.Text

/-- The characters with the Unicode property White_Space. -/
def isBlank (c : Char) : Bool :=
  let n := c.toNat
  (9 ≤ n && n ≤ 13) || n == 0x20 || n == 0x85 || n == 0xA0 || n == 0x1680
    || (0x2000 ≤ n && n ≤ 0x200A) || n == 0x2028 || n == 0x2029 || n == 0x202F
    || n == 0x205F || n == 0x3000

/-- The characters without the blanks at both ends. -/
def trim (chars : List Char) : List Char :=
  ((chars.dropWhile isBlank).reverse.dropWhile isBlank).reverse

/-- The text without the blanks at both ends. -/
def trimmed (text : String) : String :=
  String.ofList (trim text.toList)

/-- The maximal runs of characters that are not blank. -/
def words (chars : List Char) : List (List Char) :=
  (chars.splitBy (fun left right => isBlank left == isBlank right)).filter
    fun run => !run.all isBlank

end FormWizard.Text
