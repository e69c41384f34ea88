import FormatterConfig.Text.Ranges

set_option autoImplicit false

/-! # White space

The white space of the character database (version 14.0) together with the four information
separators `U+001C` to `U+001F`, and the removal of such characters from both ends of a text. -/

namespace FormatterConfig.Text

/-- White space, in ascending order. -/
def blankRanges : Ranges := [
    (9, 13), (28, 32), (133, 133), (160, 160), (5760, 5760), (8192, 8202), (8232, 8233),
    (8239, 8239), (8287, 8287), (12288, 12288)]

/-- Whether a character is white space. -/
def isBlank (c : Char) : Bool := blankRanges.has c

/-- A text without the white space at its two ends. -/
def trimBlanks (cs : List Char) : List Char :=
  ((cs.dropWhile isBlank).reverse.dropWhile isBlank).reverse

end FormatterConfig.Text
