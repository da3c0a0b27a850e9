import CallOrigin.Text.CharClass

/-! # Blanks

Spaces, line ends and the separators that count as such. -/

namespace CallOrigin.Text

/-- The code points that are blank: controls that end a line, a field or a file, and the
    spaces of every width. A zero-width space and a byte order mark are not blank. -/
def blankClass : CharClass :=
  [(0x9, 0xD), (0x1C, 0x20), (0x85, 0x85), (0xA0, 0xA0), (0x1680, 0x1680), (0x2000, 0x200A),
   (0x2028, 0x2029), (0x202F, 0x202F), (0x205F, 0x205F), (0x3000, 0x3000)]

def isBlank (c : Char) : Bool :=
  blankClass.contains c

def trimBy (p : Char → Bool) (cs : List Char) : List Char :=
  ((cs.dropWhile p).reverse.dropWhile p).reverse

def strip (text : String) : String :=
  String.ofList (trimBy isBlank text.toList)

end CallOrigin.Text
