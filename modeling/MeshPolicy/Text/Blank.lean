/-! # White space at the ends of a text

* `isBlank`: the characters of Unicode's white-space property.
* `trim`: a text without the blanks at its two ends.
* `sameIgnoringCase`: equality of two texts up to the case of ASCII letters.
-/

namespace MeshPolicy.Text
set_option autoImplicit false

/-- The white-space characters: tab to carriage return, space, next line, no-break space, and the
wider spaces and separators. -/
def blankRanges : List (Nat × Nat) :=
  [(0x9, 0xd), (0x20, 0x20), (0x85, 0x85), (0xa0, 0xa0), (0x1680, 0x1680), (0x2000, 0x200a),
    (0x2028, 0x2029), (0x202f, 0x202f), (0x205f, 0x205f), (0x3000, 0x3000)]

def isBlank (c : Char) : Bool :=
  blankRanges.any fun range => range.1 ≤ c.toNat && c.toNat ≤ range.2

def trimFront (cs : List Char) : List Char := cs.dropWhile isBlank

def trim (s : String) : String := .ofList (trimFront (trimFront s.toList).reverse).reverse

/-- Equality up to the case of ASCII letters; all other characters stand for themselves. -/
def sameIgnoringCase (s t : String) : Bool := s.toList.map Char.toLower == t.toList.map Char.toLower

end MeshPolicy.Text
