import AuditTrail.Text.CharRanges

/-!
# Blank characters

The characters with the Unicode property `White_Space`, and the removal of them from both ends of
a text.
-/

namespace AuditTrail.Text

/-- The code points with the property `White_Space`. -/
def blanks : CharRanges := [
  (0x9, 0xd), (0x20, 0x20), (0x85, 0x85), (0xa0, 0xa0), (0x1680, 0x1680), (0x2000, 0x200a),
  (0x2028, 0x2029), (0x202f, 0x202f), (0x205f, 0x205f), (0x3000, 0x3000)]

/-- A character counts as blank when it has the property `White_Space`. -/
def isBlank (c : Char) : Bool :=
  blanks.contains c

/-- The text without the blanks at its two ends. -/
def trim (s : String) : String :=
  String.ofList ((s.toList.dropWhile isBlank).reverse.dropWhile isBlank).reverse

end AuditTrail.Text
