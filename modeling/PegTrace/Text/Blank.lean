import PegTrace.Text.CodeRange

/-!
# Blank characters

The characters with the Unicode property `White_Space`: tabs, line ends and the separators, the no-break space
among them. The zero-width space is not blank.
-/

namespace PegTrace.Text

/-- The runs of characters with the property `White_Space`. -/
def blank : RangeTable where
  ranges := [(0x9, 0xD), (0x20, 0x20), (0x85, 0x85), (0xA0, 0xA0), (0x1680, 0x1680), (0x2000, 0x200A),
    (0x2028, 0x2029), (0x202F, 0x202F), (0x205F, 0x205F), (0x3000, 0x3000)]

/-- Whether the character is blank. -/
def isBlank (c : Char) : Bool :=
  blank.contains c

end PegTrace.Text
