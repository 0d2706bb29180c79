import RelayTunnel.Ascii

/-!
# White space of Unicode

The characters with the `White_Space` property, and trimming them off a text. The set is
larger than ASCII white space: it holds the next-line and no-break characters, the spaces of
the general punctuation block and the ideographic space.
-/

set_option autoImplicit false

namespace RelayTunnel.Text

def isBlank (c : Char) : Bool :=
  let n := c.toNat
  (0x09 ≤ n && n ≤ 0x0D) || n == 0x20 || n == 0x85 || n == 0xA0 || n == 0x1680
    || (0x2000 ≤ n && n ≤ 0x200A) || n == 0x2028 || n == 0x2029 || n == 0x202F
    || n == 0x205F || n == 0x3000

def trim (cs : List Char) : List Char := trimBoth isBlank cs

/-- Drops white space from both ends of a string. -/
def trimString (s : String) : String := String.ofList (trim s.toList)

end RelayTunnel.Text
