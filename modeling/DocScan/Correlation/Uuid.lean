import DocScan.Text.Basic

/-!
# Random identifiers

The text of a random identifier: sixteen octets in hexadecimal, cut into five groups, with two
places that tell how it was made.
-/

namespace DocScan.Uuid

/-- The octets with the version, four, and the variant written into them. -/
def stamped (octets : List UInt8) : List UInt8 :=
  (octets.modify 6 fun octet => octet % 16 + 64).modify 8 fun octet => octet % 64 + 128

def groupSizes : List Nat := [4, 2, 2, 2, 6]

def cut : List Nat → List UInt8 → List (List UInt8)
  | [], _ => []
  | size :: sizes, octets => octets.take size :: cut sizes (octets.drop size)

def text (octets : List UInt8) : Text :=
  Text.join ['-'] ((cut groupSizes (stamped octets)).map fun group =>
    group.flatMap fun octet => Text.hex 2 octet.toNat)

end DocScan.Uuid
