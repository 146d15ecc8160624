/-!
UTF-16 code units and their bytes in either order.
-/

namespace Triage.Utf16

inductive Order
  | little
  | big
deriving DecidableEq, Repr

/-- One unit for a character of the basic plane, a surrogate pair for any other. -/
def units (c : Char) : List Nat :=
  if c.toNat < 0x10000 then [c.toNat]
  else [0xD800 + (c.toNat - 0x10000) / 0x400, 0xDC00 + (c.toNat - 0x10000) % 0x400]

def unitBytes (order : Order) (unit : Nat) : List UInt8 :=
  match order with
  | .little => [(unit % 256).toUInt8, (unit / 256).toUInt8]
  | .big => [(unit / 256).toUInt8, (unit % 256).toUInt8]

def encode (order : Order) (text : List Char) : List UInt8 :=
  text.flatMap fun c => (units c).flatMap (unitBytes order)

end Triage.Utf16
