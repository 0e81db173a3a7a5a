/-!
# Checksums

The cyclic redundancy check of 32 bits, with the reflected polynomial `EDB88320`, by which archives
tell damaged data.
-/

namespace TypeDiscovery.Archive

/-- One bit's step of the division by the polynomial. -/
def divideBit (n : UInt32) : UInt32 :=
  if n &&& 1 = 1 then (n >>> 1) ^^^ 0xEDB88320 else n >>> 1

/-- The remainders of the single bytes. -/
def byteRemainders : Array UInt32 :=
  (Array.range 256).map fun n => Nat.repeat divideBit 8 n.toUInt32

def updateChecksum (n : UInt32) (b : UInt8) : UInt32 :=
  byteRemainders[((n ^^^ b.toUInt32) &&& 0xFF).toNat]?.getD 0 ^^^ (n >>> 8)

/-- The table spares the divisions and changes nothing. -/
theorem updateChecksum_eq (n : UInt32) (b : UInt8) : updateChecksum n b =
    Nat.repeat divideBit 8 ((n ^^^ b.toUInt32) &&& 0xFF).toNat.toUInt32 ^^^ (n >>> 8) := by
  have hlow : ((n ^^^ b.toUInt32) &&& 0xFF).toNat < 256 := by
    rw [UInt32.toNat_and]
    exact Nat.and_lt_two_pow _ (n := 8) (by decide)
  rw [updateChecksum, byteRemainders, Array.getElem?_map, Array.getElem?_range, if_pos hlow]
  rfl

def checksum (bytes : List UInt8) : UInt32 :=
  bytes.foldl updateChecksum 0xFFFFFFFF ^^^ 0xFFFFFFFF

/-- The checksum by divisions only. -/
theorem checksum_eq (bytes : List UInt8) : checksum bytes =
    bytes.foldl (fun (n : UInt32) (b : UInt8) => Nat.repeat divideBit 8
      ((n ^^^ b.toUInt32) &&& 0xFF).toNat.toUInt32 ^^^ (n >>> 8)) 0xFFFFFFFF ^^^ 0xFFFFFFFF := by
  rw [checksum, ← funext fun n => funext (updateChecksum_eq n)]

end TypeDiscovery.Archive
