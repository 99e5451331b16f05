import ReleaseArtifacts.Bytes

namespace ReleaseArtifacts.Checksum

/-!
# Checksums

* `cyclic` — the 32-bit cyclic redundancy check that guards the chunks of an image.
* `adler` — the sum that ends a compressed stream.
-/

/-! ### Cyclic redundancy -/

/-- Divides by the polynomial, one bit further. -/
def cyclicBit (r : UInt32) : UInt32 :=
  if r &&& 1 = 1 then (r >>> 1) ^^^ 0xEDB88320 else r >>> 1

/-- The remainder of one byte. -/
def cyclicByte (b : UInt32) : UInt32 :=
  cyclicBit (cyclicBit (cyclicBit (cyclicBit (cyclicBit (cyclicBit (cyclicBit (cyclicBit b)))))))

/-- The remainders of all bytes. -/
def cyclicTable : Vector UInt32 256 := Vector.ofFn fun b => cyclicByte (UInt32.ofNat b)

/-- The remainder after one more byte. -/
def cyclicStep (r : UInt32) (b : UInt8) : UInt32 :=
  cyclicTable.get ⟨(r.toUInt8 ^^^ b).toNat, UInt8.toNat_lt _⟩ ^^^ (r >>> 8)

/-- The cyclic redundancy check of several bytes. -/
def cyclic (bytes : Bytes) : UInt32 := bytes.foldl cyclicStep 0xFFFFFFFF ^^^ 0xFFFFFFFF

/-! ### Sums -/

/-- The largest prime below 2¹⁶. -/
def adlerPrime : UInt32 := 65521

/-- The two sums after one more byte: of the bytes, and of the sums so far. -/
def adlerStep (sums : UInt32 × UInt32) (b : UInt8) : UInt32 × UInt32 :=
  let low := (sums.1 + b.toUInt32) % adlerPrime
  (low, (sums.2 + low) % adlerPrime)

/-- The sum that ends a compressed stream. -/
def adler (bytes : Bytes) : UInt32 :=
  let sums := bytes.foldl adlerStep (1, 0)
  sums.2 <<< 16 ||| sums.1

end ReleaseArtifacts.Checksum
