import ReleaseArtifacts.Checksum

namespace ReleaseArtifacts.Deflate

/-!
# Streams of stored blocks

The plainest compressed stream holds every byte as it is, in blocks of limited length.

* `storedBlocks` — the blocks.
* `storedStream` — the stream: a header, the blocks, and the sum of the bytes.
-/

/-- The greatest length of a stored block. -/
def blockLimit : Nat := 65535

/-- A number below 2¹⁶ as two bytes, the lower one first. -/
def pairOf (n : Nat) : Bytes := [UInt8.ofNat n, UInt8.ofNat (n / 256)]

/-- One block: whether it is the final one, its length, the length inverted, and the bytes. -/
def storedBlock (final : Bool) (bytes : Bytes) : Bytes :=
  (if final then 1 else 0) ::
    (pairOf bytes.length ++ pairOf (blockLimit - bytes.length) ++ bytes)

/-- Blocks that hold all bytes, the last one marked as final. -/
def storedBlocks (bytes : Bytes) : Bytes :=
  if _h : bytes.length ≤ blockLimit then storedBlock true bytes
  else
    storedBlock false (bytes.take blockLimit) ++ storedBlocks (bytes.drop blockLimit)
termination_by bytes.length
decreasing_by simp only [List.length_drop, blockLimit] at *; omega

/-- The stream that holds all bytes. -/
def storedStream (bytes : Bytes) : Bytes :=
  0x78 :: 0x01 :: (storedBlocks bytes ++ Bytes.word (Checksum.adler bytes).toNat)

end ReleaseArtifacts.Deflate
