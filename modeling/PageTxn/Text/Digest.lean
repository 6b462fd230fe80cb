import PageTxn.Text.Hex

/-!
Short texts of images.

An image of at most `Digest.longest` bytes is written in full. A longer one is
written as its length and its 64-bit FNV-1a hash, which `Digest.hash` computes.
-/

namespace PageTxn.Digest

/-- The 64-bit FNV-1a hash: every byte is xored in and the hash is then
multiplied by the FNV prime, modulo the word size. -/
def hash (image : Image) : UInt64 :=
  image.foldl (fun hash byte => (hash ^^^ byte.toUInt64) * 0x100000001b3) 0xcbf29ce484222325

/-- The length up to which an image is written in full. -/
def longest : Nat := 64

/-- The short text of an image. -/
def text (image : Image) : String :=
  if image.size ≤ longest then Hex.ofImage image
  else "#" ++ toString image.size ++ ":" ++ Hex.ofWord (hash image)

end PageTxn.Digest
