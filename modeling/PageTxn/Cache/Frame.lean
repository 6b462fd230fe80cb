import PageTxn.Image

/-!
Frames: page objects in memory.

A `Frame` holds the live image of a page, the before-image to which an abort
returns, and the transaction whose changes are not yet written. The two images
have the same length throughout (`Frame.same_size`), so that returning to the
before-image is always possible.
-/

namespace PageTxn

/-- A page object in memory. -/
structure Frame where
  page : PageId
  /-- The image that readers and writers work on. -/
  live : Image
  /-- The image that an abort returns to. -/
  before : Image
  /-- The transaction with unwritten changes, if there is one. -/
  owner : Option TxnId
  same_size : before.size = live.size
  deriving DecidableEq

namespace Frame

/-- A clean page object; its before-image equals its image. -/
def ofImage (page : PageId) (image : Image) : Frame := ⟨page, image, image, none, rfl⟩

instance : Inhabited Frame := ⟨ofImage ⟨⟨0⟩, 0⟩ #[]⟩

/-- Whether some transaction has unwritten changes on the page. -/
def isDirty (frame : Frame) : Bool := frame.owner.isSome

/-- Let `txn` own the unwritten changes. -/
def mark (frame : Frame) (txn : TxnId) : Frame := { frame with owner := some txn }

/-- There are no unwritten changes any more. -/
def clean (frame : Frame) : Frame := { frame with owner := none }

/-- Take over an image of the same length. -/
def copyFrom? (frame : Frame) (image : Image) : Except Fault Frame :=
  if h : image.size = frame.live.size then
    .ok { frame with live := image, same_size := frame.same_size.trans h.symm }
  else .error .lengthMismatch

/-- Overwrite some bytes of the live image. -/
def poke? (frame : Frame) (start : Nat) (bytes : Image) : Except Fault Frame := do
  frame.copyFrom? (← frame.live.overwrite? start bytes)

/-- Let the live image be the new before-image. -/
def refresh (frame : Frame) : Frame := { frame with before := frame.live, same_size := rfl }

/-- Return to the before-image; there are no unwritten changes any more. -/
def restore (frame : Frame) : Frame :=
  { frame with live := frame.before, owner := none, same_size := rfl }

/-- An image of the same length is taken over, and nothing else changes. -/
theorem copyFrom?_of_size {frame : Frame} {image : Image}
    (h : image.size = frame.live.size) :
    frame.copyFrom? image =
      .ok { frame with live := image, same_size := frame.same_size.trans h.symm } := by
  simp [copyFrom?, h]

end Frame

end PageTxn
