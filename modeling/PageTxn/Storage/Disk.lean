import PageTxn.Image
import PageTxn.Storage.Path

/-!
The disk: files and directories at their places.

* `Disk.enter` goes through directories that exist, and `Disk.find` tells what a
  path leads to.
* `Disk.create` makes a file in a directory that exists, and `Disk.openFile`
  finds a file that exists; both tell its place. Whoever has opened a file keeps
  its place and sees what is written to the file later, whatever path was used.
* `Disk.put` and `Disk.makeDirectory` change the disk from outside.
-/

namespace PageTxn

/-- What stands at a place. -/
inductive DiskEntry where
  | file (bytes : Image)
  | directory
  deriving DecidableEq

/-- Files and directories below the root. -/
structure Disk where
  entries : Std.ExtTreeMap Location DiskEntry

namespace Disk

/-- Nothing is stored. -/
def empty : Disk := ⟨∅⟩

instance : Inhabited Disk := ⟨empty⟩

/-! ### Places -/

/-- What stands at a place, if anything does. The root and what is above it are
directories. -/
def entry? (disk : Disk) (place : Location) : Option DiskEntry :=
  if place.isOuter then some .directory else disk.entries[place]?

/-- The bytes of the file at a place, `none` if there is no file. -/
def bytes? (disk : Disk) (place : Location) : Option Image :=
  match disk.entries[place]? with
  | some (.file bytes) => some bytes
  | _ => none

/-- The bytes of a file that is known to exist. -/
def bytes (disk : Disk) (place : Location) : Image := (disk.bytes? place).getD #[]

/-- Replace the bytes of a file. -/
def setBytes (disk : Disk) (place : Location) (bytes : Image) : Disk :=
  ⟨disk.entries.insert place (.file bytes)⟩

/-- What is written to a file is what the file holds; other files keep their
bytes. -/
theorem bytes_setBytes (disk : Disk) (place other : Location) (bytes : Image) :
    (disk.setBytes place bytes).bytes other =
      if place = other then bytes else disk.bytes other := by
  unfold Disk.bytes bytes? setBytes
  rw [Std.ExtTreeMap.getElem?_insert]
  by_cases h : place = other <;> simp [h]

/-! ### Paths -/

/-- Go from a directory through directories that exist. -/
def enter (disk : Disk) (directory : Location) : List String → Except IoCause Location
  | [] => .ok directory
  | name :: rest =>
      let place := directory.step name
      match disk.entry? place with
      | some .directory => disk.enter place rest
      | some (.file _) => .error .notDirectory
      | none => .error .notFound

/-- The place that a path means, in a directory that exists. -/
def locate (disk : Disk) (path : DiskPath) : Except IoCause Location :=
  (disk.enter .root path.way).map fun directory => directory.step path.last

/-- What a path leads to, and its place. -/
def find (disk : Disk) (path : DiskPath) : Except IoCause (Location × DiskEntry) := do
  let place ← disk.locate path
  match disk.entry? place with
  | some .directory => pure (place, .directory)
  | some (.file bytes) =>
      if path.closed then throw .notDirectory else pure (place, .file bytes)
  | none => throw .notFound

/-- Whether a path leads to anything. -/
def contains (disk : Disk) (path : DiskPath) : Bool := (disk.find path).toOption.isSome

/-- Create an empty file where nothing stands. -/
def create (disk : Disk) (path : DiskPath) : Except IoCause (Location × Disk) := do
  let place ← disk.locate path
  if path.closed then throw .isDirectory
  match disk.entry? place with
  | some _ => throw .alreadyExists
  | none => pure (place, disk.setBytes place #[])

/-- Find an existing file. -/
def openFile (disk : Disk) (path : DiskPath) : Except IoCause Location := do
  match ← disk.find path with
  | (place, .file _) => pure place
  | (_, .directory) => throw .isDirectory

/-! ### Changes from outside -/

/-- The bytes of the file that a path leads to, `none` if it leads to none. -/
def fileAt? (disk : Disk) (path : DiskPath) : Option Image :=
  match disk.find path with
  | .ok (_, .file bytes) => some bytes
  | _ => none

/-- Write a file as a whole: an existing file keeps its place, a new one is
created. Nothing happens where no file can stand. -/
def put (disk : Disk) (path : DiskPath) (bytes : Image) : Disk :=
  match disk.openFile path with
  | .ok place => disk.setBytes place bytes
  | .error _ =>
      match disk.create path with
      | .ok (place, disk) => disk.setBytes place bytes
      | .error _ => disk

/-- Make the directories on a way that do not exist, up to a file that bars it. -/
def makeWay (disk : Disk) (directory : Location) : List String → Disk
  | [] => disk
  | name :: rest =>
      let place := directory.step name
      match disk.entry? place with
      | some .directory => disk.makeWay place rest
      | some (.file _) => disk
      | none => makeWay ⟨disk.entries.insert place .directory⟩ place rest

/-- Make a directory and those that it stands in, unless they exist. -/
def makeDirectory (disk : Disk) (path : DiskPath) : Disk :=
  disk.makeWay .root (path.way ++ [path.last])

end Disk

end PageTxn
