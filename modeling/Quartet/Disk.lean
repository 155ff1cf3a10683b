import Quartet.Text.Blank

namespace Quartet

/-!
# The disk

Files are kept in a tree of directories.  Besides files and directories the tree may hold two
devices, one that is always full and one that swallows everything.

* `Disk.read`, `Disk.readText` — the content of a file.
* `Disk.create` — a file made empty, ready for writing.
* `Disk.write` — bytes written from the start of a file.
* `DiskError` — why one of these fails.
-/

/-- Why a file cannot be read or written. -/
inductive DiskError where
  | noEntry
  | notDirectory
  | isDirectory
  | noSpace
  /-- A path, or one of its parts, has too many bytes. -/
  | nameTooLong
  /-- A path holds the character that would end it. -/
  | invalidName
  | outOfMemory
  /-- The bytes of a file are not text. -/
  | invalidText
deriving DecidableEq

/-- The text of a disk error. -/
def DiskError.message : DiskError → String
  | noEntry => "No such file or directory (os error 2)"
  | notDirectory => "Not a directory (os error 20)"
  | isDirectory => "Is a directory (os error 21)"
  | noSpace => "No space left on device (os error 28)"
  | nameTooLong => "File name too long (os error 36)"
  | invalidName => "file name contained an unexpected NUL byte"
  | outOfMemory => "out of memory"
  | invalidText => "stream did not contain valid UTF-8"

/-- Contents are compared as the core library compares them, whatever else is imported. -/
instance (priority := 2000) decidableEqContent : DecidableEq ByteArray := ByteArray.instDecidableEq

/-- An entry of a directory. -/
inductive Node where
  | file (bytes : ByteArray)
  | directory
  /-- The device that gives zeros without end and refuses every byte. -/
  | full
  /-- The device that holds nothing, takes every byte and keeps none. -/
  | null
deriving DecidableEq

namespace Node

/-- Whether an entry holds others. -/
def isDirectory : Node → Bool
  | directory => true
  | file _ | full | null => false

/-- The content of an entry, read to its end. -/
def content : Node → Except DiskError ByteArray
  | file bytes => .ok bytes
  | directory => .error .isDirectory
  | full => .error .outOfMemory
  | null => .ok ByteArray.empty

end Node

/-- The place of an entry in the tree: its name, the name of the directory that holds it, and
    so on up to the root, which is the empty list. -/
abbrev Location := List String

/-- A tree of entries, and the working directory. -/
structure Disk where
  /-- The place of the working directory. -/
  home : Location
  /-- The entries by place, each place once. -/
  entries : List (Location × Node)
deriving DecidableEq

namespace Disk

/-! ### Entries -/

/-- The entry at a place.  The root is a directory. -/
def node? (disk : Disk) : Location → Option Node
  | [] => some .directory
  | location => disk.entries.lookup location

/-- The disk with an entry put at a place, instead of the one that was there. -/
def put (disk : Disk) (location : Location) (node : Node) : Disk :=
  if (disk.entries.lookup location).isSome then
    { disk with
      entries := disk.entries.map fun entry =>
        if entry.1 = location then (location, node) else entry }
  else
    { disk with entries := disk.entries ++ [(location, node)] }

/-! ### Paths -/

/-- Whether a part of a path names an entry, and not a directory relative to another. -/
def isName (part : String) : Bool := part ≠ "" && part ≠ "." && part ≠ ".."

/-- The place that one part of a path names, seen from a directory. -/
def next (directory : Location) (part : String) : Location :=
  if isName part then part :: directory
  else if part = ".." then directory.tail
  else directory

/-- The bytes that a part of a path may have. -/
def partLimit : Nat := 255

/-- The bytes that a path may have. -/
def pathLimit : Nat := 4095

/-- What a look at a place finds, if anything.  A name that is too long is looked for nowhere. -/
def look (disk : Disk) (location : Location) : Except DiskError (Option Node) :=
  if location.any (partLimit < ·.utf8ByteSize) then .error .nameTooLong
  else .ok (disk.node? location)

/-- The directory that one part of a path leads to. -/
def enter (disk : Disk) (directory : Location) (part : String) : Except DiskError Location := do
  match ← disk.look (next directory part) with
  | some .directory => .ok (next directory part)
  | some _ => .error .notDirectory
  | none => .error .noEntry

/-- The parts of a path, between its slashes. -/
def parts (path : String) : List String :=
  (Text.pieces (· == '/') path.toList).map String.ofList

/-- Whether a path starts at the root and not at the working directory. -/
def isRooted (path : String) : Bool := path.toList.head? = some '/'

/-- Whether a path ends in a slash, so that it can only name a directory. -/
def endsInSlash (path : String) : Bool := path.toList.getLast? = some '/'

/-- The place that a path leads to.  Every part but the last has to lead to a directory; the
    last need not lead to anything.  Slashes at the end do not count, and a path of slashes
    alone leads to the root. -/
def locate (disk : Disk) (path : String) : Except DiskError Location :=
  if path.toList.contains '\x00' then .error .invalidName
  else if path = "" then .error .noEntry
  else if pathLimit < path.utf8ByteSize then .error .nameTooLong
  else
    let start := if isRooted path then [] else disk.home
    let named := ((parts path).reverse.dropWhile (· = "")).reverse
    match named.getLast? with
    | none => .ok start
    | some last => do return next (← named.dropLast.foldlM disk.enter start) last

/-! ### Reading and writing -/

/-- The content of a file. -/
def read (disk : Disk) (path : String) : Except DiskError ByteArray := do
  match ← disk.look (← disk.locate path) with
  | none => .error .noEntry
  | some node =>
    if endsInSlash path && !node.isDirectory then .error .notDirectory else node.content

/-- The content of a file as text. -/
def readText (disk : Disk) (path : String) : Except DiskError String := do
  match String.fromUTF8? (← disk.read path) with
  | some text => .ok text
  | none => .error .invalidText

/-- Makes a file empty, whether it exists or not, and tells its place.  A path that ends in a
    slash can only name a directory. -/
def create (disk : Disk) (path : String) : Except DiskError (Disk × Location) := do
  let location ← disk.locate path
  if endsInSlash path then .error .isDirectory
  else
    match ← disk.look location with
    | some .directory => .error .isDirectory
    | some .full | some .null => .ok (disk, location)
    | some (.file _) | none => .ok (disk.put location (.file ByteArray.empty), location)

/-- Writes bytes to a file from its start; what lies past them stays as it was. -/
def write (disk : Disk) (location : Location) (bytes : ByteArray) : Except DiskError Disk :=
  match disk.node? location with
  | some (.file old) =>
    .ok (disk.put location (.file (bytes ++ old.extract bytes.size old.size)))
  | some .full => if bytes.isEmpty then .ok disk else .error .noSpace
  | some .directory | some .null | none => .ok disk

end Disk

end Quartet
