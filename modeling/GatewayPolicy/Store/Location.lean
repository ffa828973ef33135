import GatewayPolicy.Store.Choice
import GatewayPolicy.Store.FileUrl
import GatewayPolicy.Text.Scanner

/-!
# Where a database is kept

A path names a file, which may be written as a file url with options, or asks
for a database in memory.  A database in memory is fresh and private, unless
the options share it: then all who name it alike use the same one while
somebody has it open.

The options choose a mode, a layer through which files are reached, and what
is assumed of the file.
-/

set_option autoImplicit false

namespace GatewayPolicy

/-! ## Modes -/

inductive OpenMode where
  | readOnly
  | readWrite
  | createMissing
  | memory
  deriving DecidableEq, Repr

namespace OpenMode

def ofName? (name : List UInt8) : Option OpenMode :=
  [("ro", readOnly), ("rw", readWrite), ("rwc", createMissing),
    ("memory", memory)].findSome? fun entry =>
      if Text.utf8 entry.1 == name then some entry.2 else none

/-- How much a mode asks of the mode before it.  A database in memory asks for
nothing. -/
def demand : OpenMode → Nat
  | memory => 0
  | readOnly => 1
  | readWrite => 2
  | createMissing => 3

def grant : OpenMode → Nat
  | readOnly => 1
  | readWrite => 2
  | createMissing => 3
  | memory => 4

/-- A mode replaces the one before it, within what that grants. -/
def replace? (current next : OpenMode) : Option OpenMode :=
  if next.demand ≤ current.grant then some next else none

/-- The mode that all named modes lead to, starting from the widest on
files. -/
def ofNames? (names : List (List UInt8)) : Option OpenMode :=
  names.foldlM
    (fun current name => (ofName? name).bind (replace? current)) createMissing

end OpenMode

/-! ## Layers -/

/-- The layers that reach files on disk; they differ in how they lock. -/
def diskLayers : List String :=
  ["unix", "unix-none", "unix-dotfile", "unix-excl"]

def memoryLayer : String := "memdb"

def layer? (name : Option (List UInt8)) : Option String :=
  match name with
  | none => diskLayers.head?
  | some bytes =>
      (memoryLayer :: diskLayers).find? fun known => Text.utf8 known == bytes

/-! ## Locations -/

structure FileRequest where
  path : List UInt8
  mode : OpenMode
  /-- The file is taken never to change: it is read as it is and not
  written. -/
  isImmutable : Bool
  model : Option (List UInt8)
  deriving DecidableEq, Repr

inductive Location where
  | memory (isWritable : Bool)
  | shared (layer : String) (name : List UInt8) (isWritable : Bool)
  | file (request : FileRequest)
  deriving DecidableEq, Repr

namespace Location

def memoryName : String := ":memory:"

def isCacheMode (name : List UInt8) : Bool :=
  name == Text.utf8 "shared" || name == Text.utf8 "private"

def sharesCache? (names : List (List UInt8)) : Option Bool :=
  if names.all isCacheMode then
    some (names.getLast? == some (Text.utf8 "shared"))
  else none

def isCommonName : List UInt8 → Bool
  | first :: _ :: _ => first == '/'.toUInt8 || first == '\\'.toUInt8
  | _ => false

def ofUrl? (url : FileUrl) : Option Location := do
  let mode ← OpenMode.ofNames? (url.values "mode")
  let sharesCache ← sharesCache? (url.values "cache")
  let layer ← layer? (url.values "vfs").getLast?
  let isImmutable := ((url.value? "immutable").map FileUrl.isOn).getD false
  let isWritable := mode != .readOnly
  if url.path.isEmpty then return .memory isWritable
  else if mode == .memory || url.path == Text.utf8 memoryName then
    return if sharesCache then .shared layer url.path isWritable
      else .memory isWritable
  else if layer == memoryLayer then
    let isWritable := isWritable && !isImmutable
    return if sharesCache || isCommonName url.path then
        .shared layer url.path isWritable
      else .memory isWritable
  else
    return .file
      { path := url.path
        mode := mode
        isImmutable := isImmutable
        model := url.value? "modeof" }

def ofPlainPath (path : String) : Location :=
  if path.isEmpty || path == memoryName then .memory true
  else
    .file
      { path := Text.utf8 path
        mode := .createMissing
        isImmutable := false
        model := none }

/-- The location that a path names; a path with a zero character names none. -/
def read? (path : String) : Option Location :=
  if path.toList.contains '\x00' then none
  else
    match Scanner.word "file:" () path.toList with
    | some (_, rest) => (FileUrl.read? rest).bind ofUrl?
    | none => some (ofPlainPath path)

end Location

end GatewayPolicy
