import GatewayPolicy.Database.Query
import GatewayPolicy.Store.Directory
import GatewayPolicy.Store.Opening

/-!
# A driver of databases at hand

A connection is made to a file, which it makes if it may, or to a database in
memory.  It writes only where its mode and the name of the file allow it.
-/

set_option autoImplicit false

namespace GatewayPolicy

inductive Connected where
  | memory (db : Database.Contents)
  | placed (place : Place)

def Connected.contents (connected : Connected) (directory : Directory) :
    Database.Contents :=
  match connected with
  | memory db => db
  | placed place => directory.contents place

structure Connection where
  connected : Connected
  isWritable : Bool

namespace Connection

/-- The longest name of a file that can be written, in bytes: the name of its
journal has eight more. -/
def greatestWritableName : Nat := Directory.greatestNameSize - 8

def toFile? (request : FileRequest) (directory : Directory) :
    Option (Connection × Directory) := do
  let name ← directory.fileName? request.path
  let place := Place.file name
  if request.mode != .createMissing && !directory.has place then none
  if request.model.any fun path => !directory.isThere path then none
  let db := directory.contents place
  let isWritable := request.mode != .readOnly &&
    name.length ≤ greatestWritableName
  let connection : Connection :=
    if request.isImmutable then { connected := .memory db, isWritable := false }
    else { connected := .placed place, isWritable := isWritable }
  return (connection, directory.put place db)

def open? (path : String) (directory : Directory) :
    Option (Connection × Directory) := do
  match ← Location.read? path with
  | .memory isWritable =>
      return ({ connected := .memory .blank, isWritable := isWritable },
        directory)
  | .shared layer name isWritable =>
      let place := Place.shared layer name
      return ({ connected := .placed place, isWritable := isWritable },
        directory.put place (directory.contents place))
  | .file request => toFile? request directory

def contents (connection : Connection) (directory : Directory) :
    Database.Contents :=
  connection.connected.contents directory

def put (connection : Connection) (db : Database.Contents)
    (directory : Directory) : Connection × Directory :=
  match connection.connected with
  | .memory _ => ({ connection with connected := .memory db }, directory)
  | .placed place => (connection, directory.put place db)

def readOnly : String :=
  "attempt to write a readonly database"

def complete (connection : Connection) (directory : Directory) :
    Except String (Connection × Directory) :=
  let db := connection.contents directory
  if connection.isWritable || db.isComplete then
    .ok (connection.put db.ensureSchema directory)
  else .error readOnly

end Connection

def cannotOpen : String :=
  "unable to open database file"

namespace Directory

/-- A database puts rows that its queries leave unordered in the order of their
urls. -/
def driver : FileDriver Directory Connection where
  connect path directory :=
    match Connection.open? path directory with
    | some opened => .ok opened
    | none => .error cannotOpen
  setTimeout timeoutMs connection :=
    if greatestTimeoutMs < timeoutMs then none else some (.ok connection)
  makeTables := Connection.complete
  reading connection directory :=
    (connection.contents directory).reading .byUrl

end Directory

end GatewayPolicy
