import GatewayPolicy.Database.Basic
import GatewayPolicy.Store.Location

/-!
# Databases at hand

Database files live in a working directory without subdirectories and are
shared by everyone who opens them; so are databases in memory that go by a
name, for as long as somebody has them open.

A path is followed step by step.  Steps back are taken on the text alone, but
no path may lead on below a file.
-/

set_option autoImplicit false

namespace GatewayPolicy

/-! ## Places -/

inductive Place where
  | file (name : List UInt8)
  | shared (layer : String) (name : List UInt8)
  deriving DecidableEq, Repr

structure Directory where
  /-- The longest path below it, in bytes. -/
  greatestPath : Nat
  databases : List (Place × Database.Contents)

namespace Directory

def empty (greatestPath : Nat) : Directory :=
  { greatestPath := greatestPath, databases := [] }

def has (directory : Directory) (place : Place) : Bool :=
  directory.databases.any fun entry => entry.1 == place

/-- The contents at a place; where nothing is, there is no table. -/
def contents (directory : Directory) (place : Place) : Database.Contents :=
  (directory.databases.lookup place).getD .blank

def put (directory : Directory) (place : Place) (db : Database.Contents) :
    Directory :=
  { directory with
    databases := (place, db) ::
      directory.databases.filter fun entry => entry.1 != place }

/-! ## Following paths -/

def steps (path : List UInt8) : List (List UInt8) :=
  path.splitOnP (· == '/'.toUInt8)

def isHere (step : List UInt8) : Bool :=
  step.isEmpty || step == Text.utf8 "."

def isBack (step : List UInt8) : Bool :=
  step == Text.utf8 ".."

def greatestNameSize : Nat := 255

/-- The steps below the working directory, one further. -/
def follow? (directory : Directory) (taken : List (List UInt8))
    (step : List UInt8) : Option (List (List UInt8)) :=
  if isHere step then some taken
  else if isBack step then
    if taken.isEmpty then none else some taken.dropLast
  else
    let next := taken ++ [step]
    let isBelowFile :=
      match taken with
      | name :: _ => directory.has (.file name)
      | [] => false
    -- each name counts with the separator after it
    let pathSize := next.flatten.length + next.length
    if isBelowFile || greatestNameSize < step.length ||
        directory.greatestPath < pathSize then none
    else some next

def fileName? (directory : Directory) (path : List UInt8) :
    Option (List UInt8) := do
  if path.head? == some '/'.toUInt8 then none
  match ← (steps path).foldlM (follow? directory) [] with
  | [name] => return name
  | _ => none

inductive Stop where
  | here
  | file
  | above
  deriving DecidableEq, Repr

def Stop.next? (directory : Directory) (step : List UInt8) : Stop → Option Stop
  | here =>
      if isHere step then some here
      else if isBack step then some above
      else if directory.has (.file step) then some file
      else none
  | file => none
  | above => if isHere step || isBack step then some above else none

def isThere (directory : Directory) (path : List UInt8) : Bool :=
  let start :=
    if path.head? == some '/'.toUInt8 then Stop.above else Stop.here
  !path.isEmpty &&
    ((steps path).foldlM (fun stop step => Stop.next? directory step stop)
      start).isSome

end Directory

end GatewayPolicy
