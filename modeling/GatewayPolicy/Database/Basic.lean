import GatewayPolicy.Database.Schema
import GatewayPolicy.Fault

/-!
# Databases

A database holds each configuration table with its rows in ascending order of
their numbers, or lacks the table.  A row enters only if it has a value
wherever one is required, and if its number and its key are new; null is never
equal to a key.  A row without a number of its own gets the next one.
-/

set_option autoImplicit false

namespace GatewayPolicy.Database

structure NumberedRow (table : Table) where
  number : Int64
  record : table.Record

/-- `none` where the table does not exist. -/
structure Contents where
  route : Option (List (NumberedRow .route))
  api : Option (List (NumberedRow .api))
  rateLimit : Option (List (NumberedRow .rateLimit))
  rateLimitApi : Option (List (NumberedRow .rateLimitApi))
  authority : Option (List (NumberedRow .authority))
  address : Option (List (NumberedRow .address))
  addressApi : Option (List (NumberedRow .addressApi))

namespace Contents

def blank : Contents :=
  { route := none
    api := none
    rateLimit := none
    rateLimitApi := none
    authority := none
    address := none
    addressApi := none }

def rows? (db : Contents) :
    (table : Table) → Option (List (NumberedRow table))
  | .route => db.route
  | .api => db.api
  | .rateLimit => db.rateLimit
  | .rateLimitApi => db.rateLimitApi
  | .authority => db.authority
  | .address => db.address
  | .addressApi => db.addressApi

def set (db : Contents) :
    (table : Table) → Option (List (NumberedRow table)) → Contents
  | .route, rows => { db with route := rows }
  | .api, rows => { db with api := rows }
  | .rateLimit, rows => { db with rateLimit := rows }
  | .rateLimitApi, rows => { db with rateLimitApi := rows }
  | .authority, rows => { db with authority := rows }
  | .address, rows => { db with address := rows }
  | .addressApi, rows => { db with addressApi := rows }

@[simp] theorem rows?_set_self (db : Contents) (table : Table)
    (rows : Option (List (NumberedRow table))) :
    (db.set table rows).rows? table = rows := by
  cases table <;> rfl

theorem rows?_set_of_ne (db : Contents) (table other : Table)
    (differ : other ≠ table) (rows : Option (List (NumberedRow table))) :
    (db.set table rows).rows? other = db.rows? other := by
  cases table <;> cases other <;> first | rfl | exact absurd rfl differ

def ensureSchema (db : Contents) : Contents :=
  Table.all.foldl
    (fun db table => db.set table (some ((db.rows? table).getD []))) db

def isComplete (db : Contents) : Bool :=
  Table.all.all fun table => (db.rows? table).isSome

def empty : Contents :=
  blank.ensureSchema

end Contents

def missingTable (name : String) : StoreFault :=
  .unavailable ("no such table: " ++ name)

def Contents.rows (db : Contents) (table : Table) :
    Except StoreFault (List table.Record) :=
  match db.rows? table with
  | some rows => .ok (rows.map NumberedRow.record)
  | none => .error (missingTable table.name)

/-! ## New rows -/

def sameKey (table : Table) (a b : table.Record) : Bool :=
  table.key.all fun column => (a column).equals (b column)

/-- The row made of the given values, by column name.  Of values for the same
column the first one counts. -/
def makeRecord (table : Table) (given : List (String × Cell)) : table.Record :=
  fun column =>
    let rule := table.rule column
    let value := given.find? fun entry => rule.isNamed entry.1
    rule.affinity.store ((value.map Prod.snd).getD rule.default)

def unknownColumn? (table : Table) (given : List (String × Cell)) :
    Option String :=
  (given.map Prod.fst).find? fun name =>
    !isRowNumber name &&
      !table.columns.any fun column => (table.rule column).isNamed name

def missingValue? (table : Table) (record : table.Record) :
    Option table.Column :=
  table.columns.find? fun column =>
    (table.rule column).required && record column == .null

/-- The number that the given values ask for: the last one given, or none if
that is null. -/
def givenNumber? (given : List (String × Cell)) :
    Except StoreFault (Option Int64) :=
  let values := given.filter fun entry => isRowNumber entry.1
  match (values.getLast?.map Prod.snd).getD .null with
  | .null => .ok none
  | value =>
      match Affinity.integer.store value with
      | .integer n => .ok (some n)
      | _ => .error (.unavailable "datatype mismatch")

/-- One above the greatest number; where that is the greatest of all, the
greatest that is free. -/
def nextNumber (numbers : List Int64) : Int64 :=
  match numbers.max? with
  | none => 1
  | some greatest =>
      if greatest < Int64.maxValue then greatest + 1
      else
        let candidates := (List.range (numbers.length + 1)).map fun distance =>
          greatest - Int64.ofNat distance
        (candidates.find? fun n => !numbers.contains n).getD greatest

def refusal? (table : Table) (rows : List (NumberedRow table))
    (given : Option Int64) (record : table.Record) : Option String :=
  let unique (columns : List String) :=
    "UNIQUE constraint failed: " ++ String.intercalate ", " columns
  match missingValue? table record with
  | some column =>
      some ("NOT NULL constraint failed: " ++ table.qualified column)
  | none =>
      if rows.any fun row => given == some row.number then
        some (unique [table.name ++ "." ++ rowNumberName])
      else if rows.any fun row => sameKey table record row.record then
        some (unique (table.key.map table.qualified))
      else none

def place {table : Table} (row : NumberedRow table)
    (rows : List (NumberedRow table)) : List (NumberedRow table) :=
  let (before, after) := rows.span fun other => other.number < row.number
  before ++ row :: after

/-! ## Changes -/

inductive Change where
  | insert (table : String) (given : List (String × Cell))
  | clear (table : String)
  | drop (table : String)
  | ensureSchema
  deriving Repr

namespace Contents

def insert (db : Contents) (name : String) (table : Table)
    (rows : List (NumberedRow table)) (given : List (String × Cell)) :
    Except StoreFault Contents := do
  match unknownColumn? table given with
  | some column =>
      throw (.unavailable
        ("table " ++ name ++ " has no column named " ++ column))
  | none => pure ()
  let number ← givenNumber? given
  let record := makeRecord table given
  match refusal? table rows number record with
  | some reason => throw (.unavailable reason)
  | none => pure ()
  let row : NumberedRow table :=
    { number := number.getD (nextNumber (rows.map NumberedRow.number))
      record := record }
  return db.set table (some (place row rows))

def changeTable (db : Contents) (name forbidden : String)
    (change :
      (table : Table) → List (NumberedRow table) → Except StoreFault Contents) :
    Except StoreFault Contents :=
  match systemTable? name, Table.ofName? name with
  | some system, _ =>
      .error (.unavailable ("table " ++ system ++ " may not be " ++ forbidden))
  | none, none => .error (missingTable name)
  | none, some table =>
      match db.rows? table with
      | none => .error (missingTable name)
      | some rows => change table rows

def apply (db : Contents) : Change → Except StoreFault Contents
  | .insert name given =>
      db.changeTable name "modified" fun table rows =>
        db.insert name table rows given
  | .clear name =>
      db.changeTable name "modified" fun table _ =>
        .ok (db.set table (some []))
  | .drop name =>
      db.changeTable name "dropped" fun table _ => .ok (db.set table none)
  | .ensureSchema => .ok db.ensureSchema

/-- Applies changes one after another and tells how each of them went; one
that is refused changes nothing. -/
def applyAll (db : Contents) :
    List Change → List (Except StoreFault Unit) × Contents
  | [] => ([], db)
  | change :: rest =>
      match db.apply change with
      | .ok next =>
          let (results, last) := next.applyAll rest
          (.ok () :: results, last)
      | .error fault =>
          let (results, last) := db.applyAll rest
          (.error fault :: results, last)

end Contents

end GatewayPolicy.Database
