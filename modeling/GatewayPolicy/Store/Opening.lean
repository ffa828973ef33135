import GatewayPolicy.Store.Category
import GatewayPolicy.Store.Choice

/-!
# Opening stores

A store is opened through drivers, which work in a world of their own: one
connects to databases in files, the other to servers.  A file is connected to,
told how long to wait for a lock, and given the tables that it lacks.
-/

set_option autoImplicit false

namespace GatewayPolicy

inductive OpenFault where
  | store (fault : StoreFault)
  /-- Opening aborts, with no answer. -/
  | aborted
  deriving DecidableEq, Repr

/-- An opened store, by what it answers in each world. -/
abbrev OpenedStore (World : Type) := World → Reading

/-- The longest timeout in milliseconds that a driver of database files
takes. -/
def greatestTimeoutMs : UInt64 := 2147483647

/-- What opening asks of a driver of database files.  Each of its steps may
fail with a reason. -/
structure FileDriver (World Connection : Type) where
  connect : String → World → Except String (Connection × World)
  /-- Sets how long a query may wait, in milliseconds; none is an abort. -/
  setTimeout : UInt64 → Connection → Option (Except String Connection)
  makeTables : Connection → World → Except String (Connection × World)
  reading : Connection → OpenedStore World

/-- Connects to the server that a connection string names and makes the tables
that it lacks. -/
abbrev ServerDriver (World : Type) :=
  (dsn : String) → (timeoutMs : UInt64) → World →
    Except StoreFault (OpenedStore World × World)

def OpenFault.unavailable (reason : String) : OpenFault :=
  .store (.unavailable reason)

variable {World Connection : Type}

def FileDriver.openDatabase (driver : FileDriver World Connection)
    (path : String) (timeoutMs : UInt64) (world : World) :
    Except OpenFault (OpenedStore World × World) :=
  match driver.connect path world with
  | .error reason => .error (.unavailable reason)
  | .ok (connection, world) =>
      match driver.setTimeout timeoutMs connection with
      | none => .error .aborted
      | some (.error reason) => .error (.unavailable reason)
      | some (.ok connection) =>
          match driver.makeTables connection world with
          | .error reason => .error (.unavailable reason)
          | .ok (connection, world) =>
              .ok (driver.reading connection, world)

def openStore (files : FileDriver World Connection)
    (servers : ServerDriver World) (settings : StoreSettings) (world : World) :
    Except OpenFault (OpenedStore World × World) :=
  match StoreChoice.ofSettings settings with
  | .file path => files.openDatabase path settings.queryTimeoutMs world
  | .server dsn =>
      (servers dsn settings.queryTimeoutMs world).mapError .store

end GatewayPolicy
