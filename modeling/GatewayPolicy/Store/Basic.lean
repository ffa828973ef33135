import GatewayPolicy.Database.Query
import GatewayPolicy.Store.Tables

/-!
# Stores

A store keeps its rows in plain tables or in a database; its readers cannot
tell which.
-/

set_option autoImplicit false

namespace GatewayPolicy

inductive Store where
  | tables (tables : PolicyTables)
  | database (db : Database.Contents)

namespace Store

def reading (ties : Database.TieOrder) : Store → Reading
  | .tables rows => rows.reading
  | .database db => db.reading ties

def mapTables (f : PolicyTables → PolicyTables) : Store → Store
  | .tables rows => .tables (f rows)
  | .database db => .database db

def change (change : Database.Change) : Store → Except StoreFault Store
  | .tables rows => .ok (.tables rows)
  | .database db => (db.apply change).map .database

end Store

end GatewayPolicy
