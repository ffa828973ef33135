import GatewayPolicy.Database.Query
import GatewayPolicy.Proofs.Settings.Numbers
import GatewayPolicy.Store.Opening

/-!
# Opening the configured database

A configuration may set any number as its timeout.  Once the database has been
connected to, opening ends with a store or a fault exactly if the number, as it
was written, stays below two to the 31st; otherwise opening aborts.
-/

set_option autoImplicit false

namespace GatewayPolicy

open Settings (lastUnder keyedLeaves)

def timeoutKey : String := "storage.query_timeout_ms"

/-- The least number of milliseconds that no database can be opened with. -/
def leastExcessiveTimeout : Nat := 2147483648

/-! ## The timeout -/

theorem toNat_timeoutOfNumber {n : Int64} (positive : 0 < n) :
    (Settings.timeoutOfNumber n).toNat = n.toInt.toNat := by
  rw [Settings.timeoutOfNumber, if_pos positive,
    Int64.toNat_toUInt64_of_le (Int64.le_of_lt positive)]
  rfl

theorem excessive_timeoutOfNumber_iff (n : Int64) :
    greatestTimeoutMs < Settings.timeoutOfNumber n ↔
      leastExcessiveTimeout ≤ n.toInt := by
  have zero : (0 : Int64).toInt = 0 := rfl
  by_cases positive : 0 < n
  · have above := Int64.lt_iff_toInt_lt.mp positive
    have greatest : greatestTimeoutMs.toNat = 2147483647 := rfl
    rw [UInt64.lt_iff_toNat_lt, toNat_timeoutOfNumber positive, greatest,
      leastExcessiveTimeout]
    omega
  · have below := mt Int64.lt_iff_toInt_lt.mpr positive
    have usual : ¬greatestTimeoutMs < Settings.defaultQueryTimeoutMs := by
      decide
    rw [Settings.timeoutOfNumber, if_neg positive, leastExcessiveTimeout]
    exact iff_of_false usual (by omega)

/-- The timeout that a configuration asks for is excessive exactly if the last
number that it writes under the key is. -/
theorem excessive_store_timeout_iff {text : String} {table : Toml.Table}
    {settings : Settings} (denoted : Toml.read? text = some table)
    (loaded : Settings.ofTable table = .ok settings) :
    greatestTimeoutMs < settings.store.queryTimeoutMs ↔
      ∃ value, lastUnder timeoutKey (keyedLeaves table) = some value ∧
        value.AtLeast leastExcessiveTimeout := by
  have registered : SettingRule.find? timeoutKey = some
      { key := timeoutKey
        description := "Upper bound for a single configuration query"
        kind := .number
        default := "3000" } := rfl
  rw [Settings.store, excessive_timeoutOfNumber_iff]
  exact Settings.le_number_iff denoted loaded registered rfl (by decide)
    (by decide) (by decide)

/-! ## Opening -/

/-- What is documented of setting the timeout: it aborts beyond the greatest
one, and else returns. -/
structure FileDriver.LimitsTimeouts {World Connection : Type}
    (driver : FileDriver World Connection) : Prop where
  aborts_iff : ∀ (timeoutMs : UInt64) (connection : Connection),
    driver.setTimeout timeoutMs connection = none ↔
      greatestTimeoutMs < timeoutMs

theorem FileDriver.openDatabase_aborts_iff {World Connection : Type}
    {driver : FileDriver World Connection} (documented : driver.LimitsTimeouts)
    (path : String) (timeoutMs : UInt64) (world : World) :
    driver.openDatabase path timeoutMs world = .error .aborted ↔
      (¬∃ reason, driver.connect path world = .error reason) ∧
        greatestTimeoutMs < timeoutMs := by
  unfold openDatabase
  cases driver.connect path world with
  | error reason => simp [OpenFault.unavailable]
  | ok connected =>
      obtain ⟨connection, world⟩ := connected
      dsimp only
      rw [← documented.aborts_iff timeoutMs connection]
      rcases driver.setTimeout timeoutMs connection with
        _ | reason | connection
      · simp
      · simp [OpenFault.unavailable]
      · dsimp only
        cases driver.makeTables connection world <;>
          simp [OpenFault.unavailable]

theorem ends_iff_not_aborted {β : Type} (result : Except OpenFault β) :
    (∃ opened, result = .ok opened) ∨
        (∃ fault, result = .error (.store fault)) ↔
      result ≠ .error .aborted := by
  rcases result with ⟨_ | _⟩ | _ <;> simp

theorem eq_ok_of_toOption {ε α : Type} {result : Except ε α} {value : α}
    (kept : result.toOption = some value) : result = .ok value := by
  cases result with
  | error _ => cases kept
  | ok _ => exact congrArg Except.ok (Option.some.inj kept)

/-- For settings that select a database file, opening ends with a store or a
fault exactly if the database cannot be connected to, or the last number that
the configuration writes as its timeout is not excessive. -/
theorem opening_ends_iff_timeout_fits {World Connection : Type}
    (files : FileDriver World Connection) (servers : ServerDriver World)
    (documented : files.LimitsTimeouts) (text : String) (settings : Settings)
    (path : String) (world : World)
    (loaded : Settings.read text = .ok settings)
    (chosen : StoreChoice.ofSettings settings.store = .file path) :
    ((∃ opened, openStore files servers settings.store world = .ok opened) ∨
        ∃ fault, openStore files servers settings.store world =
          .error (.store fault)) ↔
      (∃ reason, files.connect path world = .error reason) ∨
        ∀ table value, Toml.read? text = some table →
          lastUnder timeoutKey (keyedLeaves table) = some value →
          ¬value.AtLeast leastExcessiveTimeout := by
  obtain ⟨table, denoted, entered⟩ := Settings.exists_table_of_read loaded
  have opens : openStore files servers settings.store world =
      files.openDatabase path settings.store.queryTimeoutMs world := by
    rw [openStore, chosen]
  rw [ends_iff_not_aborted, opens, Ne,
    FileDriver.openDatabase_aborts_iff documented, not_and_or, not_not,
    excessive_store_timeout_iff denoted entered]
  refine or_congr_right ⟨fun fits other value same last reached => ?_,
    fun fits => ?_⟩
  · obtain rfl := Option.some.inj (denoted.symm.trans same)
    exact fits ⟨value, last, reached⟩
  · rintro ⟨value, last, reached⟩
    exact fits table value denoted last reached

/-- A driver of fresh databases in memory: it knows no file. -/
def memoryDriver : FileDriver Unit Database.Contents where
  connect path _ :=
    if path = ":memory:" then .ok (.blank, ())
    else .error "unable to open database file"
  setTimeout timeoutMs db :=
    if greatestTimeoutMs < timeoutMs then none else some (.ok db)
  makeTables db _ := .ok (db.ensureSchema, ())
  reading db _ := db.reading .byUrl

theorem memoryDriver_limitsTimeouts : memoryDriver.LimitsTimeouts where
  aborts_iff timeoutMs db := by
    simp [memoryDriver]

def noServer : ServerDriver Unit :=
  fun _ _ _ => .error (.unavailable "error connecting to server")

/-- A timeout of a quarter of a millisecond less than two to the 31st is cut to
the longest one that a database can be opened with. -/
theorem fractional_timeout_opens :
    let text := "storage.query_timeout_ms = 2147483647.75\n" ++
      "storage.sqlite_path = ':memory:'\n"
    let settings : Settings :=
      { values := [("storage.query_timeout_ms", "2147483647.75"),
          ("storage.sqlite_path", ":memory:")] }
    let opening := openStore memoryDriver noServer settings.store ()
    memoryDriver.LimitsTimeouts ∧
    Settings.read text = .ok settings ∧
    StoreChoice.ofSettings settings.store = .file ":memory:" ∧
    settings.store.queryTimeoutMs = greatestTimeoutMs ∧
    ((∃ opened, opening = .ok opened) ∨
      ∃ fault, opening = .error (.store fault)) := by
  intro text settings opening
  have loaded : Settings.read text = .ok settings :=
    eq_ok_of_toOption (by decide +kernel)
  have chosen : StoreChoice.ofSettings settings.store = .file ":memory:" := by
    decide +kernel
  have timeout : settings.store.queryTimeoutMs = greatestTimeoutMs := by
    decide +kernel
  refine ⟨memoryDriver_limitsTimeouts, loaded, chosen, timeout, ?_⟩
  refine (opening_ends_iff_timeout_fits memoryDriver noServer
    memoryDriver_limitsTimeouts text settings ":memory:" () loaded chosen).mpr
      (Or.inr fun table value denoted last reached => ?_)
  obtain ⟨other, same, entered⟩ := Settings.exists_table_of_read loaded
  obtain rfl := Option.some.inj (denoted.symm.trans same)
  have excessive : greatestTimeoutMs < settings.store.queryTimeoutMs :=
    (excessive_store_timeout_iff denoted entered).mpr ⟨value, last, reached⟩
  exact UInt64.lt_irrefl _ (timeout ▸ excessive)

/-- The loader accepts a timeout of two to the 31st, and opening aborts. -/
theorem excessive_timeout_aborts :
    let text := "[storage]\nsqlite_path = ':memory:'\n" ++
      "query_timeout_ms = 2147483648\n"
    let settings : Settings :=
      { values := [("storage.query_timeout_ms", "2147483648"),
          ("storage.sqlite_path", ":memory:")] }
    let opening := openStore memoryDriver noServer settings.store ()
    memoryDriver.LimitsTimeouts ∧
    Settings.read text = .ok settings ∧
    settings.store.dsn = none ∧
    StoreChoice.ofSettings settings.store = .file ":memory:" ∧
    opening = .error .aborted ∧
    ¬((∃ opened, opening = .ok opened) ∨
      ∃ fault, opening = .error (.store fault)) := by
  intro text settings opening
  have loaded : Settings.read text = .ok settings :=
    eq_ok_of_toOption (by decide +kernel)
  have chosen : StoreChoice.ofSettings settings.store = .file ":memory:" := by
    decide +kernel
  have excessive : greatestTimeoutMs < settings.store.queryTimeoutMs := by
    decide +kernel
  have aborted : opening = .error .aborted := by
    have connected : ¬∃ reason,
        memoryDriver.connect ":memory:" () = .error reason := by
      rintro ⟨_, failed⟩
      cases failed
    show openStore memoryDriver noServer settings.store () = _
    rw [openStore, chosen]
    exact (FileDriver.openDatabase_aborts_iff memoryDriver_limitsTimeouts _ _
      _).mpr ⟨connected, excessive⟩
  refine ⟨memoryDriver_limitsTimeouts, loaded, by decide +kernel, chosen,
    aborted, ?_⟩
  rw [ends_iff_not_aborted]
  exact not_not.mpr aborted

end GatewayPolicy
