/-
# Database.Backups -- creating backups and taking their results

`createBackup`, `HandleBackupResult`, `runRetentionForDatabase`, `DeleteBackup` and the
checks of `RestoreFromBackup` in `internal/database`, with the statements of
`sql/queries/database_backups.sql`.  Each statement is one atomic step.

The weather of a call says which of its statements fail and how much time passes before
each; a failed statement changes nothing and its caller sees an error.  A control plane
that crashes is one whose calls are not scheduled any more.  The object storage is
configured; without it none of these calls does anything.

`UpdateBackupCompleted` is used twice: by the result of a backup, and by its creation, to
store the path the upload will have; the creation sets the status back with the next
statement.
-/
import Nixway.Store.Queries
import Nixway.Theory.Pool

namespace Nixway.Database

open Nixway.Theory Nixway.Store
open Nixway.Theory.Prog (query exec atomic)

set_option autoImplicit false

/-! ## Rows -/

/-- `databases.status`. -/
inductive DatabaseStatus where
  | provisioning | running | stopped | error | deleted
deriving DecidableEq

structure DatabaseRow where
  id : UUID
  teamID : UUID
  serverID : UUID
  templateSlug : String
  name : String
  containerName : String
  status : DatabaseStatus := .provisioning
  backupSchedule : Option String := none
  backupRetentionDays : Option Int32 := some 7

/-- A secret of the store, decrypted. -/
structure Secret where
  id : UUID
  teamID : UUID
  environment : String
  name : String
  value : String

inductive BackupType where
  | manual | scheduled
deriving DecidableEq

/-- `database_backups.status`. -/
inductive BackupStatus where
  | running | completed | failed
deriving DecidableEq

def BackupStatus.text : BackupStatus → String
  | .running => "running"
  | .completed => "completed"
  | .failed => "failed"

structure Backup where
  id : UUID
  databaseID : UUID
  type : BackupType
  status : BackupStatus := .running
  sizeBytes : Option Int64 := none
  storagePath : Option String := none
  backupTool : String
  triggeredBy : Option UUID := none
  startedAt : Nat
  completedAt : Option Nat := none
  error : Option String := none
deriving DecidableEq

instance : Keyed DatabaseRow UUID := ⟨DatabaseRow.id⟩
instance : Keyed Secret UUID := ⟨Secret.id⟩
instance : Keyed Backup UUID := ⟨Backup.id⟩

@[simp] theorem key_database (d : DatabaseRow) : Keyed.key d = d.id := rfl
@[simp] theorem key_backup (b : Backup) : Keyed.key b = b.id := rfl

structure BackupCommand where
  backupID : UUID
  databaseID : UUID
  containerName : String
  databaseType : String
  superuser : String
  superuserPassword : String
  dbname : String
  tool : String
  outputFilename : String
  /-- The key `upload_url` is signed for. -/
  uploadKey : String

/-- The rows a backup touches, with the connections to the agents. -/
structure Vault where
  now : Nat := 0
  databases : Table DatabaseRow := .empty
  servers : Table Server := .empty
  secrets : Table Secret := .empty
  backups : Table Backup := .empty
  agents : Table ConnState := .empty
  sent : List (String × BackupCommand) := []
  /-- The backups an agent has reported as a success. -/
  reported : List UUID := []

/-! ## Statements -/

namespace Vault

/-- `INSERT INTO database_backups`; the database must exist. -/
def createBackup (s : Vault) (id databaseID : UUID) (type : BackupType) (tool : String)
    (triggeredBy : Option UUID) : Vault × Option Backup :=
  let row : Backup :=
    { id := id, databaseID := databaseID, type := type, backupTool := tool,
      triggeredBy := triggeredBy, startedAt := s.now }
  if (s.databases.find? databaseID).isNone then (s, none)
  else match s.backups.insert? row with
    | some backups => ({ s with backups := backups }, some row)
    | none => (s, none)

def getBackup (s : Vault) (id : UUID) : Option Backup := s.backups.find? id

def updateBackupStarted (s : Vault) (id : UUID) : Vault :=
  { s with backups := s.backups.update id fun b =>
      { b with status := .running, startedAt := s.now } }

def updateBackupCompleted (s : Vault) (id : UUID) (sizeBytes : Option Int64)
    (storagePath : Option String) : Vault :=
  { s with backups := s.backups.update id fun b =>
      { b with
        status := .completed
        sizeBytes := sizeBytes
        storagePath := storagePath
        completedAt := some s.now } }

def updateBackupFailed (s : Vault) (id : UUID) (error : String) : Vault :=
  { s with backups := s.backups.update id fun b =>
      { b with status := .failed, error := some error, completedAt := some s.now } }

def deleteBackup (s : Vault) (id : UUID) : Vault :=
  { s with backups := s.backups.deleteWhere fun b => b.id = id }

def deleteBackupsOlderThan (s : Vault) (databaseID : UUID) (cutoff : Int) : Vault :=
  { s with backups := s.backups.deleteWhere fun b =>
      b.databaseID = databaseID && decide ((b.startedAt : Int) < cutoff) }

/-- `GetLatestBackupForDatabase`: of the completed ones, the one started last. -/
def getLatestBackupForDatabase (s : Vault) (databaseID : UUID) : Option Backup :=
  ((s.backups.rows.filter fun b => b.databaseID = databaseID && b.status = .completed).insertionSort
    fun a b => b.startedAt ≤ a.startedAt).head?

def listDatabasesWithBackupSchedule (s : Vault) : List DatabaseRow :=
  s.databases.rows.filter fun d => d.backupSchedule.isSome && d.status = .running

/-- `GetServerByID`. -/
def getServerByID (s : Vault) (id teamID : UUID) : Option Server :=
  (s.servers.find? id).filter fun server => server.teamID = teamID

/-- `GetSecretByKey`, decrypted. -/
def getSecretByKey (s : Vault) (teamID : UUID) (environment key : String) : Option String :=
  (s.secrets.rows.find? fun secret => secret.teamID = teamID && secret.environment = environment &&
    secret.name = key).map Secret.value

/-- `SendToAgent`. -/
def sendToAgent (s : Vault) (agentID : String) (cmd : BackupCommand) :
    Vault × Except String Unit :=
  match s.agents.find? agentID with
  | none => (s, .error ("agent " ++ agentID ++ " not connected"))
  | some state =>
    match state.stream with
    | .missing => (s, .error ("agent " ++ agentID ++ " has no active stream"))
    | .broken error => (s, .error error)
    | .live => ({ s with sent := s.sent ++ [(agentID, cmd)] }, .ok ())

end Vault

/-! ## Weather -/

/-- The places of a call where the store, the object storage or the stream can fail. -/
inductive Stmt where
  | getDatabase | resolve | insert | presign | getServer | stash | restart | send | markFailed
  | refresh | readPath | complete | reread | latest | listOld | deleteOld | delete
deriving DecidableEq

/-- Which statements of a call fail, with which error, and how long each is in coming. -/
structure Weather where
  fails : Stmt → Bool := fun _ => false
  error : Stmt → String := fun _ => ""
  lag : Stmt → Nat := fun _ => 0

/-- A statement under the weather: time passes, then it fails or is carried out. -/
def Weather.carry {α : Type} (weather : Weather) (place : Stmt) (f : Vault → Vault × Option α)
    (s : Vault) : Vault × Option α :=
  let s := { s with now := s.now + weather.lag place }
  if weather.fails place then (s, none) else f s

def Weather.stmt {α : Type} (weather : Weather) (place : Stmt) (f : Vault → Vault × Option α) :
    Prog Vault (Option α) :=
  atomic (weather.carry place f)

/-- A statement that returns no row. -/
def Weather.exec (weather : Weather) (place : Stmt) (f : Vault → Vault) :
    Prog Vault (Option Unit) :=
  weather.stmt place fun s => (f s, some ())

/-! ## createBackup -/

/-- `backupToolForTemplate`: the tool and the extension of its dump. -/
def backupToolForTemplate (slug : String) : Option (String × String) :=
  match slug.toLower with
  | "postgres" | "postgresql" => some ("pg_dump", ".dump")
  | "mysql" | "mariadb" => some ("mysqldump", ".sql")
  | "mongodb" | "mongo" => some ("mongodump", ".archive")
  | "redis" => some ("redis-bgsave", ".rdb")
  | _ => none

def dbTypeForTemplate (slug : String) : String :=
  match slug with
  | "postgres" | "postgresql" => "postgresql"
  | "mysql" | "mariadb" => "mysql"
  | "mongodb" | "mongo" => "mongodb"
  | "redis" => "redis"
  | other => other

def superuserForTemplate (slug : String) : String :=
  match slug.toLower with
  | "postgres" | "postgresql" => "postgres"
  | "mysql" | "mariadb" => "root"
  | "mongodb" | "mongo" => "admin"
  | _ => ""

def defaultDBName (slug dbName : String) : String :=
  match slug.toLower with
  | "postgres" | "postgresql" => dbName
  | "mysql" | "mariadb" => dbName
  | _ => ""

/-- A call of `createBackup`, with the id the INSERT draws. -/
structure Creation where
  databaseID : UUID
  type : BackupType
  userID : Option UUID := none
  id : UUID
  weather : Weather := {}

namespace Creation

def storageKey (call : Creation) (ext : String) : String :=
  "backups/" ++ call.databaseID.text ++ "/" ++ call.id.text ++ ext

def command (call : Creation) (d : DatabaseRow) (tool ext password : String) : BackupCommand :=
  { backupID := call.id
    databaseID := d.id
    containerName := d.containerName
    databaseType := dbTypeForTemplate d.templateSlug
    superuser := superuserForTemplate d.templateSlug
    superuserPassword := password
    dbname := defaultDBName d.templateSlug d.name
    tool := tool
    outputFilename := call.id.text ++ ext
    uploadKey := call.storageKey ext }

/-- `markBackupFailed`. -/
def fail (call : Creation) (error : String) : Prog Vault Unit := do
  let _ ← call.weather.exec .markFailed fun s => s.updateBackupFailed call.id error

/-- The command is handed to the agent; the answer has the error, if there is one. -/
def hand (agentID : String) (cmd : BackupCommand) (s : Vault) :
    Vault × Option (Option String) :=
  match s.sendToAgent agentID cmd with
  | (s, .ok ()) => (s, some none)
  | (s, .error err) => (s, some (some err))

theorem hand_store (agentID : String) (cmd : BackupCommand) (s : Vault) :
    ∃ sent, (hand agentID cmd s).1 = { s with sent := sent } := by
  unfold hand Vault.sendToAgent
  cases s.agents.find? agentID with
  | none => exact ⟨_, rfl⟩
  | some state =>
    cases stream : state.stream with
    | missing => simp only [stream]; exact ⟨_, rfl⟩
    | broken error => simp only [stream]; exact ⟨_, rfl⟩
    | live => simp only [stream]; exact ⟨_, rfl⟩

/-- The last statements: the command goes out, and the row is read back. -/
def dispatch (call : Creation) (agentID : String) (cmd : BackupCommand) : Prog Vault Unit := do
  match ← call.weather.stmt .send (hand agentID cmd) with
  | some none =>
    let _ ← call.weather.stmt .refresh fun s => (s, s.getBackup call.id)
  | some (some err) => call.fail ("send to agent: " ++ err)
  | none => call.fail ("send to agent: " ++ call.weather.error .send)

/-- The status is taken back. -/
def restart (call : Creation) (agentID : String) (cmd : BackupCommand) : Prog Vault Unit := do
  let _ ← call.weather.exec .restart fun s => s.updateBackupStarted call.id
  call.dispatch agentID cmd

/-- The path of the upload is stored by `UpdateBackupCompleted`, which sets the status too. -/
def stash (call : Creation) (agentID key : String) (cmd : BackupCommand) : Prog Vault Unit := do
  let _ ← call.weather.exec .stash fun s => s.updateBackupCompleted call.id none (some key)
  call.restart agentID cmd

def serve (call : Creation) (d : DatabaseRow) (tool ext password : String) : Prog Vault Unit := do
  match ← call.weather.stmt .getServer fun s => (s, s.getServerByID d.serverID d.teamID) with
  | none => call.fail ("get server: " ++ call.weather.error .getServer)
  | some server =>
    match server.agentID.filter (· ≠ "") with
    | none => call.fail "server has no connected agent"
    | some agentID =>
      call.stash agentID (call.storageKey ext) (call.command d tool ext password)

/-- After the row is inserted. -/
def proceed (call : Creation) (d : DatabaseRow) (tool ext password : String) :
    Prog Vault Unit := do
  match ← call.weather.exec .presign fun s => s with
  | none => call.fail ("presign put: " ++ call.weather.error .presign)
  | some () => call.serve d tool ext password

def insert (call : Creation) (d : DatabaseRow) (tool ext password : String) :
    Prog Vault (Option Backup) := do
  match ← call.weather.stmt .insert fun s =>
      s.createBackup call.id call.databaseID call.type tool call.userID with
  | none => return none
  | some row =>
    call.proceed d tool ext password
    return some row

/-- The superuser's password is read before the row is made. -/
def resolve (call : Creation) (d : DatabaseRow) (tool ext : String) :
    Prog Vault (Option Backup) := do
  match ← call.weather.stmt .resolve fun s =>
      (s, s.getSecretByKey d.teamID ("database:" ++ d.name) "SUPERUSER_PASSWORD") with
  | none => return none
  | some password =>
    if password = "" then
      return none
    call.insert d tool ext password

/-- **`createBackup`**; the answer is the row it inserted, if it came so far. -/
def run (call : Creation) : Prog Vault (Option Backup) := do
  match ← call.weather.stmt .getDatabase fun s => (s, s.databases.find? call.databaseID) with
  | none => return none
  | some d =>
    if d.status ≠ .running then
      return none
    match backupToolForTemplate d.templateSlug with
    | none => return none
    | some (tool, ext) => call.resolve d tool ext

end Creation

/-! ## Results -/

/-- A `BackupResult` whose id parses. -/
structure BackupResult where
  backupID : UUID
  success : Bool
  error : String := ""
  sizeBytes : Int64 := 0
  storagePath : String := ""
  weather : Weather := {}

namespace BackupResult

/-- The agent's report reaches the control plane. -/
def report (result : BackupResult) (s : Vault) : Vault :=
  if result.success then { s with reported := result.backupID :: s.reported } else s

/-- The statement of a success, with the path of the result or the one of the row. -/
def complete (result : BackupResult) (path : Option String) : Prog Vault Unit := do
  match ← result.weather.exec .complete fun s =>
      s.updateBackupCompleted result.backupID (some result.sizeBytes) path with
  | none => return
  | some () =>
    -- the sweep is a goroutine of its own: `Upkeep.retention`
    let _ ← result.weather.stmt .reread fun s => (s, s.getBackup result.backupID)

def reject (result : BackupResult) : Prog Vault Unit := do
  let _ ← result.weather.exec .markFailed fun s => s.updateBackupFailed result.backupID result.error

/-- Without a path in the result the one of the row is kept. -/
def readPath (result : BackupResult) : Prog Vault Unit := do
  let row ← result.weather.stmt .readPath fun s => (s, s.getBackup result.backupID)
  result.complete (row.bind Backup.storagePath)

/-- **`HandleBackupResult`**. -/
def run (result : BackupResult) : Prog Vault Unit := do
  Prog.exec result.report
  if !result.success then
    result.reject
  else if result.storagePath ≠ "" then
    result.complete (some result.storagePath)
  else
    result.readPath

end BackupResult

/-! ## Upkeep -/

def day : Nat := 24 * 60 * 60 * 1000000000

/-- The statements that remove rows: `runRetentionForDatabase` and `DeleteBackup`. -/
inductive Upkeep where
  | retention (databaseID : UUID) (weather : Weather)
  | delete (id : UUID) (weather : Weather)

/-- `backup_retention_days`, seven if it is not positive. -/
def retentionDays (d : DatabaseRow) : Int32 :=
  match d.backupRetentionDays with
  | some days => if 0 < days then days else 7
  | none => 7

/-- `-time.Duration(days) * 24 * time.Hour`, in 64 bits. -/
def retentionLag (days : Int32) : Int64 := -days.toInt64 * 24 * 3600000000000

/-- `time.Now().Add(...)`. -/
def retentionCutoff (d : DatabaseRow) (now : Nat) : Int := now + (retentionLag (retentionDays d)).toInt

namespace Upkeep

/-- The rows past the cutoff are listed, their objects removed, and then the rows. -/
def sweepOld (databaseID : UUID) (weather : Weather) (cutoff : Int) : Prog Vault Unit := do
  match ← weather.exec .listOld fun s => s with
  | none => return
  | some () =>
    let _ ← weather.exec .deleteOld fun s => s.deleteBackupsOlderThan databaseID cutoff

def sweepAged (databaseID : UUID) (weather : Weather) (d : DatabaseRow) : Prog Vault Unit := do
  let cutoff ← query fun s => retentionCutoff d s.now
  sweepOld databaseID weather cutoff

def run : Upkeep → Prog Vault Unit
  | .retention databaseID weather => do
    match ← weather.stmt .getDatabase fun s => (s, s.databases.find? databaseID) with
    | none => return
    | some d => sweepAged databaseID weather d
  | .delete id weather => do
    match ← weather.stmt .reread fun s => (s, s.getBackup id) with
    | none => return
    | some _ =>
      let _ ← weather.exec .delete fun s => s.deleteBackup id

end Upkeep

/-! ## Restoring -/

/-- What `RestoreFromBackup` checks of the backup before it turns to its target. -/
def restorable (s : Vault) (backupID : UUID) : Except String Backup :=
  match s.getBackup backupID with
  | none => .error "get backup"
  | some backup =>
    if backup.status ≠ .completed then
      .error ("backup is not completed (status: " ++ backup.status.text ++ ")")
    else if backup.storagePath.all (· = "") then .error "backup has no storage_path"
    else .ok backup

end Nixway.Database
