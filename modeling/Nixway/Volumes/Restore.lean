/-
# Volumes.Restore -- restoring a backup into a new database

`RestoreFromBackup` of `internal/database/restore.go`, over the `Provision` of
`Volumes.Provisioning`.  `Provision` returns the row it has inserted, in status 'provisioning', and
starts the goroutine that waits for the container; by the time the restore looks at its target
that goroutine may have written any number of statuses to the row.

The target of a restore must be 'running', and the row that is looked at is the one `Provision`
returned: `restore_new_iff` says that a restore into a new database keeps its promise just if it
never gets one.
-/
import Nixway.Volumes.Provisioning

namespace Nixway.Volumes.Restore

open Nixway.Theory Nixway.Store
open Nixway.Theory.Prog (query exec atomic ignore)
open Nixway.Secrets (SecretStore encryptionContext)
open Nixway.Database (Backup DatabaseStatus Vault restorable dbTypeForTemplate superuserForTemplate
  defaultDBName)
open Nixway.Volumes.Databases
open Nixway.Volumes.Provisioning

set_option autoImplicit false

/-! ## The store -/

/-- A `RestoreCommand`, with the agent it is sent to. -/
structure RestoreCommand where
  agentID : String
  backupID : UUID
  databaseID : UUID
  containerName : String
  databaseType : String
  superuser : String
  superuserPassword : String
  dbname : String
  tool : String
  downloadURL : String

structure RestoreStore where
  estate : Estate := {}
  backups : Table Backup := .empty
  sent : List RestoreCommand := []

def onEstate {β : Type} (p : Prog Estate β) : Prog RestoreStore β :=
  p.within RestoreStore.estate fun s t => { s with estate := t }

@[simp] theorem run_onEstate {β : Type} (p : Prog Estate β) (s : RestoreStore) :
    (onEstate p).run s = ({ s with estate := (p.run s.estate).1 }, (p.run s.estate).2) :=
  Prog.run_within_eq (by intros; rfl) (by intros; rfl) (by intros; rfl) p s

def getSecretByKey (s : SecretStore) (teamID : UUID) (environment key : String) :
    Option Secrets.Secret :=
  s.secrets.rows.find? fun secret =>
    secret.teamID = teamID ∧ secret.environment = environment ∧ secret.key = key

/-! ## The call -/

/-- How the wait for the agent ends; the channel may carry nil. -/
inductive Ending where
  | answered (success : Option Bool)
  | cancelled
  | timedOut

/-- How a restore fares. -/
structure RestoreCourse where
  storage : Bool := true
  provision : Course := {}
  /-- What the goroutine of `Provision` has written to the new row when the restore goes on. -/
  written : List DatabaseStatus := []
  getSourceFails : Bool := false
  resolveFails : Bool := false
  getServerFails : Bool := false
  presigned : Option String := some "https://storage/backup"
  sends : Bool := true
  ending : Ending := .answered (some true)

inductive RestoreError where
  | storageUnavailable | backup (message : String) | getSource
  | provision (error : ProvisionError) | invalidMode (mode : String)
  | notRunning (status : DatabaseStatus) | resolveSecret | emptySecret | presign | getServer
  | noAgent | noTool (backupTool : String) | send | nilResult | failed | cancelled | timedOut
deriving DecidableEq

structure RestoreResult where
  database : Database
  restartRequired : Bool := false
  note : String := ""
deriving DecidableEq

def restoreToolForBackupTool (backupTool : String) : String :=
  match backupTool with
  | "pg_dump" => "pg_restore"
  | "mysqldump" => "mysql"
  | "mongodump" => "mongorestore"
  | "redis-bgsave" => "redis-load"
  | _ => ""

/-- The request `RestoreFromBackup` makes for its new database. -/
def newRequest (source : Database) (newName : String) : ProvisionRequest :=
  { teamID := source.teamID, projectID := source.projectID, clusterID := source.clusterID
    templateSlug := source.templateSlug, version := source.version, name := newName }

/-- A status that the goroutine of `Provision` has written. -/
def settle (id : UUID) (s : RestoreStore) (status : DatabaseStatus) : RestoreStore :=
  { s with estate.bound := (s.estate.bound.updateDatabaseStatus id status).1 }

section Restore

variable (encrypt : String → String → Option (List UInt8))
  (decrypt : List UInt8 → String → Option String) (templates : Registry) (w : RestoreCourse)
  (ids : RowIDs)

/-- `BulkResolve` of the superuser's password. -/
def resolvePassword (teamID : UUID) (environment : String) : Prog RestoreStore (Option String) := do
  let some secret ← query fun s : RestoreStore =>
      if w.resolveFails then none
      else getSecretByKey s.estate.secrets teamID environment "SUPERUSER_PASSWORD"
    | return none
  let some plaintext := decrypt secret.encryptedValue (encryptionContext teamID)
    | return none
  exec fun s => { s with estate.secrets.accessLog := s.estate.secrets.accessLog ++
    [{ secretID := secret.id, teamID := teamID, actorID := none, actorType := "system",
       action := "resolve", ipAddress := "" }] }
  return some plaintext

def answer (target : Database) (tool : String) : Except RestoreError RestoreResult :=
  match w.ending with
  | .answered none => .error .nilResult
  | .answered (some false) => .error .failed
  | .cancelled => .error .cancelled
  | .timedOut => .error .timedOut
  | .answered (some true) =>
    if tool = "redis-load" then
      .ok ⟨target, true, "redis-load placed dump.rdb but the container must be restarted for " ++
        "it to take effect."⟩
    else .ok ⟨target, false, ""⟩

/-- `RestoreFromBackup`, once it has its target. -/
def restoreInto (backup : Backup) (target : Database) :
    Prog RestoreStore (Except RestoreError RestoreResult) := do
  if target.status ≠ .running then
    return .error (.notRunning target.status)
  let some superPass ← resolvePassword decrypt w target.teamID ("database:" ++ target.name)
    | return .error .resolveSecret
  if superPass = "" then
    return .error .emptySecret
  let some downloadURL := w.presigned
    | return .error .presign
  let some srv ← query fun s : RestoreStore =>
      if w.getServerFails then none
      else s.estate.bound.getServerByID target.serverID target.teamID
    | return .error .getServer
  let some agentID := srv.agentID.filter fun agent => agent ≠ ""
    | return .error .noAgent
  let tool := restoreToolForBackupTool backup.backupTool
  if tool = "" then
    return .error (.noTool backup.backupTool)
  if !w.sends then
    return .error .send
  exec fun s => { s with sent := s.sent ++
    [{ agentID := agentID, backupID := backup.id, databaseID := target.id
       containerName := target.containerName
       databaseType := dbTypeForTemplate target.templateSlug
       superuser := superuserForTemplate target.templateSlug, superuserPassword := superPass
       dbname := defaultDBName target.templateSlug target.name, tool := tool
       downloadURL := downloadURL }] }
  return answer w target tool

/-- The new database, and what its goroutine has done to the row. -/
def provisionTarget (source : Database) (newName : String) :
    Prog RestoreStore (Except RestoreError Database) := do
  match ← onEstate (Provisioning.provision encrypt templates w.provision ids
      (newRequest source newName)) with
  | .error error => return .error (.provision error)
  | .ok created => do
    exec fun s => w.written.foldl (settle created.id) s
    return .ok created

/-- The backup and its database, if the call gets as far. -/
def source (s : RestoreStore) (backupID : UUID) : Except RestoreError (Backup × Database) :=
  if !w.storage then .error .storageUnavailable
  else
    match restorable { backups := s.backups } backupID with
    | .error message => .error (.backup message)
    | .ok backup =>
      match if w.getSourceFails then none else s.estate.bound.getDatabase backup.databaseID with
      | none => .error .getSource
      | some database => .ok (backup, database)

/-- `RestoreFromBackup`; beside it there is only the goroutine of its `Provision`. -/
def restoreFromBackup (backupID : UUID) (targetMode newName : String) :
    Prog RestoreStore (Except RestoreError RestoreResult) := do
  match ← query fun s => source w s backupID with
  | .error error => return .error error
  | .ok (backup, database) =>
    if targetMode = "in_place" ∨ targetMode = "" then
      restoreInto decrypt w backup database
    else if targetMode = "new" then do
      match ← provisionTarget encrypt templates w ids database newName with
      | .error error => return .error error
      | .ok target => restoreInto decrypt w backup target
    else
      return .error (.invalidMode targetMode)

end Restore

/-! ## Complete or absent -/

section Promise

variable (encrypt : String → String → Option (List UInt8))
  (decrypt : List UInt8 → String → Option String) (templates : Registry) (w : RestoreCourse)
  (ids : RowIDs) (s : RestoreStore) (backupID : UUID) (newName : String)

/-- A restore into a new database succeeds if the provisioning has ended healthy and the agent
reports a success, and an error leaves no row of it. -/
structure Promised : Prop where
  complete : ∀ backup database, source w s backupID = .ok (backup, database) →
    (∃ created, (Provisioning.provision encrypt templates w.provision ids
      (newRequest database newName)).result s.estate = .ok created) →
    w.written.getLast? = some .running → w.ending = .answered (some true) →
    ∃ restored, (restoreFromBackup encrypt decrypt templates w ids backupID "new" newName).result s =
      .ok restored
  absent : ∀ error,
    (restoreFromBackup encrypt decrypt templates w ids backupID "new" newName).result s =
      .error error →
    NothingNew s.estate
      ((restoreFromBackup encrypt decrypt templates w ids backupID "new" newName).out s).estate

/-- The call gets no database and no row of one: it ends before its `Provision`, or that fails and
loses no volume. -/
def Spared : Prop :=
  ∀ backup database, source w s backupID = .ok (backup, database) →
    ¬ Succeeds encrypt templates w.provision ids (newRequest database newName) s.estate ∧
      ¬ ∃ p, Inserts templates w.provision ids (newRequest database newName) s.estate p ∧
        w.provision.Loses

variable {w s backupID}

theorem run_refused {error : RestoreError} (refused : source w s backupID = .error error) :
    (restoreFromBackup encrypt decrypt templates w ids backupID "new" newName).run s =
      (s, .error error) := by
  rw [restoreFromBackup, Prog.run_query_bind, refused]
  rfl

theorem run_idle (backup : Backup) {target : Database} (idle : target.status ≠ .running)
    (s : RestoreStore) :
    (restoreInto decrypt w backup target).run s = (s, .error (.notRunning target.status)) := by
  unfold restoreInto
  rw [if_pos idle]
  rfl

section Found

variable {backup : Backup} {database : Database}
  (found : source w s backupID = .ok (backup, database))

include found

theorem run_found :
    (restoreFromBackup encrypt decrypt templates w ids backupID "new" newName).run s =
      (provisionTarget encrypt templates w ids database newName >>= fun target =>
        match target with
        | .error error => pure (.error error)
        | .ok target => restoreInto decrypt w backup target).run s := by
  rw [restoreFromBackup, Prog.run_query_bind, found]
  rfl

theorem run_unprovisioned {error : ProvisionError}
    (failed : (Provisioning.provision encrypt templates w.provision ids
      (newRequest database newName)).result s.estate = .error error) :
    (restoreFromBackup encrypt decrypt templates w ids backupID "new" newName).run s =
      ({ s with estate := (Provisioning.provision encrypt templates w.provision ids
          (newRequest database newName)).out s.estate }, .error (.provision error)) := by
  unfold Prog.result at failed
  rw [run_found encrypt decrypt templates ids newName found, Prog.run_bind, provisionTarget, Prog.run_bind, run_onEstate, failed]
  rfl

/-- `Provision` answers a row that is not running yet: whatever has been written to the row
since, the call fails. -/
theorem run_provisioned {created : Database} (waiting : created.status = .provisioning)
    (worked : (Provisioning.provision encrypt templates w.provision ids
      (newRequest database newName)).result s.estate = .ok created) :
    (restoreFromBackup encrypt decrypt templates w ids backupID "new" newName).run s =
      (w.written.foldl (settle created.id)
        { s with estate := (Provisioning.provision encrypt templates w.provision ids
            (newRequest database newName)).out s.estate },
        .error (.notRunning .provisioning)) := by
  have idle : created.status ≠ .running := by
    rw [waiting]
    exact nofun
  unfold Prog.result at worked
  rw [run_found encrypt decrypt templates ids newName found, Prog.run_bind, provisionTarget, Prog.run_bind, run_onEstate, worked]
  dsimp only
  rw [Prog.run_exec_bind]
  show (restoreInto decrypt w backup created).run _ = _
  rw [run_idle decrypt backup idle, waiting]
  rfl

end Found

theorem find?_settled (id k : UUID) (statuses : List DatabaseStatus) (s : RestoreStore)
    (there : s.estate.bound.databases.find? k ≠ none) :
    (statuses.foldl (settle id) s).estate.bound.databases.find? k ≠ none := by
  induction statuses generalizing s with
  | nil => exact there
  | cons status rest ih =>
    refine ih (settle id s status) ?_
    unfold settle BoundStore.updateDatabaseStatus
    rw [← Option.isSome_iff_ne_none] at there ⊢
    dsimp only
    rw [Table.isSome_find?_update]
    exact there

variable (w s backupID)

/-- **A restore into a new database keeps its promise just if it gets no database.** -/
theorem restore_new_iff (undoes : w.provision.Undoes) :
    Promised encrypt decrypt templates w ids s backupID newName ↔
      Spared encrypt templates w ids s backupID newName := by
  cases found : source w s backupID with
  | error error =>
    have ran := run_refused encrypt decrypt templates ids newName found
    refine iff_of_true ⟨fun _ _ other => ?_, fun _ _ => ?_⟩ fun _ _ other => ?_
    · rw [found] at other
      cases other
    · rw [Prog.out, ran]
      exact .refl s.estate
    · rw [found] at other
      cases other
  | ok both =>
  obtain ⟨backup, database⟩ := both
  have spared : Spared encrypt templates w ids s backupID newName ↔ _ :=
    ⟨fun spared => spared backup database found, fun holds backup' database' other => by
      rw [found] at other
      cases other
      exact holds⟩
  rw [spared]
  rcases provision_cases encrypt templates w.provision ids (newRequest database newName) s.estate
    with ⟨succeeds, created, worked, provisioned⟩ | ⟨fails, error, failed⟩
  · have ran := run_provisioned encrypt decrypt templates ids newName found
      provisioned.status worked
    refine iff_of_false (fun promised => ?_) fun spared => spared.1 succeeds
    have clean := promised.absent _ (congrArg Prod.snd ran)
    rw [Prog.out, ran] at clean
    refine find?_settled created.id created.id w.written _ ?_
      (clean.databases created.id provisioned.fresh)
    rw [provisioned.stored]
    exact Option.some_ne_none created
  · have ran := run_unprovisioned encrypt decrypt templates ids newName found failed
    have whole := all_or_nothing_iff encrypt templates w.provision ids
      (newRequest database newName) undoes s.estate
    constructor
    · intro promised
      refine ⟨fails, whole.mp fun _ _ => ?_⟩
      have clean := promised.absent _ (congrArg Prod.snd ran)
      rw [Prog.out, ran] at clean
      exact clean
    · rintro ⟨-, kept⟩
      refine ⟨fun _ _ other worked _ _ => ?_, fun _ _ => ?_⟩
      · rw [found] at other
        cases other
        obtain ⟨created, worked⟩ := worked
        rw [failed] at worked
        cases worked
      · rw [Prog.out, ran]
        exact whole.mpr kept error failed

end Promise

/-! ### A database that is never reached -/

def ordersRow : Database :=
  { id := 11, teamID := 1, projectID := 3, clusterID := 5, serverID := 21, volumeID := none
    templateSlug := "postgres", version := "16", name := "orders"
    containerName := "nw-db-shop-orders", status := .running }

def ordersBackup : Backup :=
  { id := 41, databaseID := 11, type := .manual, status := .completed
    storagePath := some "backups/11/41.dump", backupTool := "pg_dump", startedAt := 0 }

def shop : RestoreStore :=
  { estate := { bound :=
      { twoServerCluster with databases := ⟨[ordersRow], List.nodup_singleton _⟩ } }
    backups := ⟨[ordersBackup], List.nodup_singleton _⟩ }

def plainDecrypt (ciphertext : List UInt8) (_context : String) : Option String :=
  String.fromUTF8? ⟨ciphertext.toArray⟩

def copyRows : RowIDs := { newRows with database := 12 }

/-- The second secret is refused: no database, and nothing of one. -/
theorem refused_copy_absent :
    ({ provision := refusedSecret } : RestoreCourse).provision.Undoes ∧
      (restoreFromBackup plainEncrypt plainDecrypt catalog { provision := refusedSecret } copyRows
        41 "new" "orders-copy").result shop = .error (.provision .storeCredentials) ∧
      Promised plainEncrypt plainDecrypt catalog { provision := refusedSecret } copyRows shop 41
        "orders-copy" := by
  have undoes : refusedSecret.Undoes := ⟨rfl, rfl, rfl, rfl, rfl⟩
  refine ⟨undoes, by decide, ?_⟩
  refine (restore_new_iff plainEncrypt plainDecrypt catalog { provision := refusedSecret } copyRows
    shop 41 "orders-copy" undoes).mpr fun backup database found => ⟨?_, ?_⟩
  · have known : source { provision := refusedSecret } shop 41 = .ok (ordersBackup, ordersRow) := by
      decide
    rw [known] at found
    cases found
    rcases provision_cases plainEncrypt catalog refusedSecret copyRows
      (newRequest ordersRow "orders-copy") shop.estate with ⟨-, created, worked, -⟩ | ⟨fails, -⟩
    · have failed : ((Provisioning.provision plainEncrypt catalog refusedSecret copyRows
          (newRequest ordersRow "orders-copy")).result shop.estate).isOk = false := by
        decide
      rw [worked] at failed
      cases failed
    · exact fails
  · rintro ⟨p, -, path | reload⟩
    · cases path
    · cases reload

/-- The container is healthy before the restore looks at it, and the restore fails; the database
and its volume stay. -/
theorem healthy_copy_left :
    let course : RestoreCourse := { written := [.running] }
    (restoreFromBackup plainEncrypt plainDecrypt catalog course copyRows 41 "new"
        "orders-copy").result shop = .error (.notRunning .provisioning) ∧
      ((restoreFromBackup plainEncrypt plainDecrypt catalog course copyRows 41 "new"
        "orders-copy").out shop).estate.bound.databases.rows.map (fun d => (d.name, d.status)) =
          [("orders-copy", .running), ("orders", .running)] ∧
      ¬ Promised plainEncrypt plainDecrypt catalog course copyRows shop 41 "orders-copy" := by
  have failed : (restoreFromBackup plainEncrypt plainDecrypt catalog { written := [.running] }
      copyRows 41 "new" "orders-copy").result shop = .error (.notRunning .provisioning) := by
    decide
  refine ⟨failed, by decide, fun promised => ?_⟩
  have gone := (promised.absent _ failed).volumes 7 rfl
  revert gone
  decide

end Nixway.Volumes.Restore
