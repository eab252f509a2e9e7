/-
# Database.Completed -- when 'completed' means backed up

Creations of backups, results of agents, sweeps and deletions run beside each other, one
statement at a time, with failures of the store anywhere and crashes that leave a call
where it stands.  `Truthful` is what a restore relies on: a backup is 'completed' only if
an agent reported its success.

The creation of a backup breaks it by itself: it stores the path of the upload with
`UpdateBackupCompleted`, before the command has been sent.  A run keeps `Truthful`
throughout exactly when no such statement takes effect on a backup no agent has reported
(`completed_iff`); in particular a crash right after that statement leaves a backup that
can be restored and was never made.
-/
import Nixway.Database.Backups

namespace Nixway.Database

open Nixway.Theory Nixway.Store
open Nixway.Theory.Prog (query atomic ignore)

set_option autoImplicit false

/-! ## The calls as a graph -/

inductive Call where
  | create (call : Creation)
  | result (result : BackupResult)
  | upkeep (upkeep : Upkeep)

/-- Where a call stands: the statement it carries out next, with what it knows by then. -/
inductive Point where
  | getDatabase
  | resolve (d : DatabaseRow) (tool ext : String)
  | insert (d : DatabaseRow) (tool ext password : String)
  | presign (d : DatabaseRow) (tool ext password : String)
  | getServer (d : DatabaseRow) (tool ext password : String)
  | stash (agentID key : String) (cmd : BackupCommand)
  | restart (agentID : String) (cmd : BackupCommand)
  | send (agentID : String) (cmd : BackupCommand)
  | refresh
  | fail (error : String)
  | report
  | reject
  | readPath
  | complete (path : Option String)
  | reread
  | sweep
  | cutoff (d : DatabaseRow)
  | listOld (limit : Int)
  | deleteOld (limit : Int)
  | find
  | delete
  | halt

namespace Point

/-! ### Creation -/

section Creating

variable (call : Creation)

def createCode : Point → Prog Vault Unit
  | .getDatabase => ignore call.run
  | .resolve d tool ext => ignore (call.resolve d tool ext)
  | .insert d tool ext password => ignore (call.insert d tool ext password)
  | .presign d tool ext password => ignore (call.proceed d tool ext password)
  | .getServer d tool ext password => ignore (call.serve d tool ext password)
  | .stash agentID key cmd => ignore (call.stash agentID key cmd)
  | .restart agentID cmd => ignore (call.restart agentID cmd)
  | .send agentID cmd => ignore (call.dispatch agentID cmd)
  | .refresh => ignore (call.weather.stmt .refresh fun s => (s, s.getBackup call.id))
  | .fail error => ignore (call.fail error)
  | _ => .done ⟨⟩

def afterDatabase : Option DatabaseRow → Point
  | none => .halt
  | some d =>
    if d.status ≠ .running then .halt
    else match backupToolForTemplate d.templateSlug with
      | none => .halt
      | some (tool, ext) => .resolve d tool ext

def afterResolve (d : DatabaseRow) (tool ext : String) : Option String → Point
  | none => .halt
  | some password => if password = "" then .halt else .insert d tool ext password

def afterInsert (d : DatabaseRow) (tool ext password : String) : Option Backup → Point
  | none => .halt
  | some _ => .presign d tool ext password

def afterPresign (d : DatabaseRow) (tool ext password : String) : Option Unit → Point
  | none => .fail ("presign put: " ++ call.weather.error .presign)
  | some () => .getServer d tool ext password

def afterServer (d : DatabaseRow) (tool ext password : String) : Option Server → Point
  | none => .fail ("get server: " ++ call.weather.error .getServer)
  | some server =>
    match server.agentID.filter (· ≠ "") with
    | none => .fail "server has no connected agent"
    | some agentID => .stash agentID (call.storageKey ext) (call.command d tool ext password)

def afterSend : Option (Option String) → Point
  | some none => .refresh
  | some (some err) => .fail ("send to agent: " ++ err)
  | none => .fail ("send to agent: " ++ call.weather.error .send)

/-- An edge for a statement, with the point its answer leads to. -/
def edge {α : Type} (weather : Weather) (place : Stmt) (f : Vault → Vault × Option α)
    (after : Option α → Point) : Option ((Vault → Vault) × (Vault → Point)) :=
  some (fun s => (weather.carry place f s).1, fun s => after (weather.carry place f s).2)

def createAct : Point → Option ((Vault → Vault) × (Vault → Point))
  | .getDatabase => edge call.weather .getDatabase
      (fun s => (s, s.databases.find? call.databaseID)) afterDatabase
  | .resolve d tool ext => edge call.weather .resolve
      (fun s => (s, s.getSecretByKey d.teamID ("database:" ++ d.name) "SUPERUSER_PASSWORD"))
      (afterResolve d tool ext)
  | .insert d tool ext password => edge call.weather .insert
      (fun s => s.createBackup call.id call.databaseID call.type tool call.userID)
      (afterInsert d tool ext password)
  | .presign d tool ext password => edge call.weather .presign (fun s => (s, some ()))
      (afterPresign call d tool ext password)
  | .getServer d tool ext password => edge call.weather .getServer
      (fun s => (s, s.getServerByID d.serverID d.teamID)) (afterServer call d tool ext password)
  | .stash agentID key cmd => edge call.weather .stash
      (fun s => (s.updateBackupCompleted call.id none (some key), some ()))
      fun _ => .restart agentID cmd
  | .restart agentID cmd => edge call.weather .restart
      (fun s => (s.updateBackupStarted call.id, some ())) fun _ => .send agentID cmd
  | .send agentID cmd => edge call.weather .send (Creation.hand agentID cmd) (afterSend call)
  | .refresh => edge call.weather .refresh (fun s => (s, s.getBackup call.id)) fun _ => .halt
  | .fail error => edge call.weather .markFailed
      (fun s => (s.updateBackupFailed call.id error, some ())) fun _ => .halt
  | _ => none

theorem code_edge {α β : Type} {weather : Weather} {place : Stmt} {f : Vault → Vault × Option α}
    {rest : Option α → Prog Vault β} {code : Point → Prog Vault Unit} (after : Option α → Point)
    (same : ∀ answer, ignore (rest answer) = code (after answer)) {effect : Vault → Vault}
    {next : Vault → Point} (here : edge weather place f after = some (effect, next)) :
    ignore (weather.stmt place f >>= rest) = .step effect fun s => code (next s) := by
  cases here
  exact Prog.step_congr fun s => same _

theorem code_last {α : Type} {weather : Weather} {place : Stmt} {f : Vault → Vault × Option α}
    {code : Point → Prog Vault Unit} (stops : code .halt = .done ⟨⟩) {effect : Vault → Vault}
    {next : Vault → Point} (here : edge weather place f (fun _ => .halt) = some (effect, next)) :
    ignore (weather.stmt place f) = .step effect fun s => code (next s) := by
  cases here
  exact Prog.step_congr fun s => stops.symm

theorem create_presents :
    (⟨createAct call⟩ : Flow Vault Point).Presents (createCode call) where
  halted k here := by
    cases k with
    | _ => first | rfl | cases here
  moves k effect next here := by
    cases k with
    | getDatabase =>
      refine code_edge afterDatabase (fun answer => ?_) here
      cases answer with
      | none => rfl
      | some d =>
        by_cases running : d.status = .running
        · cases tool : backupToolForTemplate d.templateSlug with
          | none => simp [afterDatabase, running, tool, createCode, ignore]
          | some pair => simp [afterDatabase, running, tool, createCode]
        · simp [afterDatabase, running, createCode, ignore]
    | resolve d tool ext =>
      refine code_edge (afterResolve d tool ext) (fun answer => ?_) here
      cases answer with
      | none => rfl
      | some password =>
        by_cases empty : password = ""
        · simp [afterResolve, empty, createCode, ignore]
        · simp [afterResolve, empty, createCode]
    | insert d tool ext password =>
      refine code_edge (afterInsert d tool ext password) (fun answer => ?_) here
      cases answer with
      | none => rfl
      | some row => simp [afterInsert, createCode, ignore]
    | presign d tool ext password =>
      refine code_edge (afterPresign call d tool ext password) (fun answer => ?_) here
      cases answer with
      | none => rfl
      | some => rfl
    | getServer d tool ext password =>
      refine code_edge (afterServer call d tool ext password) (fun answer => ?_) here
      cases answer with
      | none => rfl
      | some server =>
        cases agent : server.agentID.filter (· ≠ "") with
        | none => simp only [afterServer, agent]; rfl
        | some agentID => simp only [afterServer, agent]; rfl
    | stash agentID key cmd =>
      refine code_edge (fun _ => .restart agentID cmd) (fun answer => ?_) here
      rfl
    | restart agentID cmd =>
      refine code_edge (fun _ => .send agentID cmd) (fun answer => ?_) here
      rfl
    | send agentID cmd =>
      refine code_edge (afterSend call) (fun answer => ?_) here
      match answer with
      | none => rfl
      | some none => rfl
      | some (some err) => rfl
    | refresh =>
      exact code_last rfl here
    | fail error =>
      refine code_edge (fun _ => .halt) (fun answer => ?_) here
      rfl
    | _ => cases here

end Creating

/-! ### Results -/

section Reporting

variable (result : BackupResult)

def resultCode : Point → Prog Vault Unit
  | .report => ignore result.run
  | .reject => ignore result.reject
  | .readPath => ignore result.readPath
  | .complete path => ignore (result.complete path)
  | .reread => ignore (result.weather.stmt .reread fun s => (s, s.getBackup result.backupID))
  | _ => .done ⟨⟩

def afterReport : Point :=
  if !result.success then .reject
  else if result.storagePath ≠ "" then .complete (some result.storagePath)
  else .readPath

def afterComplete : Option Unit → Point
  | none => .halt
  | some () => .reread

def resultAct : Point → Option ((Vault → Vault) × (Vault → Point))
  | .report => some (result.report, fun _ => afterReport result)
  | .reject => edge result.weather .markFailed
      (fun s => (s.updateBackupFailed result.backupID result.error, some ())) fun _ => .halt
  | .readPath => edge result.weather .readPath (fun s => (s, s.getBackup result.backupID))
      fun row => .complete (row.bind Backup.storagePath)
  | .complete path => edge result.weather .complete
      (fun s => (s.updateBackupCompleted result.backupID (some result.sizeBytes) path, some ()))
      afterComplete
  | .reread => edge result.weather .reread (fun s => (s, s.getBackup result.backupID))
      fun _ => .halt
  | _ => none

theorem result_presents :
    (⟨resultAct result⟩ : Flow Vault Point).Presents (resultCode result) where
  halted k here := by
    cases k with
    | _ => first | rfl | cases here
  moves k effect next here := by
    cases k with
    | report =>
      cases here
      refine Prog.step_congr fun s => ?_
      show ignore (if (!result.success) = true then _ else _) = resultCode result (afterReport result)
      unfold afterReport
      split
      · rfl
      · split
        · rfl
        · rfl
    | reject =>
      refine code_edge (fun _ => .halt) (fun answer => ?_) here
      rfl
    | readPath =>
      refine code_edge (fun row => .complete (row.bind Backup.storagePath)) (fun answer => ?_) here
      rfl
    | complete path =>
      refine code_edge afterComplete (fun answer => ?_) here
      cases answer with
      | none => rfl
      | some => rfl
    | reread =>
      exact code_last rfl here
    | _ => cases here

end Reporting

/-! ### Upkeep -/

section Sweeping

variable (databaseID : UUID) (weather : Weather)

def sweepCode : Point → Prog Vault Unit
  | .sweep => ignore (Upkeep.retention databaseID weather).run
  | .cutoff d => ignore (Upkeep.sweepAged databaseID weather d)
  | .listOld limit => ignore (Upkeep.sweepOld databaseID weather limit)
  | .deleteOld limit => ignore (weather.exec .deleteOld fun s =>
    s.deleteBackupsOlderThan databaseID limit)
  | _ => .done ⟨⟩

def afterSweep : Option DatabaseRow → Point
  | none => .halt
  | some d => .cutoff d

def afterList (limit : Int) : Option Unit → Point
  | none => .halt
  | some () => .deleteOld limit

def sweepAct : Point → Option ((Vault → Vault) × (Vault → Point))
  | .sweep => edge weather .getDatabase (fun s => (s, s.databases.find? databaseID)) afterSweep
  | .cutoff d => some (id, fun s => .listOld (retentionCutoff d s.now))
  | .listOld limit => edge weather .listOld (fun s => (s, some ())) (afterList limit)
  | .deleteOld limit => edge weather .deleteOld
      (fun s => (s.deleteBackupsOlderThan databaseID limit, some ())) fun _ => .halt
  | _ => none

theorem sweep_presents :
    (⟨sweepAct databaseID weather⟩ : Flow Vault Point).Presents (sweepCode databaseID weather) where
  halted k here := by
    cases k with
    | _ => first | rfl | cases here
  moves k effect next here := by
    cases k with
    | sweep =>
      refine code_edge afterSweep (fun answer => ?_) here
      cases answer with
      | none => rfl
      | some d => rfl
    | cutoff d =>
      cases here
      rfl
    | listOld limit =>
      refine code_edge (afterList limit) (fun answer => ?_) here
      cases answer with
      | none => rfl
      | some => rfl
    | deleteOld limit =>
      exact code_last rfl here
    | _ => cases here

def deleteCode (id : UUID) : Point → Prog Vault Unit
  | .find => ignore (Upkeep.delete id weather).run
  | .delete => ignore (weather.exec .delete fun s => s.deleteBackup id)
  | _ => .done ⟨⟩

def afterFind : Option Backup → Point
  | none => .halt
  | some _ => .delete

def deleteAct (id : UUID) : Point → Option ((Vault → Vault) × (Vault → Point))
  | .find => edge weather .reread (fun s => (s, s.getBackup id)) afterFind
  | .delete => edge weather .delete (fun s => (s.deleteBackup id, some ())) fun _ => .halt
  | _ => none

theorem delete_presents (id : UUID) :
    (⟨deleteAct weather id⟩ : Flow Vault Point).Presents (deleteCode weather id) where
  halted k here := by
    cases k with
    | _ => first | rfl | cases here
  moves k effect next here := by
    cases k with
    | find =>
      refine code_edge afterFind (fun answer => ?_) here
      cases answer with
      | none => rfl
      | some row => rfl
    | delete =>
      exact code_last rfl here
    | _ => cases here

end Sweeping

end Point

/-! ## Calls beside each other -/

namespace Call

def flow : Call → Flow Vault Point
  | .create c => ⟨Point.createAct c⟩
  | .result r => ⟨Point.resultAct r⟩
  | .upkeep (.retention databaseID weather) => ⟨Point.sweepAct databaseID weather⟩
  | .upkeep (.delete id weather) => ⟨Point.deleteAct weather id⟩

def code : Call → Point → Prog Vault Unit
  | .create c => Point.createCode c
  | .result r => Point.resultCode r
  | .upkeep (.retention databaseID weather) => Point.sweepCode databaseID weather
  | .upkeep (.delete id weather) => Point.deleteCode weather id

def prog : Call → Prog Vault Unit
  | .create c => ignore c.run
  | .result r => ignore r.run
  | .upkeep u => ignore u.run

def start : Call → Point
  | .create _ => .getDatabase
  | .result _ => .report
  | .upkeep (.retention _ _) => .sweep
  | .upkeep (.delete _ _) => .find

theorem presents (call : Call) : call.flow.Presents call.code := by
  match call with
  | .create c => exact Point.create_presents c
  | .result r => exact Point.result_presents r
  | .upkeep (.retention databaseID weather) => exact Point.sweep_presents databaseID weather
  | .upkeep (.delete id weather) => exact Point.delete_presents weather id

theorem code_start (call : Call) : call.code call.start = call.prog := by
  match call with
  | .create _ => rfl
  | .result _ => rfl
  | .upkeep (.retention _ _) => rfl
  | .upkeep (.delete _ _) => rfl

end Call

def calls (list : List Call) : List (Call × Point) := list.map fun call => (call, call.start)

def callPool (s : Vault) (list : List Call) : Pool Vault := ⟨s, list.map Call.prog⟩

def callFlow : Flow Vault (Call × Point) := Flow.indexed Call.flow

theorem callPool_run (s : Vault) (list : List Call) (schedule : List Nat) :
    ((callPool s list).run Pool.noSpawn schedule).store =
      (callFlow.run (fun _ _ => []) (s, calls list) schedule).1 := by
  have same : callPool s list = Flow.pool (fun k : Call × Point => k.1.code k.2) (s, calls list) := by
    simp only [callPool, Flow.pool, calls, List.map_map, Function.comp_def, Call.code_start]
  rw [same, Flow.run_coded_noSpawn (Flow.indexed_presents Call.presents)]
  rfl

/-! ## Completed and reported -/

/-- A backup is completed only if an agent reported its success. -/
def Truthful (s : Vault) : Prop := ∀ b ∈ s.backups, b.status = .completed → b.id ∈ s.reported

instance (s : Vault) : Decidable (Truthful s) :=
  inferInstanceAs (Decidable (∀ b ∈ s.backups.rows, b.status = .completed → b.id ∈ s.reported))

theorem Truthful.restorable {s : Vault} (truthful : Truthful s) {id : UUID} {backup : Backup}
    (accepted : restorable s id = .ok backup) : id ∈ s.reported := by
  unfold Database.restorable at accepted
  split at accepted
  · cases accepted
  · next found here =>
    split at accepted
    · cases accepted
    · next completed =>
      obtain ⟨mem, key⟩ := Table.find?_eq_some_iff.mp here
      subst key
      exact truthful found mem (not_not.mp completed)

/-- A step after which no other backup is completed, and every report is still known. -/
structure Calm (s t : Vault) : Prop where
  reported : ∀ id ∈ s.reported, id ∈ t.reported
  completed : ∀ b ∈ t.backups, b.status = .completed →
    ∃ a ∈ s.backups, a.id = b.id ∧ a.status = .completed

namespace Calm

variable {s : Vault}

theorem of_same {t : Vault} (backups : t.backups = s.backups) (reported : t.reported = s.reported) :
    Calm s t where
  reported id mem := by rw [reported]; exact mem
  completed b mem done := ⟨b, by rw [← backups]; exact mem, rfl, done⟩

theorem truthful {t : Vault} (calm : Calm s t) (truthful : Truthful s) : Truthful t := by
  intro b mem done
  obtain ⟨a, old, key, completed⟩ := calm.completed b mem done
  rw [← key]
  exact calm.reported _ (truthful a old completed)

/-- A statement that leaves the rows alone, or marks one as running or failed. -/
theorem update {f : Backup → Backup} (keeps : ∀ b, Keyed.key (f b) = Keyed.key b)
    (lowers : ∀ b, (f b).status ≠ .completed) (id : UUID) :
    Calm s { s with backups := s.backups.update id f keeps } where
  reported _ mem := mem
  completed b mem done := by
    obtain ⟨a, old, same⟩ := (Table.mem_update keeps).mp mem
    split at same
    · subst same
      exact absurd done (lowers a)
    · subst same
      exact ⟨a, old, rfl, done⟩

theorem delete (p : Backup → Bool) : Calm s { s with backups := s.backups.deleteWhere p } where
  reported _ mem := mem
  completed b mem done := ⟨b, (Table.mem_deleteWhere.mp mem).1, rfl, done⟩

theorem createBackup (id databaseID : UUID) (type : BackupType) (tool : String)
    (triggeredBy : Option UUID) :
    Calm s (s.createBackup id databaseID type tool triggeredBy).1 := by
  simp only [Vault.createBackup]
  split
  · exact .of_same rfl rfl
  · split
    · next backups inserted =>
      refine ⟨fun _ mem => mem, fun b mem done => ?_⟩
      rcases (Table.mem_insert? inserted).mp mem with rfl | old
      · cases done
      · exact ⟨b, old, rfl, done⟩
    · exact .of_same rfl rfl

theorem hand (agentID : String) (cmd : BackupCommand) : Calm s (Creation.hand agentID cmd s).1 := by
  obtain ⟨sent, same⟩ := Creation.hand_store agentID cmd s
  rw [same]
  exact .of_same rfl rfl

/-- The weather lets time pass, and may drop the statement. -/
theorem carry {α : Type} {weather : Weather} {place : Stmt} {f : Vault → Vault × Option α}
    (calm : ∀ s, Calm s (f s).1) (s : Vault) : Calm s (weather.carry place f s).1 := by
  unfold Weather.carry
  split
  · exact .of_same rfl rfl
  · obtain ⟨reported, completed⟩ := calm { s with now := s.now + weather.lag place }
    exact ⟨reported, completed⟩

end Calm

/-- The backup the next statement of a call marks as completed. -/
def marks : Call × Point → Option UUID
  | (.create call, .stash _ _ _) => if call.weather.fails .stash then none else some call.id
  | (.result result, .complete _) =>
    if result.weather.fails .complete then none else some result.backupID
  | _ => none

theorem calm_create {call : Creation} {k : Point} {effect : Vault → Vault} {next : Vault → Point}
    (edge : Point.createAct call k = some (effect, next)) (quiet : marks (.create call, k) = none)
    (s : Vault) : Calm s (effect s) := by
  cases k with
  | getDatabase => cases edge; exact .carry (fun _ => .of_same rfl rfl) s
  | resolve d tool ext => cases edge; exact .carry (fun _ => .of_same rfl rfl) s
  | insert d tool ext password => cases edge; exact .carry (fun _ => .createBackup ..) s
  | presign d tool ext password => cases edge; exact .carry (fun _ => .of_same rfl rfl) s
  | getServer d tool ext password => cases edge; exact .carry (fun _ => .of_same rfl rfl) s
  | stash agentID key cmd =>
    cases edge
    simp only [marks, ite_eq_left_iff, reduceCtorEq, imp_false, not_not] at quiet
    simp only [Weather.carry, quiet, if_true]
    exact .of_same rfl rfl
  | restart agentID cmd => cases edge; exact .carry (fun _ => .update _ (by intro b marked; cases marked) _) s
  | send agentID cmd => cases edge; exact .carry (fun _ => .hand agentID cmd) s
  | refresh => cases edge; exact .carry (fun _ => .of_same rfl rfl) s
  | fail error => cases edge; exact .carry (fun _ => .update _ (by intro b marked; cases marked) _) s
  | _ => cases edge

theorem calm_result {result : BackupResult} {k : Point} {effect : Vault → Vault}
    {next : Vault → Point} (edge : Point.resultAct result k = some (effect, next))
    (quiet : marks (.result result, k) = none) (s : Vault) : Calm s (effect s) := by
  cases k with
  | report =>
    cases edge
    unfold BackupResult.report
    split
    · exact ⟨fun _ mem => List.mem_cons_of_mem _ mem, fun b mem done => ⟨b, mem, rfl, done⟩⟩
    · exact .of_same rfl rfl
  | reject => cases edge; exact .carry (fun _ => .update _ (by intro b marked; cases marked) _) s
  | readPath => cases edge; exact .carry (fun _ => .of_same rfl rfl) s
  | complete path =>
    cases edge
    simp only [marks, ite_eq_left_iff, reduceCtorEq, imp_false, not_not] at quiet
    simp only [Weather.carry, quiet, if_true]
    exact .of_same rfl rfl
  | reread => cases edge; exact .carry (fun _ => .of_same rfl rfl) s
  | _ => cases edge

theorem calm_sweep {databaseID : UUID} {weather : Weather} {k : Point} {effect : Vault → Vault}
    {next : Vault → Point} (edge : Point.sweepAct databaseID weather k = some (effect, next))
    (s : Vault) : Calm s (effect s) := by
  cases k with
  | sweep => cases edge; exact .carry (fun _ => .of_same rfl rfl) s
  | cutoff d => cases edge; exact .of_same rfl rfl
  | listOld limit => cases edge; exact .carry (fun _ => .of_same rfl rfl) s
  | deleteOld limit => cases edge; exact .carry (fun _ => .delete _) s
  | _ => cases edge

theorem calm_delete {id : UUID} {weather : Weather} {k : Point} {effect : Vault → Vault}
    {next : Vault → Point} (edge : Point.deleteAct weather id k = some (effect, next))
    (s : Vault) : Calm s (effect s) := by
  cases k with
  | find => cases edge; exact .carry (fun _ => .of_same rfl rfl) s
  | delete => cases edge; exact .carry (fun _ => .delete _) s
  | _ => cases edge

theorem calm_step {call : Call} {k : Point} {effect : Vault → Vault} {next : Vault → Point}
    (edge : call.flow.act k = some (effect, next)) (quiet : marks (call, k) = none) (s : Vault) :
    Calm s (effect s) := by
  match call with
  | .create c => exact calm_create edge quiet s
  | .result r => exact calm_result edge quiet s
  | .upkeep (.retention databaseID weather) => exact calm_sweep edge s
  | .upkeep (.delete id weather) => exact calm_delete edge s

/-- What a marking statement does to the rows. -/
def completing (now : Nat) (size : Option Int64) (path : Option String) (b : Backup) : Backup :=
  { b with status := .completed, sizeBytes := size, storagePath := path, completedAt := some now }

theorem marking_step {call : Call} {k : Point} {effect : Vault → Vault} {next : Vault → Point}
    (edge : call.flow.act k = some (effect, next)) {id : UUID} (here : marks (call, k) = some id)
    (s : Vault) : (effect s).reported = s.reported ∧ ∃ now size path,
      (effect s).backups = s.backups.update id (completing now size path) := by
  unfold marks at here
  split at here
  · next same =>
    cases same
    split at here
    · cases here
    · next works =>
      cases here
      cases edge
      simp only [Weather.carry, works, Bool.false_eq_true, if_false]
      exact ⟨rfl, _, _, _, rfl⟩
  · next same =>
    cases same
    split at here
    · cases here
    · next works =>
      cases here
      cases edge
      simp only [Weather.carry, works, Bool.false_eq_true, if_false]
      exact ⟨rfl, _, _, _, rfl⟩
  · cases here

/-- Marking a backup keeps the table truthful exactly if it is reported, or not there. -/
theorem truthful_marking {s t : Vault} (truthful : Truthful s) {id : UUID} {now : Nat}
    {size : Option Int64} {path : Option String} (reported : t.reported = s.reported)
    (backups : t.backups = s.backups.update id (completing now size path)) :
    Truthful t ↔ id ∈ s.reported ∨ s.backups.find? id = none := by
  have rows : ∀ b, b ∈ t.backups ↔
      ∃ a ∈ s.backups, (if a.id = id then completing now size path a else a) = b := by
    intro b
    rw [backups]
    exact Table.mem_update _
  constructor
  · intro after
    rcases found : s.backups.find? id with _ | b
    · exact .inr rfl
    · obtain ⟨mem, rfl⟩ := Table.find?_eq_some_iff.mp found
      have marked : completing now size path b ∈ t.backups :=
        (rows _).mpr ⟨b, mem, if_pos rfl⟩
      have known := after _ marked rfl
      rw [reported] at known
      exact .inl known
  · rintro known b mem done
    obtain ⟨a, old, same⟩ := (rows b).mp mem
    rw [reported]
    split at same
    · next key =>
      subst same
      rcases known with known | missing
      · exact key ▸ known
      · exact absurd key (Table.find?_eq_none_iff.mp missing a old)
    · subst same
      exact truthful a old done

/-! ## Runs -/

/-- A result that is about to complete its backup has been reported. -/
def Vouched (s : Vault) : Call × Point → Prop
  | (.result result, .complete _) => result.backupID ∈ s.reported
  | (.result result, .readPath) => result.backupID ∈ s.reported
  | _ => True

theorem vouched_mono {s t : Vault} (kept : ∀ id ∈ s.reported, id ∈ t.reported) {k : Call × Point}
    (vouched : Vouched s k) : Vouched t k := by
  unfold Vouched at *
  split
  · exact kept _ vouched
  · exact kept _ vouched
  · trivial

theorem vouched_next {call : Call} {k : Point} {effect : Vault → Vault} {next : Vault → Point}
    (edge : call.flow.act k = some (effect, next)) {s : Vault} (vouched : Vouched s (call, k)) :
    Vouched (effect s) (call, next s) := by
  match call with
  | .create c => trivial
  | .upkeep (.retention databaseID weather) => trivial
  | .upkeep (.delete id weather) => trivial
  | .result r =>
    cases k with
    | report =>
      cases edge
      unfold Point.afterReport BackupResult.report
      cases r.success with
      | false => trivial
      | true =>
        simp only [Bool.not_true, Bool.false_eq_true, if_false, if_true]
        split
        · exact List.mem_cons_self
        · exact List.mem_cons_self
    | readPath =>
      have kept := (calm_step edge rfl s).reported _ vouched
      cases edge
      exact kept
    | complete path =>
      cases edge
      show Vouched _ (.result r, Point.afterComplete _)
      unfold Point.afterComplete
      split <;> trivial
    | reject => cases edge; trivial
    | reread => cases edge; trivial
    | _ => cases edge

/-- The pick lets a creation store its path with `UpdateBackupCompleted`, on a row that is
there, before any report of success. -/
def marksEarly (c : Vault × List (Call × Point)) (i : Nat) : Bool :=
  match c.2[i]? with
  | some (.create call, .stash _ _ _) =>
    !call.weather.fails .stash && (c.1.backups.find? call.id).isSome &&
      !decide (call.id ∈ c.1.reported)
  | _ => false

def NoEarlyMark (c : Vault × List (Call × Point)) (i : Nat) : Prop := marksEarly c i = false

instance (c : Vault × List (Call × Point)) (i : Nat) : Decidable (NoEarlyMark c i) :=
  inferInstanceAs (Decidable (_ = _))

/-- The invariant of a run. -/
structure Kept (c : Vault × List (Call × Point)) : Prop where
  truthful : Truthful c.1
  vouched : ∀ k ∈ c.2, Vouched c.1 k

/-- What a marking step needs: its backup is reported, or not there. -/
theorem noEarlyMark_iff {c : Vault × List (Call × Point)} {i : Nat} {k : Call × Point}
    (here : c.2[i]? = some k) (vouched : Vouched c.1 k) :
    NoEarlyMark c i ↔ ∀ id ∈ marks k, id ∈ c.1.reported ∨ c.1.backups.find? id = none := by
  unfold NoEarlyMark marksEarly
  constructor
  · intro late id marked
    unfold marks at marked
    split at marked
    · next call agentID key cmd =>
      split at marked
      · cases marked
      · next works =>
        cases marked
        rw [here] at late
        simp only [works, Bool.not_false, Bool.true_and, Bool.and_eq_false_iff,
          Bool.not_eq_false', decide_eq_true_eq, Option.isSome_eq_false_iff,
          Option.isNone_iff_eq_none] at late
        exact late.symm
    · split at marked
      · cases marked
      · cases marked
        exact .inl vouched
    · cases marked
  · intro fine
    split
    · next call agentID key cmd there =>
      cases Option.some.inj (here.symm.trans there)
      cases fails : call.weather.fails .stash with
      | true => rfl
      | false =>
        rcases fine call.id (by simp [marks, fails]) with known | missing
        · simp [known]
        · simp [missing]
    · rfl

theorem reported_step {call : Call} {k : Point} {effect : Vault → Vault} {next : Vault → Point}
    (edge : call.flow.act k = some (effect, next)) (s : Vault) :
    ∀ id ∈ s.reported, id ∈ (effect s).reported := by
  cases marked : marks (call, k) with
  | none => exact (calm_step edge marked s).reported
  | some id =>
    intro id' mem
    rw [(marking_step edge marked s).1]
    exact mem

theorem vouched_advance (c : Vault × List (Call × Point)) (i : Nat)
    (vouched : ∀ k ∈ c.2, Vouched c.1 k) :
    ∀ k ∈ (callFlow.advance (fun _ _ => []) c i).2,
      Vouched (callFlow.advance (fun _ _ => []) c i).1 k := by
  obtain same | ⟨⟨call, k⟩, effect, next, here, edge, moved⟩ :=
    Flow.advance_cases callFlow (fun _ _ => []) c i
  · rw [same]
    exact vouched
  · obtain ⟨next', move, follows⟩ := Flow.indexed_act edge
    rw [moved]
    intro k' mem
    rw [List.append_nil] at mem
    rcases List.mem_or_eq_of_mem_set mem with old | rfl
    · exact vouched_mono (reported_step move c.1) (vouched k' old)
    · rw [follows]
      exact vouched_next move (vouched _ (List.mem_of_getElem? here))

/-- **A step keeps the table truthful exactly if it marks no backup early.** -/
theorem kept_advance (c : Vault × List (Call × Point)) (i : Nat) (kept : Kept c) :
    Kept (callFlow.advance (fun _ _ => []) c i) ↔ NoEarlyMark c i := by
  obtain ⟨same, stuck⟩ | ⟨⟨call, k⟩, effect, next, here, edge, moved⟩ :=
    Flow.advance_split callFlow (fun _ _ => []) c i
  · rw [same]
    refine iff_of_true kept ?_
    unfold NoEarlyMark marksEarly
    split
    · next there => cases stuck _ there
    · rfl
  · obtain ⟨next', move, follows⟩ := Flow.indexed_act edge
    have vouched : Vouched c.1 (call, k) := kept.vouched _ (List.mem_of_getElem? here)
    have threads := vouched_advance c i kept.vouched
    rw [moved, noEarlyMark_iff here vouched]
    cases marked : marks (call, k) with
    | none =>
      have calm := calm_step move marked c.1
      exact iff_of_true ⟨calm.truthful kept.truthful, moved ▸ threads⟩ nofun
    | some id =>
      obtain ⟨reported, now, size, path, rows⟩ := marking_step move marked c.1
      have keeps := truthful_marking kept.truthful reported rows
      constructor
      · rintro after id' same
        cases same
        exact keeps.mp after.truthful
      · intro fine
        exact ⟨keeps.mpr (fine id rfl), moved ▸ threads⟩

/-- **'completed' means backed up exactly where no path is stored early.**  In every run of
creations, results and upkeep, with every failure and crash, a completed backup is one an
agent reported, throughout, and only such a backup is restored, if and only if no creation's
`UpdateBackupCompleted` takes effect on a backup that is not reported. -/
theorem completed_iff (s : Vault) (list : List Call) (schedule : List Nat) (start : Truthful s) :
    (∀ earlier, earlier <+: schedule →
      let t := ((callPool s list).run Pool.noSpawn earlier).store
      Truthful t ∧ ∀ id backup, restorable t id = .ok backup → id ∈ t.reported) ↔
      callFlow.Along (fun _ _ => []) NoEarlyMark (s, calls list) schedule := by
  have vouched : ∀ k ∈ calls list, Vouched s k := by
    intro k mem
    obtain ⟨call, -, rfl⟩ := List.mem_map.mp mem
    match call with
    | .create _ => trivial
    | .result _ => trivial
    | .upkeep (.retention _ _) => trivial
    | .upkeep (.delete _ _) => trivial
  have threads : ∀ earlier, ∀ k ∈ (callFlow.run (fun _ _ => []) (s, calls list) earlier).2,
      Vouched (callFlow.run (fun _ _ => []) (s, calls list) earlier).1 k :=
    Flow.run_invariant (I := fun c => ∀ k ∈ c.2, Vouched c.1 k) vouched_advance vouched
  rw [← Flow.along_iff_throughout kept_advance ⟨start, vouched⟩ schedule]
  refine forall_congr' fun earlier => imp_congr_right fun _ => ?_
  rw [callPool_run]
  constructor
  · exact fun holds => ⟨holds.1, threads earlier⟩
  · exact fun kept => ⟨kept.truthful, fun _ _ accepted => kept.truthful.restorable accepted⟩

/-! ## A backup that was never made -/

def ordersRow : DatabaseRow where
  id := 1
  teamID := 2
  serverID := 3
  templateSlug := "postgresql"
  name := "orders"
  containerName := "nw-db-shop-orders"
  status := .running

/-- A running database on a server whose agent is connected. -/
def shopVault : Vault :=
  { databases := ⟨[ordersRow], by decide⟩
    servers := .single { id := 3, teamID := 2, agentID := some "agent-a" }
    secrets := ⟨[⟨4, 2, "database:orders", "SUPERUSER_PASSWORD", "s3cret"⟩], by decide⟩
    agents := .single { agentID := "agent-a" } }

/-- The control plane stops right after the path is stored.  The backup is completed, and a
restore accepts it; no command was sent and nothing was ever reported. -/
theorem crash_completes_backup :
    let t := ((callPool shopVault [.create { databaseID := 1, type := .manual, id := 9 }]).run
      Pool.noSpawn [0, 0, 0, 0, 0, 0]).store
    (t.backups.rows.map fun b => (b.id, b.status)) = [(9, .completed)] ∧
      (restorable t 9).toOption.isSome ∧ t.sent = [] ∧ t.reported = [] ∧ ¬ Truthful t := by
  decide +kernel

/-- The store refuses the early statement, the backup is made, and the agent reports it. -/
def reportedBackup : List Call :=
  [.create
    { databaseID := 1
      type := .manual
      id := 9
      weather := { fails := fun place => place = .stash } },
    .result { backupID := 9, success := true, sizeBytes := 512, storagePath := "backups/1/9.dump" }]

theorem reported_backup_truthful :
    let t := ((callPool shopVault reportedBackup).run Pool.noSpawn
      [0, 0, 0, 0, 0, 0, 0, 0, 0, 1, 1, 1]).store
    Truthful t ∧ ∀ id backup, restorable t id = .ok backup → id ∈ t.reported := by
  refine (completed_iff shopVault reportedBackup [0, 0, 0, 0, 0, 0, 0, 0, 0, 1, 1, 1]
    (by decide +kernel)).mpr ?_ _ (List.prefix_refl _)
  decide +kernel

end Nixway.Database
