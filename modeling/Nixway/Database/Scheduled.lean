/-
# Database.Scheduled -- the backup scheduler over its ticks

`evaluateSchedules` of `internal/database/backup.go` as a machine: a tick lists the
scheduled databases and takes the time, and the databases are then evaluated one after
the other, while results, manual backups, sweeps and changes of the databases come in
between.  `Clockwork.starts` is not part of the program: it records the backups the scheduler
started, with the matching minutes each was started for.

The decision is taken from the latest *completed* backup, so its test for a running one
never applies, and a backup that is still running or has failed is
started again at the next tick.  `scheduled_orderly` says what the scheduler relies on: that
the backups of the last day are completed whenever the schedule is due again.
-/
import Nixway.Database.Backups
import Nixway.Database.Cron

namespace Nixway.Database

open Nixway.Theory Nixway.Store
open Nixway.Theory.Prog (query exec atomic)

set_option autoImplicit false

/-! ## The scheduler -/

/-- The schedule `evaluateSchedules` goes by, if the expression is not blank and valid. -/
def scheduleOf (d : DatabaseRow) : Option CronSchedule :=
  match d.backupSchedule with
  | none => none
  | some text => if trimSpace text = "" then none else (parseCronSchedule text).toOption

/-- `lastRun`: the zero time if there is no answer. -/
def lastRunOf (latest : Option Backup) : Nat :=
  match latest with
  | none => 0
  | some backup => backup.startedAt

/-- One database of a tick: the id is the one an INSERT will draw. -/
structure Evaluation where
  id : UUID
  weather : Weather := {}

/-- `CreateScheduledBackup`. -/
def Evaluation.creation (e : Evaluation) (databaseID : UUID) : Creation :=
  { databaseID := databaseID, type := .scheduled, id := e.id, weather := e.weather }

/-- The body of the loop; the answer has the last run and the row that was inserted. -/
def Evaluation.run (zone : Nat → Civil) (e : Evaluation) (now : Nat) (d : DatabaseRow) :
    Prog Vault (Option (Nat × Backup)) := do
  match scheduleOf d with
  | none => return none
  | some schedule =>
    let latest ← e.weather.stmt .latest fun s => (s, s.getLatestBackupForDatabase d.id)
    if latest.any fun backup => backup.status = .running then
      return none
    if !schedule.shouldRun zone (lastRunOf latest) now then
      return none
    let row ← (e.creation d.id).run
    return row.map fun row => (lastRunOf latest, row)

/-- A backup the scheduler started. -/
structure Start where
  databaseID : UUID
  backupID : UUID
  now : Nat
  minutes : List Nat
  /-- A backup of the database was running. -/
  busy : Bool

/-- The scheduler: the databases the tick has still to evaluate, and its time. -/
structure Clockwork where
  vault : Vault
  queue : List DatabaseRow := []
  now : Nat := 0
  starts : List Start := []

inductive SchedulerEvent where
  /-- `evaluateSchedules` begins, unless the last one is not through; the listing may fail. -/
  | tick (fails : Bool)
  /-- The next database of the tick is evaluated. -/
  | evaluate (evaluation : Evaluation)
  | result (result : BackupResult)
  | manual (call : Creation)
  | upkeep (upkeep : Upkeep)
  /-- Databases, servers, secrets and connections change. -/
  | configure (databases : Table DatabaseRow) (servers : Table Server) (secrets : Table Secret)
      (agents : Table ConnState)
  | wait (time : Nat)

/-- Some backup of the database is running. -/
def runningBackup (s : Vault) (databaseID : UUID) : Bool :=
  s.backups.rows.any fun b => b.databaseID = databaseID && b.status = .running

namespace Clockwork

section Zone

variable (zone : Nat → Civil)

def started (c : Clockwork) (d : DatabaseRow) (lastRun : Nat) (row : Backup) : Start where
  databaseID := d.id
  backupID := row.id
  now := c.now
  minutes := ((scheduleOf d).map fun schedule => schedule.firing zone lastRun c.now).getD []
  busy := runningBackup c.vault d.id

def evaluate (c : Clockwork) (e : Evaluation) : Clockwork :=
  match c.queue with
  | [] => c
  | d :: queue =>
    let (vault, answer) := (e.run zone c.now d).run c.vault
    { c with
      vault := vault
      queue := queue
      starts := match answer with
        | none => c.starts
        | some (lastRun, row) => c.started zone d lastRun row :: c.starts }

def step (c : Clockwork) : SchedulerEvent → Clockwork
  | .tick fails =>
    if c.queue ≠ [] ∨ fails then c
    else { c with queue := c.vault.listDatabasesWithBackupSchedule, now := c.vault.now }
  | .evaluate e => c.evaluate zone e
  | .result r => { c with vault := r.run.out c.vault }
  | .manual call => { c with vault := call.run.out c.vault }
  | .upkeep u => { c with vault := u.run.out c.vault }
  | .configure databases servers secrets agents =>
    { c with vault := { c.vault with
        databases := databases
        servers := servers
        secrets := secrets
        agents := agents } }
  | .wait time => { c with vault := { c.vault with now := c.vault.now + time } }

def run (c : Clockwork) (events : List SchedulerEvent) : Clockwork := events.foldl (step zone) c

end Zone

/-! ## What the scheduler is for -/

/-- **Backups do not pile up**: none was started beside a running one, and no two of a database
for the same minute. -/
structure Orderly (c : Clockwork) : Prop where
  alone : ∀ start ∈ c.starts, start.busy = false
  once : c.starts.Pairwise fun a b =>
    a.databaseID = b.databaseID → ∀ m ∈ a.minutes, m ∉ b.minutes

instance (c : Clockwork) : Decidable c.Orderly :=
  decidable_of_iff ((∀ start ∈ c.starts, start.busy = false) ∧ c.starts.Pairwise fun a b =>
      a.databaseID = b.databaseID → ∀ m ∈ a.minutes, m ∉ b.minutes)
    ⟨fun both => ⟨both.1, both.2⟩, fun orderly => ⟨orderly.alone, orderly.once⟩⟩

end Clockwork

/-! ## Time only adds -/

/-- The clock goes on; a row keeps the time it was started at, or gets a later one. -/
structure Steady (s t : Vault) : Prop where
  now : s.now ≤ t.now
  rows : ∀ b ∈ t.backups,
    (∃ a ∈ s.backups, a.id = b.id ∧ a.startedAt ≤ b.startedAt) ∨ s.now ≤ b.startedAt

namespace Steady

variable {s t u : Vault}

theorem of_same (now : s.now ≤ t.now) (backups : t.backups = s.backups) : Steady s t where
  now := now
  rows b mem := .inl ⟨b, backups ▸ mem, rfl, Nat.le_refl _⟩

protected theorem refl (s : Vault) : Steady s s := .of_same (Nat.le_refl _) rfl

protected theorem trans (first : Steady s t) (second : Steady t u) : Steady s u where
  now := Nat.le_trans first.now second.now
  rows b mem := by
    rcases second.rows b mem with ⟨a, mid, key, later⟩ | late
    · rcases first.rows a mid with ⟨z, old, key', later'⟩ | late'
      · exact .inl ⟨z, old, key'.trans key, Nat.le_trans later' later⟩
      · exact .inr (Nat.le_trans late' later)
    · exact .inr (Nat.le_trans first.now late)

theorem createBackup (id databaseID : UUID) (type : BackupType) (tool : String)
    (triggeredBy : Option UUID) :
    Steady s (s.createBackup id databaseID type tool triggeredBy).1 := by
  simp only [Vault.createBackup]
  split
  · exact .refl s
  · split
    · next backups inserted =>
      refine ⟨Nat.le_refl _, fun b mem => ?_⟩
      rcases (Table.mem_insert? inserted).mp mem with rfl | old
      · exact .inr (Nat.le_refl _)
      · exact .inl ⟨b, old, rfl, Nat.le_refl _⟩
    · exact .refl s

theorem update {f : Backup → Backup} (keeps : ∀ b, Keyed.key (f b) = Keyed.key b)
    (later : ∀ b, (f b).startedAt = b.startedAt ∨ (f b).startedAt = s.now) (id : UUID) :
    Steady s { s with backups := s.backups.update id f keeps } where
  now := Nat.le_refl _
  rows b mem := by
    obtain ⟨a, old, same⟩ := (Table.mem_update keeps).mp mem
    split at same
    · subst same
      rcases later a with kept | now
      · exact .inl ⟨a, old, (keeps a).symm, Nat.le_of_eq kept.symm⟩
      · exact .inr (Nat.le_of_eq now.symm)
    · subst same
      exact .inl ⟨a, old, rfl, Nat.le_refl _⟩

theorem updateBackupStarted (id : UUID) : Steady s (s.updateBackupStarted id) :=
  .update _ (fun _ => by exact .inr rfl) id

theorem updateBackupCompleted (id : UUID) (size : Option Int64) (path : Option String) :
    Steady s (s.updateBackupCompleted id size path) :=
  .update _ (fun _ => by exact .inl rfl) id

theorem updateBackupFailed (id : UUID) (error : String) :
    Steady s (s.updateBackupFailed id error) :=
  .update _ (fun _ => by exact .inl rfl) id

theorem delete (p : Backup → Bool) :
    Steady s { s with backups := s.backups.deleteWhere p } where
  now := Nat.le_refl _
  rows b mem := .inl ⟨b, (Table.mem_deleteWhere.mp mem).1, rfl, Nat.le_refl _⟩

theorem hand (agentID : String) (cmd : BackupCommand) :
    Steady s (Creation.hand agentID cmd s).1 := by
  obtain ⟨sent, same⟩ := Creation.hand_store agentID cmd s
  rw [same]
  exact .of_same (Nat.le_refl _) rfl

end Steady

/-- Every effect of the program is steady. -/
def Steadily {α : Type} (p : Prog Vault α) : Prop := p.Every fun effect => ∀ s, Steady s (effect s)

namespace Steadily

variable {α β : Type}

theorem done (a : α) : Steadily (.done a) := trivial

theorem bind {p : Prog Vault α} {f : α → Prog Vault β} (first : Steadily p)
    (rest : ∀ a, Steadily (f a)) : Steadily (p >>= f) := Prog.Every.bind first rest

theorem stmt {weather : Weather} {place : Stmt} {f : Vault → Vault × Option α}
    (steady : ∀ s, Steady s (f s).1) : Steadily (weather.stmt place f) := by
  refine (Prog.every_atomic _).mpr fun s => ?_
  have waits : Steady s { s with now := s.now + weather.lag place } :=
    .of_same (Nat.le_add_right _ _) rfl
  simp only [Weather.carry]
  split
  · exact waits
  · exact waits.trans (steady _)

theorem exec {weather : Weather} {place : Stmt} {f : Vault → Vault}
    (steady : ∀ s, Steady s (f s)) : Steadily (weather.exec place f) := stmt steady

theorem reads {weather : Weather} {place : Stmt} (f : Vault → Option α) :
    Steadily (weather.stmt place fun s => (s, f s)) := stmt fun s => .refl s

theorem run {p : Prog Vault α} (steadily : Steadily p) (s : Vault) : Steady s (p.run s).1 := by
  refine Prog.Every.run_preserves (I := fun t => Steady s t) ?_ (.refl s)
  exact Prog.Every.mono (fun effect steady t before => before.trans (steady t)) steadily

end Steadily

theorem Creation.steadily_fail (call : Creation) (error : String) : Steadily (call.fail error) :=
  .bind (.exec fun _ => .updateBackupFailed ..) fun _ => .done _

theorem Creation.steadily_stash (call : Creation) (agentID key : String) (cmd : BackupCommand) :
    Steadily (call.stash agentID key cmd) := by
  refine .bind (.exec fun _ => .updateBackupCompleted ..) fun _ => ?_
  refine .bind (.exec fun _ => .updateBackupStarted _) fun _ => ?_
  refine .bind (.stmt fun _ => .hand agentID cmd) fun answer => ?_
  match answer with
  | some none => exact .bind (.reads _) fun _ => .done _
  | some (some err) => exact call.steadily_fail _
  | none => exact call.steadily_fail _

theorem Creation.steadily_proceed (call : Creation) (d : DatabaseRow) (tool ext password : String) :
    Steadily (call.proceed d tool ext password) := by
  refine .bind (.exec fun s => .refl s) fun answer => ?_
  cases answer with
  | none => exact call.steadily_fail _
  | some =>
    refine .bind (.reads _) fun server => ?_
    cases server with
    | none => exact call.steadily_fail _
    | some server =>
      show Steadily (match server.agentID.filter (· ≠ "") with | none => _ | some _ => _)
      cases server.agentID.filter (· ≠ "") with
      | none => exact call.steadily_fail _
      | some agentID => exact call.steadily_stash agentID _ _

theorem Creation.steadily_insert (call : Creation) (d : DatabaseRow) (tool ext password : String) :
    Steadily (call.insert d tool ext password) := by
  refine .bind (.stmt fun _ => .createBackup ..) fun row => ?_
  cases row with
  | none => exact .done _
  | some row => exact .bind (call.steadily_proceed d tool ext password) fun _ => .done _

theorem Creation.steadily_resolve (call : Creation) (d : DatabaseRow) (tool ext : String) :
    Steadily (call.resolve d tool ext) := by
  refine .bind (.reads _) fun password => ?_
  cases password with
  | none => exact .done _
  | some password =>
    show Steadily (if password = "" then _ else _)
    split
    · exact .done _
    · exact call.steadily_insert d tool ext password

theorem Creation.steadily_run (call : Creation) : Steadily call.run := by
  refine .bind (.reads _) fun d => ?_
  cases d with
  | none => exact .done _
  | some d =>
    show Steadily (if d.status ≠ .running then _ else _)
    split
    · exact .done _
    · cases backupToolForTemplate d.templateSlug with
      | none => exact .done _
      | some pair => exact call.steadily_resolve d pair.1 pair.2

theorem BackupResult.steadily_complete (result : BackupResult) (path : Option String) :
    Steadily (result.complete path) := by
  refine .bind (.exec fun _ => .updateBackupCompleted ..) fun answer => ?_
  cases answer with
  | none => exact .done _
  | some => exact .bind (.reads _) fun _ => .done _

theorem BackupResult.steadily_run (result : BackupResult) : Steadily result.run := by
  refine .bind ((Prog.every_exec _).mpr fun s => ?_) fun _ => ?_
  · unfold BackupResult.report
    split
    · exact .of_same (Nat.le_refl _) rfl
    · exact .refl s
  · show Steadily (if (!result.success) = true then _ else _)
    split
    · exact .bind (.exec fun _ => .updateBackupFailed ..) fun _ => .done _
    · split
      · exact result.steadily_complete _
      · exact .bind (.reads _) fun _ => result.steadily_complete _

theorem Upkeep.steadily_run (upkeep : Upkeep) : Steadily upkeep.run := by
  cases upkeep with
  | retention databaseID weather =>
    refine .bind (.reads _) fun d => ?_
    cases d with
    | none => exact .done _
    | some d =>
      refine .bind ((Prog.every_query _).mpr fun s => .refl s) fun cutoff => ?_
      refine .bind (.exec fun s => .refl s) fun answer => ?_
      cases answer with
      | none => exact .done _
      | some => exact .bind (.exec fun _ => .delete _) fun _ => .done _
  | delete id weather =>
    refine .bind (.reads _) fun row => ?_
    cases row with
    | none => exact .done _
    | some row => exact .bind (.exec fun _ => .delete _) fun _ => .done _

theorem Evaluation.steadily_run (zone : Nat → Civil) (e : Evaluation) (now : Nat)
    (d : DatabaseRow) : Steadily (e.run zone now d) := by
  unfold Evaluation.run
  cases scheduleOf d with
  | none => exact .done _
  | some schedule =>
    refine .bind (.reads _) fun latest => ?_
    split
    · exact .done _
    · split
      · exact .done _
      · exact .bind (e.creation d.id).steadily_run fun _ => .done _

/-! ## What an evaluation goes by -/

/-- No completed backup was started after the latest one. -/
theorem le_lastRun {s : Vault} {b : Backup} (mem : b ∈ s.backups)
    (completed : b.status = .completed) :
    b.startedAt ≤ lastRunOf (s.getLatestBackupForDatabase b.databaseID) := by
  have inside : b ∈ s.backups.rows.filter fun a =>
      a.databaseID = b.databaseID && a.status = .completed := by
    rw [List.mem_filter, completed]
    exact ⟨mem, by simp⟩
  obtain ⟨first, found, later⟩ := exists_head_insertionSort Backup.startedAt inside
  rw [Vault.getLatestBackupForDatabase, found]
  exact later

theorem createBackup_fresh {s : Vault} {id databaseID : UUID} {type : BackupType} {tool : String}
    {triggeredBy : Option UUID} {row : Backup}
    (made : (s.createBackup id databaseID type tool triggeredBy).2 = some row) :
    row.id = id ∧ ∀ b ∈ s.backups, b.id ≠ id := by
  simp only [Vault.createBackup] at made
  split at made
  · cases made
  · split at made
    · next backups inserted =>
      cases made
      exact ⟨rfl, (Table.insert?_eq_some_iff.mp inserted).1⟩
    · cases made

theorem carry_some {α : Type} {weather : Weather} {place : Stmt} {f : Vault → Vault × Option α}
    {s : Vault} {a : α} (answer : (weather.carry place f s).2 = some a) :
    weather.fails place = false ∧ (f { s with now := s.now + weather.lag place }).2 = some a := by
  simp only [Weather.carry] at answer
  split at answer
  · cases answer
  · next works => exact ⟨by simpa using works, answer⟩

theorem carry_backups {α : Type} {weather : Weather} {place : Stmt} {f : Vault → Option α}
    (s : Vault) : (weather.carry place (fun s => (s, f s)) s).1.backups = s.backups := by
  simp only [Weather.carry]
  split <;> rfl

theorem Creation.insert_fresh {call : Creation} {d : DatabaseRow} {tool ext password : String}
    {s : Vault} {row : Backup} (made : ((call.insert d tool ext password).run s).2 = some row) :
    row.id = call.id ∧ ∀ b ∈ s.backups, b.id ≠ call.id := by
  unfold Creation.insert at made
  rw [Prog.run_bind] at made
  cases answer : ((call.weather.stmt .insert fun s =>
      s.createBackup call.id call.databaseID call.type tool call.userID).run s).2 with
  | none =>
    rw [answer] at made
    cases made
  | some inserted =>
    rw [answer] at made
    have same : inserted = row := by
      simp only [Prog.run_bind] at made
      exact Option.some.inj made
    subst same
    have fresh := createBackup_fresh (carry_some answer).2
    exact fresh

theorem Creation.resolve_fresh {call : Creation} {d : DatabaseRow} {tool ext : String}
    {s : Vault} {row : Backup} (made : ((call.resolve d tool ext).run s).2 = some row) :
    row.id = call.id ∧ ∀ b ∈ s.backups, b.id ≠ call.id := by
  unfold Creation.resolve at made
  rw [Weather.stmt, Prog.run_atomic_bind] at made
  split at made
  · cases made
  · split at made
    · cases made
    · have fresh := insert_fresh made
      rw [carry_backups] at fresh
      exact fresh

theorem Creation.run_fresh {call : Creation} {s : Vault} {row : Backup}
    (made : (call.run.run s).2 = some row) :
    row.id = call.id ∧ ∀ b ∈ s.backups, b.id ≠ call.id := by
  unfold Creation.run at made
  rw [Weather.stmt, Prog.run_atomic_bind] at made
  split at made
  · cases made
  · split at made
    · cases made
    · split at made
      · cases made
      · have fresh := resolve_fresh made
        rw [carry_backups] at fresh
        exact fresh

/-- The last run an evaluation goes by. -/
def Evaluation.lastRun (e : Evaluation) (s : Vault) (databaseID : UUID) : Nat :=
  lastRunOf (e.weather.carry .latest (fun s => (s, s.getLatestBackupForDatabase databaseID)) s).2

theorem Evaluation.lastRun_eq {e : Evaluation} (works : e.weather.fails .latest = false)
    {s : Vault} {databaseID : UUID} :
    e.lastRun s databaseID = lastRunOf (s.getLatestBackupForDatabase databaseID) := by
  simp only [Evaluation.lastRun, Weather.carry, works, Bool.false_eq_true, if_false]
  rfl

/-- What an evaluation that starts a backup has found. -/
theorem Evaluation.run_some {zone : Nat → Civil} {e : Evaluation} {now : Nat} {d : DatabaseRow}
    {s : Vault} {lastRun : Nat} {row : Backup}
    (made : ((e.run zone now d).run s).2 = some (lastRun, row)) :
    lastRun = e.lastRun s d.id ∧
      (∃ schedule, scheduleOf d = some schedule ∧ schedule.shouldRun zone lastRun now = true) ∧
      row.id = e.id ∧ ∀ b ∈ s.backups, b.id ≠ e.id := by
  unfold Evaluation.run at made
  cases found : scheduleOf d with
  | none =>
    rw [found] at made
    cases made
  | some schedule =>
    simp only [found] at made
    rw [Weather.stmt, Prog.run_atomic_bind] at made
    split at made
    · cases made
    · split at made
      · cases made
      · next due =>
        rw [Prog.run_bind] at made
        obtain ⟨inserted, created, same⟩ := Option.map_eq_some_iff.mp made
        cases same
        have fresh := Creation.run_fresh created
        rw [carry_backups] at fresh
        exact ⟨rfl, ⟨schedule, rfl, by simpa using due⟩, fresh⟩

namespace Clockwork

section Zone

variable (zone : Nat → Civil)

/-! ## What the scheduler relies on -/

/-- The schedule of the database is due, as the evaluation sees it. -/
def due (c : Clockwork) (e : Evaluation) (d : DatabaseRow) : Bool :=
  match scheduleOf d with
  | none => false
  | some schedule => schedule.shouldRun zone (e.lastRun c.vault d.id) c.now

/-- The backup of a start is there and completed, or the start is more than a day old. -/
def settled (c : Clockwork) (start : Start) : Bool :=
  ((c.vault.backups.find? start.backupID).any fun b =>
    b.databaseID = start.databaseID && b.status = .completed) ||
    decide (minuteOf start.now < minuteOf (c.now - 24 * 60 * minute))

/-- Whenever a schedule is due: the latest backup is looked up without an error, no backup of
the database is running, and those the scheduler started in the last day are completed. -/
def timely (c : Clockwork) (event : SchedulerEvent) : Bool :=
  match event, c.queue with
  | .evaluate e, d :: _ =>
    !c.due zone e d ||
      (!e.weather.fails .latest && !runningBackup c.vault d.id &&
        c.starts.all fun start => start.databaseID ≠ d.id || c.settled start)
  | _, _ => true

/-- Every event of the run is timely. -/
def Timely : Clockwork → List SchedulerEvent → Prop
  | _, [] => True
  | c, event :: events => c.timely zone event = true ∧ Timely (c.step zone event) events

instance timelyDecidable :
    ∀ (c : Clockwork) (events : List SchedulerEvent), Decidable (c.Timely zone events)
  | _, [] => isTrue trivial
  | c, event :: events =>
    have := timelyDecidable (c.step zone event) events
    inferInstanceAs (Decidable (_ ∧ _))

end Zone

/-- The invariant: what is known of the backups the scheduler started. -/
structure Recorded (c : Clockwork) : Prop where
  orderly : c.Orderly
  clock : c.now ≤ c.vault.now
  begun : ∀ start ∈ c.starts, start.now ≤ c.vault.now
  past : ∀ start ∈ c.starts, ∀ m ∈ start.minutes, m ≤ minuteOf start.now
  rows : ∀ start ∈ c.starts, ∀ b ∈ c.vault.backups, b.id = start.backupID → start.now ≤ b.startedAt

namespace Recorded

variable {c : Clockwork}

theorem steady (recorded : Recorded c) {vault : Vault} (steady : Steady c.vault vault)
    (queue : List DatabaseRow) : Recorded { c with vault := vault, queue := queue } where
  orderly := ⟨recorded.orderly.alone, recorded.orderly.once⟩
  clock := Nat.le_trans recorded.clock steady.now
  begun start mem := Nat.le_trans (recorded.begun start mem) steady.now
  past := recorded.past
  rows start mem b row key := by
    rcases steady.rows b row with ⟨a, old, same, later⟩ | late
    · exact Nat.le_trans (recorded.rows start mem a old (same.trans key)) later
    · exact Nat.le_trans (recorded.begun start mem) late

/-- A settled start is before the window of the next one. -/
theorem settled_before (recorded : Recorded c) {e : Evaluation} {start : Start}
    (mem : start ∈ c.starts) (settled : c.settled start = true)
    (works : e.weather.fails .latest = false) :
    minuteOf start.now ≤ minuteOf (e.lastRun c.vault start.databaseID) ∨
      minuteOf start.now < minuteOf (c.now - 24 * 60 * minute) := by
  unfold Clockwork.settled at settled
  rw [Bool.or_eq_true, decide_eq_true_eq] at settled
  refine settled.imp_left fun completed => ?_
  obtain ⟨b, found, ok⟩ := (Option.any_eq_true _ _).mp completed
  rw [Bool.and_eq_true, decide_eq_true_eq, decide_eq_true_eq] at ok
  obtain ⟨row, key⟩ := Table.find?_eq_some_iff.mp found
  refine minuteOf_mono (Nat.le_trans (recorded.rows start mem b row key) ?_)
  have latest := le_lastRun row ok.2
  rw [ok.1] at latest
  rw [Evaluation.lastRun_eq works]
  exact latest

theorem evaluate {zone : Nat → Civil} {e : Evaluation} (recorded : Recorded c)
    (timely : c.timely zone (.evaluate e) = true) : Recorded (c.evaluate zone e) := by
  unfold Clockwork.evaluate
  cases front : c.queue with
  | nil => exact recorded
  | cons d queue =>
    have steadily := (e.steadily_run zone c.now d).run c.vault
    have after := recorded.steady steadily queue
    cases made : ((e.run zone c.now d).run c.vault).2 with
    | none => simpa only [made] using after
    | some answer =>
      obtain ⟨lastRun, row⟩ := answer
      simp only [made]
      obtain ⟨rfl, ⟨schedule, found, due⟩, key, fresh⟩ := Evaluation.run_some made
      -- the condition applies, as the schedule is due
      have isDue : c.due zone e d = true := by simpa [Clockwork.due, found] using due
      simp only [Clockwork.timely, front, isDue, Bool.not_true, Bool.false_or,
        Bool.and_eq_true, Bool.not_eq_true', List.all_eq_true, Bool.or_eq_true,
        decide_eq_true_eq] at timely
      obtain ⟨⟨works, idle⟩, settled⟩ := timely
      have minutes : ∀ m ∈ (c.started zone d (e.lastRun c.vault d.id) row).minutes,
          m ∈ schedule.firing zone (e.lastRun c.vault d.id) c.now := by
        intro m mem
        simpa [Clockwork.started, found] using mem
      refine ⟨⟨?_, ?_⟩, after.clock, ?_, ?_, ?_⟩
      · exact List.forall_mem_cons.mpr ⟨idle, recorded.orderly.alone⟩
      · refine List.pairwise_cons.mpr ⟨fun start mem same m inside again => ?_,
          recorded.orderly.once⟩
        have bounds := CronSchedule.firing_bounds (minutes m inside)
        have early := recorded.past start mem m again
        have sameID : d.id = start.databaseID := same
        have before := recorded.settled_before (e := e) mem
          ((settled start mem).resolve_left (not_not.mpr sameID.symm)) works
        rw [← sameID] at before
        omega
      · exact List.forall_mem_cons.mpr ⟨after.clock, after.begun⟩
      · refine List.forall_mem_cons.mpr ⟨fun m inside => ?_, recorded.past⟩
        exact (CronSchedule.firing_bounds (minutes m inside)).2.2
      · refine List.forall_mem_cons.mpr ⟨fun b mem named => ?_, after.rows⟩
        -- the row is younger than the evaluation, as its id was free before
        rcases steadily.rows b mem with ⟨a, old, same, -⟩ | late
        · exact absurd (same.trans (named.trans key)) (fresh a old)
        · exact Nat.le_trans recorded.clock late

/-- **A timely event keeps the record.** -/
theorem step {zone : Nat → Civil} {event : SchedulerEvent} (recorded : Recorded c)
    (timely : c.timely zone event = true) : Recorded (c.step zone event) := by
  cases event with
  | tick fails =>
    show Recorded (if c.queue ≠ [] ∨ fails = true then c else _)
    split
    · exact recorded
    · exact ⟨⟨recorded.orderly.alone, recorded.orderly.once⟩, Nat.le_refl _, recorded.begun,
        recorded.past, recorded.rows⟩
  | evaluate e => exact recorded.evaluate timely
  | result r => exact recorded.steady (r.steadily_run.run c.vault) c.queue
  | manual call => exact recorded.steady (call.steadily_run.run c.vault) c.queue
  | upkeep u => exact recorded.steady (u.steadily_run.run c.vault) c.queue
  | configure databases servers secrets agents =>
    have same : Steady c.vault { c.vault with
        databases := databases
        servers := servers
        secrets := secrets
        agents := agents } := .of_same (Nat.le_refl _) rfl
    exact recorded.steady same c.queue
  | wait time =>
    have later : Steady c.vault { c.vault with now := c.vault.now + time } :=
      .of_same (Nat.le_add_right _ _) rfl
    exact recorded.steady later c.queue

theorem run {zone : Nat → Civil} {events : List SchedulerEvent} (recorded : Recorded c)
    (timely : c.Timely zone events) : Recorded (c.run zone events) := by
  induction events generalizing c with
  | nil => exact recorded
  | cons event events ih => exact ih (recorded.step timely.1) timely.2

end Recorded

end Clockwork

/-- **Scheduled backups do not pile up where the scheduler finds its backups completed.**  In
every run of ticks, results, manual backups, sweeps and changes, in every zone: no backup
is started beside a running one, and no matching minute is backed up twice, as long as at
each evaluation with the schedule due the latest backup is looked up without an error, none of
the database is running, and those of the last day are completed. -/
theorem scheduled_orderly (zone : Nat → Civil) (vault : Vault) (events : List SchedulerEvent)
    (timely : Clockwork.Timely zone { vault := vault } events) :
    (Clockwork.run zone { vault := vault } events).Orderly := by
  have fresh : Clockwork.Recorded { vault := vault } :=
    ⟨⟨nofun, .nil⟩, Nat.zero_le _, nofun, nofun, nofun⟩
  exact (fresh.run timely).orderly

/-! ## A backup every minute -/

/-- Coordinated universal time; the zero time is midnight of Monday, January 1, year 1. -/
def utc (m : Nat) : Civil :=
  let days := m / 1440
  -- years begin in March, so that a leap day is the last day of its year
  let z := days + 306
  let doe := z % 146097
  let yoe := (doe - doe / 1460 + doe / 36524 - doe / 146096) / 365
  let doy := doe - (365 * yoe + yoe / 4 - yoe / 100)
  let mp := (5 * doy + 2) / 153
  { minute := (m % 60 : Nat)
    hour := (m / 60 % 24 : Nat)
    day := (doy - (153 * mp + 2) / 5 + 1 : Nat)
    month := (if mp < 10 then mp + 3 else mp - 9 : Nat)
    weekday := ((days + 1) % 7 : Nat) }

def ledgerRow : DatabaseRow where
  id := 1
  teamID := 2
  serverID := 3
  templateSlug := "postgresql"
  name := "ledger"
  containerName := "nw-db-shop-ledger"
  status := .running
  backupSchedule := some "0 10 * * *"

/-- A database to be backed up at ten, half a minute past a minute past ten. -/
def ledgerVault : Vault :=
  { now := (739000 * 1440 + 601) * minute + minute / 2
    databases := ⟨[ledgerRow], by decide⟩
    servers := .single { id := 3, teamID := 2, agentID := some "agent-a" }
    secrets := ⟨[⟨4, 2, "database:ledger", "SUPERUSER_PASSWORD", "s3cret"⟩], by decide⟩
    agents := .single { agentID := "agent-a" } }

/-- Two ticks, a minute apart, with what comes between them. -/
def twoTicks (between : List SchedulerEvent) : List SchedulerEvent :=
  [SchedulerEvent.tick false, .evaluate { id := 9 }] ++ between ++
    [SchedulerEvent.wait minute, .tick false, .evaluate { id := 10 }]

/-- A dump that takes longer than a minute is started again beside itself, for the same minute;
and so is one that has failed. -/
theorem long_dump_piles_up :
    let slow := Clockwork.run utc { vault := ledgerVault } (twoTicks [])
    let failed := Clockwork.run utc { vault := ledgerVault }
      (twoTicks [.result { backupID := 9, success := false, error := "pg_dump: timeout" }])
    (slow.starts.map fun start => (start.backupID, start.minutes, start.busy)) =
        [(10, [1064160600], true), (9, [1064160600], false)] ∧
      (failed.starts.map fun start => (start.backupID, start.minutes, start.busy)) =
        [(10, [1064160600], false), (9, [1064160600], false)] ∧
      ¬ slow.Orderly ∧ ¬ failed.Orderly := by
  decide +kernel

def promptDumps : List SchedulerEvent :=
  twoTicks [.result { backupID := 9, success := true, storagePath := "backups/9" }] ++
    [SchedulerEvent.wait (24 * 60 * minute), .tick false, .evaluate { id := 11 }]

theorem daily_dump_orderly :
    (Clockwork.run utc { vault := ledgerVault } promptDumps).starts.map Start.backupID = [11, 9] ∧
      (Clockwork.run utc { vault := ledgerVault } promptDumps).Orderly :=
  ⟨by decide +kernel, scheduled_orderly utc ledgerVault promptDumps (by decide +kernel)⟩

end Nixway.Database
