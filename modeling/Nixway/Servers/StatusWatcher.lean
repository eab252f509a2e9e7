/-
# Servers.StatusWatcher -- the two writers of a server's last-seen time

`StatusWatcher.check` reads `status` and `last_seen_at` of all servers at once, judges each
from the time since its agent was last seen, and writes the verdict with the time it read.
`handleResourceReport` writes 'online' with the time of its own clock reading.  Both use
`UpdateServerStatus`, which overwrites the two columns whatever they hold, so a pass takes
back a report that was handled since it read the row (`report_taken_back`).

`Undisturbed` is what a write needs, in terms of the reports handled since its thread last
looked: none of them read a later clock, and behind a verdict of 'offline' there is none.
`lastSeen_iff` says that these are the schedules in which no last-seen time goes back and
no server is left offline over a report the pass has not seen.
-/
import Nixway.Intake.Handlers
import Nixway.Theory.Rely

namespace Nixway.Servers

open Nixway.Theory Nixway.Store
open Nixway.Intake (ServerStatus)
open Nixway.Theory.Prog (query exec forEach)

set_option autoImplicit false

/-! ## The table -/

/-- The columns of `servers` that say whether a server is alive.  `reports` and `judged` are
not columns: the clock readings of the reports handled so far, the oldest first, and how many
of them the last writer of the row knew of. -/
structure ServerRow where
  id : UUID
  agentID : Option String := none
  status : ServerStatus := .provisioning
  lastSeenAt : Option Nat := none
  reports : List Nat := []
  judged : Nat := 0

instance : Keyed ServerRow UUID := ⟨ServerRow.id⟩

/-- The table and the clock, in microseconds. -/
structure Roster where
  now : Nat := 0
  servers : Table ServerRow := .empty

/-- A write of `UpdateServerStatus`: by a pass that knew `known` reports, or by a report. -/
structure StatusWrite where
  id : UUID
  status : ServerStatus
  lastSeenAt : Nat
  known : Nat
  reported : Bool
deriving DecidableEq

def StatusWrite.set (u : StatusWrite) (r : ServerRow) : ServerRow :=
  { r with
    status := u.status
    lastSeenAt := some u.lastSeenAt
    reports := if u.reported then r.reports ++ [u.lastSeenAt] else r.reports
    judged := if u.reported then r.reports.length + 1 else u.known }

namespace Roster

variable (db : Roster)

/-- `team_id IS NOT NULL` is the column's own constraint. -/
def listServersNeedingStatusUpdate : List ServerRow :=
  db.servers.rows.filter fun s => s.status = .online ∨ s.status = .degraded

def getServerByAgentID (agentID : String) : Option ServerRow :=
  db.servers.rows.find? fun s => s.agentID = some agentID

def updateServerStatus (u : StatusWrite) : Roster :=
  { db with servers := db.servers.update u.id u.set }

/-- The number of reports of a server that have been handled. -/
def handled (id : UUID) : Nat := ((db.servers.find? id).map fun r => r.reports.length).getD 0

/-- The stored last-seen time of a server. -/
def lastSeenAt (id : UUID) : Option Nat := (db.servers.find? id).bind ServerRow.lastSeenAt

end Roster

/-! ## The two programs -/

/-- 20 and 50 seconds. -/
def degradedAfter : Int := 20000000

def offlineAfter : Int := 50000000

/-- The `switch` over the time since the server was seen. -/
def statusAfter (elapsed : Int) : ServerStatus :=
  if elapsed < degradedAfter then .online
  else if elapsed < offlineAfter then .degraded
  else .offline

/-- What a pass with this clock reading writes for a row it has read, if anything. -/
def transition (now : Nat) (s : ServerRow) : Option StatusWrite :=
  match s.lastSeenAt with
  | none => none
  | some lastSeenAt =>
    let newStatus := statusAfter ((now : Int) - lastSeenAt)
    if newStatus = s.status then none
    else some ⟨s.id, newStatus, lastSeenAt, s.reports.length, false⟩

/-- The statement, or an error that leaves the table as it is. -/
def attempt (fails : Bool) (u : StatusWrite) (db : Roster) : Roster :=
  if fails then db else db.updateServerStatus u

/-- A pass; `updateFails` are the servers whose update fails in it. -/
def check (listFails : Bool) (updateFails : UUID → Bool) : Prog Roster Unit := do
  let servers ← query Roster.listServersNeedingStatusUpdate
  if listFails then .done ()
  else do
    let now ← query Roster.now
    forEach servers fun s => match transition now s with
      | none => .done ()
      | some u => exec (attempt (updateFails u.id) u)

/-- The part of the handler of a resource report that touches the server's row. -/
def handleResourceReport (agentID : String) (lookupFails updateFails : Bool) :
    Prog Roster Unit := do
  let srv ← query fun db => db.getServerByAgentID agentID
  match if lookupFails then none else srv with
  | none => .done ()
  | some srv => do
    let now ← query Roster.now
    exec (attempt updateFails ⟨srv.id, .online, now, 0, true⟩)

inductive Thread where
  | check (listFails : Bool) (updateFails : UUID → Bool)
  | report (agentID : String) (lookupFails updateFails : Bool)
  | tick (elapsed : Nat)

def Thread.prog : Thread → Prog Roster Unit
  | .check listFails updateFails => Servers.check listFails updateFails
  | .report agentID lookupFails updateFails =>
    handleResourceReport agentID lookupFails updateFails
  | .tick elapsed => exec fun db => { db with now := db.now + elapsed }

/-! ## Control points -/

/-- The first row of the rest that the pass writes, and the rows behind it. -/
def due (now : Nat) : List ServerRow → Option (StatusWrite × List ServerRow)
  | [] => none
  | s :: rest =>
    match transition now s with
    | none => due now rest
    | some u => some (u, rest)

/-- Where a thread stands.  In front of its write a report holds the number of reports
handled when it read the clock. -/
inductive Point where
  | list (listFails : Bool) (updateFails : UUID → Bool)
  | clock (updateFails : UUID → Bool) (servers : List ServerRow)
  | sweep (updateFails : UUID → Bool) (now : Nat) (servers : List ServerRow)
  | lookup (agentID : String) (lookupFails updateFails : Bool)
  | stamp (updateFails : Bool) (id : UUID)
  | write (updateFails : Bool) (id : UUID) (now known : Nat)
  | tick (elapsed : Nat)
  | halt

namespace Point

/-- The write the point is in front of, whether it fails, and what follows it. -/
def pending : Point → Option (Bool × StatusWrite × Point)
  | .sweep updateFails now servers =>
    (due now servers).map fun d => (updateFails d.1.id, d.1, .sweep updateFails now d.2)
  | .write updateFails id now known =>
    some (updateFails, ⟨id, .online, now, known, true⟩, .halt)
  | _ => none

def act : Point → Option ((Roster → Roster) × (Roster → Point))
  | .list listFails updateFails =>
    some (id, fun db => if listFails then .halt
      else .clock updateFails db.listServersNeedingStatusUpdate)
  | .clock updateFails servers => some (id, fun db => .sweep updateFails db.now servers)
  | .lookup agentID lookupFails updateFails =>
    some (id, fun db => match if lookupFails then none else db.getServerByAgentID agentID with
      | none => .halt
      | some srv => .stamp updateFails srv.id)
  | .stamp updateFails id =>
    some (fun db => db, fun db => .write updateFails id db.now (db.handled id))
  | .tick elapsed => some (fun db => { db with now := db.now + elapsed }, fun _ => .halt)
  | .halt => none
  | k => k.pending.map fun p => (attempt p.1 p.2.1, fun _ => p.2.2)

def code : Point → Prog Roster Unit
  | .list listFails updateFails => check listFails updateFails
  | .clock updateFails servers => do
    let now ← query Roster.now
    forEach servers fun s => match transition now s with
      | none => .done ()
      | some u => exec (attempt (updateFails u.id) u)
  | .sweep updateFails now servers =>
    forEach servers fun s => match transition now s with
      | none => .done ()
      | some u => exec (attempt (updateFails u.id) u)
  | .lookup agentID lookupFails updateFails =>
    handleResourceReport agentID lookupFails updateFails
  | .stamp updateFails id => do
    let now ← query Roster.now
    exec (attempt updateFails ⟨id, .online, now, 0, true⟩)
  | .write updateFails id now _ => exec (attempt updateFails ⟨id, .online, now, 0, true⟩)
  | .tick elapsed => exec fun db => { db with now := db.now + elapsed }
  | .halt => .done ()

theorem forEach_due (updateFails : UUID → Bool) (now : Nat) (servers : List ServerRow) :
    (code (.sweep updateFails now servers)) = match due now servers with
      | none => .done ()
      | some (u, rest) => .step (attempt (updateFails u.id) u)
          fun _ => code (.sweep updateFails now rest) := by
  induction servers with
  | nil => rfl
  | cons s rest ih =>
    unfold due
    cases judged : transition now s with
    | none =>
      have skipped : code (.sweep updateFails now (s :: rest)) =
          code (.sweep updateFails now rest) := by
        simp only [code, forEach, judged]
        rfl
      rw [skipped, ih]
    | some u =>
      simp only [code, forEach, judged]
      rfl

/-- **The graph is the two programs.** -/
theorem presents : (⟨act⟩ : Flow Roster Point).Presents code where
  halted k here := by
    cases k with
    | halt => rfl
    | sweep updateFails now servers =>
      have nothing : due now servers = none := by
        simpa only [act, pending, Option.map_eq_none_iff] using here
      rw [forEach_due, nothing]
    | _ => cases here
  moves k effect next here := by
    cases k with
    | halt => cases here
    | list listFails updateFails =>
      cases here
      refine Prog.step_congr fun db => ?_
      cases listFails with
      | true => rfl
      | false => rfl
    | clock updateFails servers => cases here; rfl
    | sweep updateFails now servers =>
      rw [forEach_due]
      cases found : due now servers with
      | none => simp only [act, pending, found, Option.map_none, reduceCtorEq] at here
      | some d =>
        simp only [act, pending, found, Option.map_some, Option.some.injEq] at here
        cases here
        rfl
    | lookup agentID lookupFails updateFails =>
      cases here
      refine Prog.step_congr fun db => ?_
      dsimp only [Prog.bind]
      cases (if lookupFails then none else db.getServerByAgentID agentID) with
      | none => rfl
      | some srv => rfl
    | stamp updateFails id => cases here; rfl
    | write updateFails id now known => cases here; rfl
    | tick elapsed => cases here; rfl

/-- What a step does: it reads, it lets time pass, or it makes the pending write. -/
theorem act_cases {k : Point} {effect : Roster → Roster} {next : Roster → Point}
    (edge : k.act = some (effect, next)) :
    (k.pending = none ∧ ∀ db, ∃ elapsed, effect db = { db with now := db.now + elapsed }) ∨
      ∃ fails u after, k.pending = some (fails, u, after) ∧ effect = attempt fails u ∧
        ∀ db, next db = after := by
  cases k with
  | halt => cases edge
  | tick elapsed => cases edge; exact .inl ⟨rfl, fun db => ⟨elapsed, rfl⟩⟩
  | list listFails updateFails => cases edge; exact .inl ⟨rfl, fun db => ⟨0, rfl⟩⟩
  | clock updateFails servers => cases edge; exact .inl ⟨rfl, fun db => ⟨0, rfl⟩⟩
  | lookup agentID lookupFails updateFails => cases edge; exact .inl ⟨rfl, fun db => ⟨0, rfl⟩⟩
  | stamp updateFails id => cases edge; exact .inl ⟨rfl, fun db => ⟨0, rfl⟩⟩
  | write updateFails id now known => cases edge; exact .inr ⟨_, _, _, rfl, rfl, fun _ => rfl⟩
  | sweep updateFails now servers =>
    cases found : (Point.sweep updateFails now servers).pending with
    | none => simp only [act, found, Option.map_none, reduceCtorEq] at edge
    | some p =>
      simp only [act, found, Option.map_some, Option.some.injEq] at edge
      cases edge
      exact .inr ⟨p.1, p.2.1, p.2.2, rfl, rfl, fun _ => rfl⟩

end Point

/-- The step-by-step execution of passes, reports and the clock. -/
def watching : Flow Roster Point := ⟨Point.act⟩

def Thread.point : Thread → Point
  | .check listFails updateFails => .list listFails updateFails
  | .report agentID lookupFails updateFails => .lookup agentID lookupFails updateFails
  | .tick elapsed => .tick elapsed

theorem Thread.point_code (t : Thread) : t.point.code = t.prog := by
  cases t <;> rfl

/-! ## What is asked, and when it holds -/

/-- No last-seen time goes back, and who left a server 'offline' knew all its reports. -/
structure Forward (before after : Roster) : Prop where
  lastSeen : ∀ row ∈ before.servers.rows, ∀ seen ∈ row.lastSeenAt,
    ∃ later ∈ after.lastSeenAt row.id, seen ≤ later
  offline : ∀ row ∈ after.servers.rows, row.status = .offline → row.judged = row.reports.length

instance (before after : Roster) : Decidable (Forward before after) :=
  decidable_of_iff
    ((∀ row ∈ before.servers.rows, ∀ seen ∈ row.lastSeenAt,
        ∃ later ∈ after.lastSeenAt row.id, seen ≤ later) ∧
      ∀ row ∈ after.servers.rows, row.status = .offline → row.judged = row.reports.length)
    ⟨fun both => ⟨both.1, both.2⟩, fun forward => ⟨forward.lastSeen, forward.offline⟩⟩

/-- No report handled since the write's thread looked has a later clock reading, and behind
a verdict of 'offline' there is no such report. -/
def StatusWrite.Timely (db : Roster) (u : StatusWrite) : Prop :=
  ∀ row ∈ db.servers.find? u.id, (∀ reading ∈ row.reports.drop u.known, reading ≤ u.lastSeenAt) ∧
    (u.status = .offline → row.reports.drop u.known = [])

instance (db : Roster) (u : StatusWrite) : Decidable (u.Timely db) :=
  have (row : ServerRow) : Decidable ((∀ reading ∈ row.reports.drop u.known,
      reading ≤ u.lastSeenAt) ∧ (u.status = .offline → row.reports.drop u.known = [])) :=
    have : Decidable (∀ reading ∈ row.reports.drop u.known, reading ≤ u.lastSeenAt) :=
      List.decidableBAll _ _
    inferInstanceAs (Decidable (_ ∧ _))
  Option.decidableForallMem _

/-- The picked thread is not about to make an untimely write. -/
def Undisturbed (c : Roster × List Point) (i : Nat) : Prop :=
  ∀ k ∈ c.2[i]?, ∀ p ∈ k.pending, p.1 = false → p.2.1.Timely c.1

instance (c : Roster × List Point) (i : Nat) : Decidable (Undisturbed c i) :=
  have (k : Point) : Decidable (∀ p ∈ k.pending, p.1 = false → p.2.1.Timely c.1) :=
    Option.decidableForallMem _
  Option.decidableForallMem _

/-- No report has been handled yet, and nobody was seen in the future. -/
structure Roster.Starts (db : Roster) : Prop where
  unreported : ∀ row ∈ db.servers.rows, row.reports = [] ∧ row.judged = 0
  past : ∀ row ∈ db.servers.rows, ∀ seen ∈ row.lastSeenAt, seen ≤ db.now

/-! ## What stays true -/

/-- The table between two steps of a schedule in which nothing went back. -/
structure Roster.Upright (db : Roster) : Prop where
  past : ∀ row ∈ db.servers.rows, ∀ seen ∈ row.lastSeenAt, seen ≤ db.now
  covered : ∀ row ∈ db.servers.rows, ∀ reading ∈ row.reports,
    ∃ seen ∈ row.lastSeenAt, reading ≤ seen
  offline : ∀ row ∈ db.servers.rows, row.status = .offline → row.judged = row.reports.length

theorem Roster.Starts.upright {db : Roster} (starts : db.Starts) : db.Upright where
  past := starts.past
  covered row mem reading inside := by
    rw [(starts.unreported row mem).1] at inside
    exact absurd inside List.not_mem_nil
  offline row mem _ := by
    rw [(starts.unreported row mem).1, (starts.unreported row mem).2]
    rfl

/-- A stored time beyond the bound is that of a report handled since. -/
def Since (db : Roster) (id : UUID) (known bound : Nat) : Prop :=
  ∀ row ∈ db.servers.find? id, known ≤ row.reports.length ∧
    ∀ seen ∈ row.lastSeenAt, seen ≤ bound ∨ seen ∈ row.reports.drop known

def AtLeast (db : Roster) (id : UUID) (bound : Nat) : Prop :=
  ∀ row ∈ db.servers.find? id, ∃ seen ∈ row.lastSeenAt, bound ≤ seen

/-- What a pass knows of a row it has read. -/
def ReadRow (db : Roster) (s : ServerRow) : Prop :=
  ∀ seen ∈ s.lastSeenAt, Since db s.id s.reports.length seen ∧ AtLeast db s.id seen

/-- What a thread knows in front of its write. -/
structure StatusWrite.Based (db : Roster) (u : StatusWrite) : Prop where
  since : Since db u.id u.known u.lastSeenAt
  judged : u.reported = false → AtLeast db u.id u.lastSeenAt
  reported : u.reported = true → u.status = .online ∧ u.lastSeenAt ≤ db.now

def Point.Knows (db : Roster) : Point → Prop
  | .clock _ servers => ∀ s ∈ servers, ReadRow db s
  | .sweep _ _ servers => ∀ s ∈ servers, ReadRow db s
  | .write _ id now known => now ≤ db.now ∧ Since db id known now
  | _ => True

theorem based_of_transition {db : Roster} {now : Nat} {s : ServerRow} {u : StatusWrite}
    (read : ReadRow db s) (judged : transition now s = some u) : u.Based db := by
  unfold transition at judged
  cases stored : s.lastSeenAt with
  | none => simp only [stored, reduceCtorEq] at judged
  | some seen =>
    simp only [stored] at judged
    by_cases same : statusAfter ((now : Int) - seen) = s.status
    · simp only [if_pos same, reduceCtorEq] at judged
    · simp only [if_neg same, Option.some.injEq] at judged
      obtain ⟨since, least⟩ := read seen stored
      subst judged
      exact ⟨since, fun _ => least, nofun⟩

theorem due_based {db : Roster} {now : Nat} {servers rest : List ServerRow} {u : StatusWrite}
    (read : ∀ s ∈ servers, ReadRow db s) (found : due now servers = some (u, rest)) :
    u.Based db ∧ ∀ s ∈ rest, ReadRow db s := by
  induction servers with
  | nil => cases found
  | cons s servers ih =>
    have others : ∀ s ∈ servers, ReadRow db s := fun s mem => read s (List.mem_cons_of_mem _ mem)
    unfold due at found
    cases judged : transition now s with
    | none =>
      rw [judged] at found
      exact ih others found
    | some u' =>
      rw [judged] at found
      cases found
      exact ⟨based_of_transition (read s List.mem_cons_self) judged, others⟩

/-- What a thread knows covers its write, and what it does afterwards. -/
theorem Point.Knows.pending {db : Roster} {k : Point} (knows : k.Knows db) {fails : Bool}
    {u : StatusWrite} {after : Point} (here : k.pending = some (fails, u, after)) :
    u.Based db ∧ after.Knows db := by
  cases k with
  | sweep updateFails now servers =>
    obtain ⟨⟨u', rest⟩, found, same⟩ := Option.map_eq_some_iff.mp here
    cases same
    exact due_based knows found
  | write updateFails id now known =>
    cases here
    exact ⟨⟨knows.2, nofun, fun _ => ⟨rfl, knows.1⟩⟩, trivial⟩
  | _ => cases here

/-! ## A write -/

theorem find?_updateServerStatus (db : Roster) (u : StatusWrite) (id : UUID) :
    (db.updateServerStatus u).servers.find? id =
      if id = u.id then (db.servers.find? id).map u.set else db.servers.find? id :=
  @Table.find?_update _ _ _ _ _ u.set (fun _ => rfl) u.id id

theorem of_written {db : Roster} {u : StatusWrite} {row : ServerRow}
    (mem : row ∈ (db.updateServerStatus u).servers.rows) :
    (∃ old, old ∈ db.servers.find? u.id ∧ row = u.set old) ∨ row ∈ db.servers.rows := by
  have found : (db.updateServerStatus u).servers.find? row.id = some row := Table.find?_self mem
  rw [find?_updateServerStatus] at found
  by_cases same : row.id = u.id
  · rw [if_pos same, Option.map_eq_some_iff] at found
    obtain ⟨old, here, rfl⟩ := found
    exact .inl ⟨old, same ▸ here, rfl⟩
  · rw [if_neg same] at found
    exact .inr (Table.mem_of_find? found)

theorem written_row {db : Roster} {u : StatusWrite} {row : ServerRow}
    (here : row ∈ db.servers.find? u.id) :
    (db.updateServerStatus u).servers.find? u.id = some (u.set row) := by
  rw [find?_updateServerStatus, if_pos rfl, Option.mem_def.mp here, Option.map_some]

/-- A verdict of 'offline' is a pass's, and is marked with what the pass knew. -/
theorem StatusWrite.Based.verdict {db : Roster} {u : StatusWrite} (based : u.Based db)
    (offline : u.status = .offline) (row : ServerRow) :
    (u.set row).judged = u.known ∧ (u.set row).reports = row.reports := by
  cases writer : u.reported with
  | true => exact nomatch (based.reported writer).1.symm.trans offline
  | false => simp only [StatusWrite.set, writer, Bool.false_eq_true, if_false, and_self]

/-- **A write takes nothing back exactly if it is timely.** -/
theorem forward_iff_timely {db : Roster} {u : StatusWrite} (upright : db.Upright)
    (based : u.Based db) : Forward db (db.updateServerStatus u) ↔ u.Timely db := by
  constructor
  · intro forward row here
    have stored : row ∈ db.servers.rows := Table.mem_of_find? here
    have same : row.id = u.id := Table.key_of_find? here
    have written := written_row here
    constructor
    · intro reading since
      obtain ⟨seen, held, bound⟩ := upright.covered row stored reading (List.mem_of_mem_drop since)
      obtain ⟨later, now, ahead⟩ := forward.lastSeen row stored seen held
      rw [Roster.lastSeenAt, same, written] at now
      obtain rfl : u.lastSeenAt = later := Option.some.inj now
      exact Nat.le_trans bound ahead
    · intro verdict
      have left := forward.offline (u.set row) (Table.mem_of_find? written) verdict
      obtain ⟨judged, reports⟩ := based.verdict verdict row
      rw [judged, reports] at left
      rw [left, List.drop_length]
  · intro timely
    refine ⟨fun row mem seen held => ?_, fun row mem verdict => ?_⟩
    · have here : db.servers.find? row.id = some row := Table.find?_self mem
      by_cases same : row.id = u.id
      · have mine : row ∈ db.servers.find? u.id := same ▸ here
        refine ⟨u.lastSeenAt, ?_, ?_⟩
        · rw [Roster.lastSeenAt, same, written_row mine]
          rfl
        · exact ((based.since row mine).2 seen held).elim id ((timely row mine).1 seen)
      · refine ⟨seen, ?_, Nat.le_refl _⟩
        rw [Roster.lastSeenAt, find?_updateServerStatus, if_neg same, here]
        exact held
    · obtain ⟨old, here, rfl⟩ | mem := of_written mem
      · have offline : u.status = .offline := verdict
        obtain ⟨judged, reports⟩ := based.verdict offline old
        have all := List.drop_eq_nil_iff.mp ((timely old here).2 offline)
        rw [judged, reports]
        exact Nat.le_antisymm (based.since old here).1 all
      · exact upright.offline row mem verdict

/-- What others may do to a row: its reports grow, and the stored time stays or becomes that
of a new report. -/
structure Aged (row row' : ServerRow) : Prop where
  reports : row.reports <+: row'.reports
  lastSeen : row'.lastSeenAt = row.lastSeenAt ∨
    ∃ seen ∈ row'.reports.drop row.reports.length, row'.lastSeenAt = some seen
  ahead : ∀ seen ∈ row.lastSeenAt, ∃ later ∈ row'.lastSeenAt, seen ≤ later

structure Ages (db db' : Roster) : Prop where
  now : db.now ≤ db'.now
  rows : ∀ id, ∀ row' ∈ db'.servers.find? id, ∃ row ∈ db.servers.find? id, Aged row row'

theorem Aged.refl (row : ServerRow) : Aged row row :=
  ⟨List.prefix_rfl, .inl rfl, fun seen held => ⟨seen, held, Nat.le_refl _⟩⟩

theorem Ages.of_rows {db db' : Roster} (same : db'.servers = db.servers) (now : db.now ≤ db'.now) :
    Ages db db' :=
  ⟨now, fun _ row' here => ⟨row', same ▸ here, .refl row'⟩⟩

theorem mem_drop_of_grown {xs ys : List Nat} {k x : Nat} (grown : xs <+: ys)
    (mem : x ∈ xs.drop k) : x ∈ ys.drop k := by
  obtain ⟨new, rfl⟩ := grown
  by_cases short : k ≤ xs.length
  · rw [List.drop_append_of_le_length short]
    exact List.mem_append_left _ mem
  · rw [List.drop_eq_nil_of_le (by omega)] at mem
    exact absurd mem List.not_mem_nil

theorem Since.age {db db' : Roster} {id : UUID} {known bound : Nat} (since : Since db id known bound)
    (ages : Ages db db') : Since db' id known bound := by
  intro row' here
  obtain ⟨row, old, aged⟩ := ages.rows id row' here
  obtain ⟨inside, stored⟩ := since row old
  refine ⟨Nat.le_trans inside aged.reports.length_le, fun seen held => ?_⟩
  rcases aged.lastSeen with same | ⟨new, mem, now⟩
  · rw [same] at held
    exact (stored seen held).imp_right (mem_drop_of_grown aged.reports)
  · obtain rfl : new = seen := Option.some.inj (now.symm.trans held)
    exact .inr (List.mem_of_mem_drop (i := row.reports.length - known) (by
      rwa [List.drop_drop, Nat.add_sub_cancel' inside]))

theorem AtLeast.age {db db' : Roster} {id : UUID} {bound : Nat} (least : AtLeast db id bound)
    (ages : Ages db db') : AtLeast db' id bound := by
  intro row' here
  obtain ⟨row, old, aged⟩ := ages.rows id row' here
  obtain ⟨seen, held, first⟩ := least row old
  obtain ⟨later, now, ahead⟩ := aged.ahead seen held
  exact ⟨later, now, Nat.le_trans first ahead⟩

theorem Point.Knows.age {db db' : Roster} {k : Point} (knows : k.Knows db) (ages : Ages db db') :
    k.Knows db' := by
  have rows : ∀ {servers : List ServerRow}, (∀ s ∈ servers, ReadRow db s) →
      ∀ s ∈ servers, ReadRow db' s := fun read s mem seen held =>
    ⟨(read s mem seen held).1.age ages, (read s mem seen held).2.age ages⟩
  cases k with
  | clock updateFails servers => exact rows knows
  | sweep updateFails now servers => exact rows knows
  | write updateFails id now known =>
    exact ⟨Nat.le_trans knows.1 ages.now, knows.2.age ages⟩
  | _ => trivial

theorem ages_write {db : Roster} {u : StatusWrite} (based : u.Based db) (timely : u.Timely db) :
    Ages db (db.updateServerStatus u) := by
  refine ⟨Nat.le_refl _, fun id row' here => ?_⟩
  rw [Option.mem_def, find?_updateServerStatus] at here
  by_cases same : id = u.id
  · subst same
    rw [if_pos rfl, Option.map_eq_some_iff] at here
    obtain ⟨row, old, rfl⟩ := here
    refine ⟨row, old, ?_⟩
    have within : ∀ seen ∈ row.lastSeenAt, seen ≤ u.lastSeenAt := fun seen held =>
      ((based.since row old).2 seen held).elim id ((timely row old).1 seen)
    have ahead : ∀ seen ∈ row.lastSeenAt, ∃ later ∈ (u.set row).lastSeenAt, seen ≤ later :=
      fun seen held => ⟨u.lastSeenAt, rfl, within seen held⟩
    cases writer : u.reported with
    | true =>
      have grown : (u.set row).reports = row.reports ++ [u.lastSeenAt] := by
        simp only [StatusWrite.set, writer, if_true]
      refine ⟨grown ▸ List.prefix_append _ _, .inr ⟨u.lastSeenAt, ?_, rfl⟩, ahead⟩
      rw [grown, List.drop_left]
      exact List.mem_singleton_self _
    | false =>
      have kept : (u.set row).reports = row.reports := by
        simp only [StatusWrite.set, writer, Bool.false_eq_true, if_false]
      obtain ⟨seen, held, least⟩ := based.judged writer row old
      have stays : u.lastSeenAt = seen := Nat.le_antisymm least (within seen held)
      refine ⟨kept ▸ List.prefix_rfl, .inl ?_, ahead⟩
      rw [Option.mem_def.mp held, ← stays]
      rfl
  · rw [if_neg same] at here
    exact ⟨row', here, .refl row'⟩

theorem upright_write {db : Roster} {u : StatusWrite} (upright : db.Upright) (based : u.Based db)
    (timely : u.Timely db) : (db.updateServerStatus u).Upright := by
  have within : ∀ row ∈ db.servers.find? u.id, ∀ seen ∈ row.lastSeenAt, seen ≤ u.lastSeenAt :=
    fun row old seen held =>
      ((based.since row old).2 seen held).elim id ((timely row old).1 seen)
  refine ⟨fun row mem => ?_, fun row mem reading inside => ?_,
    ((forward_iff_timely upright based).mpr timely).offline⟩
  · obtain ⟨old, here, rfl⟩ | mem := of_written mem
    · intro seen held
      obtain rfl : u.lastSeenAt = seen := Option.some.inj held
      cases writer : u.reported with
      | true => exact (based.reported writer).2
      | false =>
        obtain ⟨stored, held, least⟩ := based.judged writer old here
        exact Nat.le_trans least (upright.past old (Table.mem_of_find? here) stored held)
    · exact upright.past row mem
  · obtain ⟨old, here, rfl⟩ | mem := of_written mem
    · refine ⟨u.lastSeenAt, rfl, ?_⟩
      have before : ∀ reading ∈ old.reports, reading ≤ u.lastSeenAt := by
        intro reading inside
        obtain ⟨seen, held, bound⟩ :=
          upright.covered old (Table.mem_of_find? here) reading inside
        exact Nat.le_trans bound (within old here seen held)
      cases writer : u.reported with
      | true =>
        simp only [StatusWrite.set, writer, if_true, List.mem_append, List.mem_singleton] at inside
        exact inside.elim (before reading) (fun new => new ▸ Nat.le_refl _)
      | false =>
        simp only [StatusWrite.set, writer, Bool.false_eq_true, if_false] at inside
        exact before reading inside
    · exact upright.covered row mem reading inside

/-! ## A step and a run -/

theorem Forward.refl {db : Roster} (upright : db.Upright) : Forward db db :=
  ⟨fun _ mem seen held =>
    ⟨seen, (congrArg (Option.bind · ServerRow.lastSeenAt) (Table.find?_self mem)).trans held,
      Nat.le_refl _⟩,
    upright.offline⟩

theorem Roster.Upright.wait {db : Roster} (upright : db.Upright) (elapsed : Nat) :
    ({ db with now := db.now + elapsed } : Roster).Upright :=
  ⟨fun row mem seen held => Nat.le_trans (upright.past row mem seen held) (Nat.le_add_right _ _),
    upright.covered, upright.offline⟩

theorem readRow_of_mem {db : Roster} {s : ServerRow} (mem : s ∈ db.servers.rows) :
    ReadRow db s := by
  intro seen held
  have only : ∀ row ∈ db.servers.find? s.id, row = s := fun row here =>
    (Option.some.inj ((Table.find?_self mem).symm.trans here)).symm
  refine ⟨fun row here => ?_, fun row here => ?_⟩
  · obtain rfl := only row here
    refine ⟨Nat.le_refl _, fun now stored => .inl ?_⟩
    obtain rfl : seen = now := Option.some.inj ((Option.mem_def.mp held).symm.trans stored)
    exact Nat.le_refl _
  · obtain rfl := only row here
    exact ⟨seen, held, Nat.le_refl _⟩

theorem Point.Knows.read {db : Roster} {k : Point} (knows : k.Knows db) (upright : db.Upright)
    {effect : Roster → Roster} {next : Roster → Point} (edge : k.act = some (effect, next))
    (reads : k.pending = none) : (next db).Knows db := by
  cases k with
  | halt => cases edge
  | tick elapsed => cases edge; trivial
  | write updateFails id now known => cases reads
  | sweep updateFails now servers =>
    simp only [act, reads, Option.map_none, reduceCtorEq] at edge
  | clock updateFails servers => cases edge; exact knows
  | list listFails updateFails =>
    cases edge
    cases listFails with
    | true => trivial
    | false => exact fun s mem => readRow_of_mem (List.mem_of_mem_filter mem)
  | lookup agentID lookupFails updateFails =>
    cases edge
    dsimp only
    cases (if lookupFails then none else db.getServerByAgentID agentID) with
    | none => trivial
    | some srv => trivial
  | stamp updateFails id =>
    cases edge
    refine ⟨Nat.le_refl _, fun row here => ?_⟩
    have count : db.handled id = row.reports.length := by
      rw [Roster.handled, Option.mem_def.mp here, Option.map_some, Option.getD_some]
    exact ⟨Nat.le_of_eq count, fun seen held =>
      .inl (upright.past row (Table.mem_of_find? here) seen held)⟩

theorem Point.pending_of_halted {k : Point} (halted : k.act = none) : k.pending = none := by
  cases k with
  | sweep updateFails now servers => exact Option.map_eq_none_iff.mp halted
  | write updateFails id now known => cases halted
  | _ => rfl

/-- The table is upright and every thread knows what its write rests on. -/
def Knowing (c : Roster × List Point) : Prop := c.1.Upright ∧ ∀ k ∈ c.2, k.Knows c.1

theorem forward_iff_undisturbed (c : Roster × List Point) (i : Nat) (knowing : Knowing c) :
    Undisturbed c i ↔ Forward c.1 (watching.advance (fun _ _ => []) c i).1 := by
  obtain ⟨upright, knows⟩ := knowing
  obtain ⟨same, halted⟩ | ⟨k, effect, next, here, edge, moved⟩ :=
    watching.advance_split (fun _ _ => []) c i
  · rw [same]
    refine iff_of_true (fun k found p pending => ?_) (.refl upright)
    rw [Point.pending_of_halted (halted k found)] at pending
    cases pending
  · rw [moved]
    have mine : ∀ k' ∈ c.2[i]?, k' = k := fun k' found => Option.some.inj (found.symm.trans here)
    obtain ⟨reads, waits⟩ | ⟨fails, u, after, pending, rfl, -⟩ := Point.act_cases edge
    · obtain ⟨elapsed, passed⟩ := waits c.1
      dsimp only
      rw [passed]
      have forward := Forward.refl (upright.wait elapsed)
      refine iff_of_true (fun k' found p pending => ?_) ⟨forward.lastSeen, forward.offline⟩
      rw [mine k' found, reads] at pending
      cases pending
    · have writes : Undisturbed c i ↔ (fails = false → u.Timely c.1) :=
        ⟨fun undisturbed => undisturbed k here _ pending, fun timely k' found p held => by
          rw [mine k' found, pending] at held
          cases held
          exact timely⟩
      rw [writes]
      cases fails with
      | true => exact iff_of_true (nofun) (.refl upright)
      | false =>
        have based := ((knows k (List.mem_of_getElem? here)).pending pending).1
        exact (imp_iff_right rfl).trans (forward_iff_timely upright based).symm

theorem knowing_advance (c : Roster × List Point) (i : Nat) (knowing : Knowing c)
    (undisturbed : Undisturbed c i) : Knowing (watching.advance (fun _ _ => []) c i) := by
  obtain ⟨upright, knows⟩ := knowing
  obtain ⟨same, -⟩ | ⟨k, effect, next, here, edge, moved⟩ :=
    watching.advance_split (fun _ _ => []) c i
  · rw [same]
    exact ⟨upright, knows⟩
  · rw [moved]
    have before : k.Knows c.1 := knows k (List.mem_of_getElem? here)
    -- the other threads keep what they know, and the picked one knows it for its next step
    have everybody : Ages c.1 (effect c.1) → (next c.1).Knows c.1 →
        ∀ k' ∈ c.2.set i (next c.1) ++ [], k'.Knows (effect c.1) := by
      intro ages mine k' mem
      rw [List.append_nil] at mem
      rcases List.mem_or_eq_of_mem_set mem with old | rfl
      · exact (knows k' old).age ages
      · exact mine.age ages
    obtain ⟨reads, waits⟩ | ⟨fails, u, after, pending, rfl, follows⟩ := Point.act_cases edge
    · obtain ⟨elapsed, passed⟩ := waits c.1
      have ages : Ages c.1 (effect c.1) := by
        rw [passed]
        exact .of_rows rfl (Nat.le_add_right _ _)
      refine ⟨?_, everybody ages (before.read upright edge reads)⟩
      dsimp only
      rw [passed]
      exact upright.wait elapsed
    · obtain ⟨based, later⟩ := before.pending pending
      rw [← follows c.1] at later
      cases fails with
      | true => exact ⟨upright, everybody (.of_rows rfl (Nat.le_refl _)) later⟩
      | false =>
        have timely : u.Timely c.1 := undisturbed k here _ pending rfl
        exact ⟨upright_write upright based timely, everybody (ages_write based timely) later⟩

/-- **Last-seen times only go forward, and nobody is left 'offline' over a report, exactly
in the schedules in which every write is timely.** -/
theorem lastSeen_iff (threads : List Thread) (db : Roster) (starts : db.Starts)
    (schedule : List Nat) :
    (Pool.mk db (threads.map Thread.prog)).Along Pool.noSpawn Forward schedule ↔
      watching.Along (fun _ _ => []) Undisturbed (db, threads.map Thread.point) schedule := by
  have coded : Pool.mk db (threads.map Thread.prog) =
      Flow.pool Point.code (db, threads.map Thread.point) := by
    simp only [Flow.pool, List.map_map, Function.comp_def, Thread.point_code]
  have knowing : Knowing (db, threads.map Thread.point) := by
    refine ⟨starts.upright, fun k mem => ?_⟩
    obtain ⟨t, -, rfl⟩ := List.mem_map.mp mem
    cases t <;> trivial
  rw [coded]
  refine (Pool.along_coded Point.presents (fun _ _ => []) Forward _ schedule).trans ?_
  exact (Flow.along_iff_along forward_iff_undisturbed knowing_advance knowing schedule).symm

/-- A server that was last seen when the clock started, one minute ago. -/
def minuteAgo : Roster where
  now := 60000000
  servers := ⟨[{ id := 1, agentID := some "a", status := .online, lastSeenAt := some 0 }],
    by decide⟩

theorem minuteAgo_starts : minuteAgo.Starts where
  unreported row mem := by
    obtain rfl := List.mem_singleton.mp mem
    exact ⟨rfl, rfl⟩
  past row mem seen held := by
    obtain rfl := List.mem_singleton.mp mem
    obtain rfl : 0 = seen := Option.some.inj held
    exact Nat.zero_le _

/-- The pass has read the row, a report is handled, and the pass writes what it read. -/
theorem report_taken_back :
    ((Pool.mk minuteAgo [check false fun _ => false, handleResourceReport "a" false false]).run
        Pool.noSpawn [0, 0, 1, 1, 1]).store.servers.rows.map
          (fun row => (row.status, row.lastSeenAt)) = [(.online, some 60000000)] ∧
      ((Pool.mk minuteAgo [check false fun _ => false, handleResourceReport "a" false false]).run
        Pool.noSpawn [0, 0, 1, 1, 1, 0]).store.servers.rows.map
          (fun row => (row.status, row.lastSeenAt)) = [(.offline, some 0)] ∧
      ¬ (Pool.mk minuteAgo [check false fun _ => false, handleResourceReport "a" false false]).Along
        Pool.noSpawn Forward [0, 0, 1, 1, 1, 0] := by
  decide +kernel

/-- A report behind the pass repairs its verdict. -/
theorem report_after_pass :
    (Pool.mk minuteAgo ([.check false fun _ => false, .report "a" false false].map
        Thread.prog)).Along Pool.noSpawn Forward [0, 0, 0, 1, 1, 1] :=
  (lastSeen_iff [.check false fun _ => false, .report "a" false false] minuteAgo
    minuteAgo_starts [0, 0, 0, 1, 1, 1]).mpr (by decide +kernel)

end Nixway.Servers
