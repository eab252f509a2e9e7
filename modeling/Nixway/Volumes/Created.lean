/-
# Volumes.Created -- a created volume exists or is in error

`Create` of `internal/volume/service.go` behind the whole way to the agent and back: `dispatch` with
its channel in `pending`, `HandleResult`, and `HandleVolumeCreate` of `apps/agent/volume.go`, which
answers each command once.  An agent that cannot be reached, or does not answer in time, is an error
of `dispatch`; an agent that has failed is a result, whose flag `Create` does not look at.

`create_settles_iff` is exact: the row says what became of the volume just if no failure is answered
in time, and the statement that marks the row does not fail in its turn.
-/
import Nixway.Volumes.Service

namespace Nixway.Volumes.Created

open Nixway.Theory Nixway.Store
open Nixway.Theory.Prog (query exec atomic)

set_option autoImplicit false

/-! ## The way to the agent -/

/-- A `VolumeResult` message. -/
structure Report where
  requestID : String
  volumeID : UUID
  result : VolumeResult
deriving DecidableEq

/-- The `pending` map and its channels, what was sent, and all the agents have reported. -/
structure AgentSide where
  pending : List String := []
  inbox : String → Option VolumeResult := fun _ => none
  sent : List (UUID × VolumeCommand) := []
  reported : List Report := []

namespace AgentSide

variable (a : AgentSide)

/-- `s.pending[requestID] = ch`. -/
def register (requestID : String) : AgentSide :=
  { a with
    pending := requestID :: a.pending
    inbox := fun id => if id = requestID then none else a.inbox id }

/-- `delete(s.pending, requestID)`; nobody reads the channel any more. -/
def unregister (requestID : String) : AgentSide :=
  { a with
    pending := a.pending.filter fun id => id ≠ requestID
    inbox := fun id => if id = requestID then none else a.inbox id }

def send (serverID : UUID) (command : VolumeCommand) : AgentSide :=
  { a with sent := a.sent ++ [(serverID, command)] }

/-- `HandleResult`; the channel has room for one result, and a second one is dropped. -/
def handleResult (report : Report) : AgentSide :=
  let a := { a with reported := a.reported ++ [report] }
  if report.requestID = "" then a
  else if report.requestID ∈ a.pending then
    { a with
      pending := a.pending.filter fun id => id ≠ report.requestID
      inbox := fun id =>
        if id = report.requestID then (a.inbox id).or (some report.result) else a.inbox id }
  else a

end AgentSide

/-- How the commands of `HandleVolumeCreate` fare. -/
structure Disk where
  imageExists : Bool := false
  mkdirAll : Bool := true
  ensureLoopbackVolume : Bool := true

/-- `HandleVolumeCreate`. -/
def handleVolumeCreate (disk : Disk) (requestID : String) (volumeID : UUID) (hostPath : String)
    (sizeGb : Int) : Report :=
  let failed : Report := { requestID, volumeID, result := { success := false } }
  if hostPath = "" then failed
  else if sizeGb ≤ 0 ∧ !disk.imageExists then failed
  else if !disk.mkdirAll then failed
  else if !disk.ensureLoopbackVolume then failed
  else { requestID, volumeID, result := { sizeBytes := sizeGb * 1024 * 1024 * 1024 } }

/-- What surrounds a dispatch: the server's row and its agent, the results for other requests that
arrive meanwhile, and how the agent fares, if it answers at all and before the time is up.  A late
answer comes before `Create` goes on or when it has returned. -/
structure Around where
  server : Option (Option String) := some (some "agent")
  sends : Bool := true
  others : List Report := []
  disk : Option Disk := some {}
  inTime : Bool := true
  returned : Bool := false

/-- The agent is known and the command is sent. -/
def Around.reaches (around : Around) : Bool :=
  (around.server.getD none).getD "" ≠ "" && around.sends

/-- What the agent answers to a command. -/
def Around.report (around : Around) (requestID : String) : VolumeCommand → Option Report
  | .create volumeID hostPath sizeGb =>
    around.disk.map fun disk => handleVolumeCreate disk requestID volumeID hostPath sizeGb
  | _ => none

def handles (reports : List Report) (s : VolumeStore AgentSide) : VolumeStore AgentSide :=
  { s with agents := reports.foldl AgentSide.handleResult s.agents }

/-- `dispatch`. -/
def dispatch (around : Around) (requestID : String) : Dispatch AgentSide :=
  fun _ serverID command => do
    if (around.server.getD none).getD "" = "" then
      return none
    exec fun s => { s with agents := s.agents.register requestID }
    if !around.sends then
      exec fun s => { s with agents := s.agents.unregister requestID }
      return none
    exec fun s => { s with agents := s.agents.send serverID command }
    exec (handles around.others)
    if around.inTime then
      exec (handles (around.report requestID command).toList)
    let answer ← query fun s => s.agents.inbox requestID
    exec fun s => { s with agents := s.agents.unregister requestID }
    if !around.inTime && !around.returned then
      exec (handles (around.report requestID command).toList)
    return answer

/-- What is reported when `Create` has returned. -/
def Around.reportedAfter (around : Around) (requestID : String)
    (commands : List (UUID × VolumeCommand)) : List Report :=
  if !around.inTime && around.returned then
    commands.filterMap fun sent => around.report requestID sent.2
  else []

/-- `Create`, and what is reported behind it about the commands it has sent. -/
def createThen (faults : Faults) (around : Around) (requestID : String) (id : UUID)
    (req : CreateRequest) (s : VolumeStore AgentSide) :
    VolumeStore AgentSide × Except VolumeError Volume :=
  let run := (create faults (dispatch around requestID) id req).run s
  let commands := run.1.agents.sent.drop s.agents.sent.length
  (handles (around.reportedAfter requestID commands) run.1, run.2)

/-! ## What a row should say -/

/-- The agent has reported that the volume was made, or that it was not. -/
def Reported (success : Bool) (requestID : String) (id : UUID) (s : VolumeStore AgentSide) : Prop :=
  ∃ r ∈ s.agents.reported, r.requestID = requestID ∧ r.volumeID = id ∧ r.result.success = success

/-- A row that is answered as free is that of a volume which was made, and after a failure the row
is in error. -/
structure Settles (requestID : String) (id : UUID)
    (run : VolumeStore AgentSide × Except VolumeError Volume) : Prop where
  made : ∀ vol, run.2 = .ok vol → vol.status = .unattached → Reported true requestID id run.1
  answered : Reported false requestID id run.1 → ∀ vol, run.2 = .ok vol → vol.status = .error
  stored : Reported false requestID id run.1 →
    ∀ vol, run.1.volumes.find? id = some vol → vol.status = .error

/-- The request id is a new one. -/
structure Fresh (requestID : String) (around : Around) (s : VolumeStore AgentSide) : Prop where
  nonempty : requestID ≠ ""
  others : ∀ r ∈ around.others, r.requestID ≠ requestID
  reported : ∀ r ∈ s.agents.reported, r.requestID ≠ requestID

/-- The command is dispatched: the request is well formed and the row is there. -/
structure Starts (faults : Faults) (id : UUID) (req : CreateRequest) (s : VolumeStore AgentSide) :
    Prop where
  named : req.name ≠ ""
  sized : 0 < req.sizeGb
  works : faults .createVolume = false
  accepted : (s.createVolume (req.row id)).2 ≠ none
  placed : faults .updateVolumeHostPath = false

/-- What the agent reports of a volume it is told to make, in time or not. -/
def Around.success (around : Around) : Option Bool :=
  if around.reaches then
    around.disk.map fun disk => disk.mkdirAll && disk.ensureLoopbackVolume
  else none

/-- A failure comes too late and the row is marked; a row that nothing was reported for is marked
or is not read again. -/
structure Marked (faults : Faults) (around : Around) : Prop where
  failure : around.success = some false → around.inTime = false ∧ faults .failStatus = false
  silence : around.success = none → faults .failStatus = false ∨ faults .reload = true

/-! ## The dispatch -/

section Dispatch

variable {around : Around} {requestID : String} {s : VolumeStore AgentSide}

theorem reported_handles (reports : List Report) (a : AgentSide) :
    (reports.foldl AgentSide.handleResult a).reported = a.reported ++ reports := by
  induction reports generalizing a with
  | nil => exact (List.append_nil _).symm
  | cons r rest ih =>
    have one : (a.handleResult r).reported = a.reported ++ [r] := by
      unfold AgentSide.handleResult
      dsimp only
      split
      · rfl
      · split
        · rfl
        · rfl
    rw [List.foldl_cons, ih, one, List.append_assoc]
    rfl

theorem sent_handles (reports : List Report) (a : AgentSide) :
    (reports.foldl AgentSide.handleResult a).sent = a.sent := by
  induction reports generalizing a with
  | nil => rfl
  | cons r rest ih =>
    rw [List.foldl_cons, ih]
    unfold AgentSide.handleResult
    dsimp only
    split
    · rfl
    · split
      · rfl
      · rfl

theorem handles_other {reports : List Report} (other : ∀ r ∈ reports, r.requestID ≠ requestID)
    {a : AgentSide} (waits : requestID ∈ a.pending) (empty : a.inbox requestID = none) :
    requestID ∈ (reports.foldl AgentSide.handleResult a).pending ∧
      (reports.foldl AgentSide.handleResult a).inbox requestID = none := by
  induction reports generalizing a with
  | nil => exact ⟨waits, empty⟩
  | cons r rest ih =>
    have differs : requestID ≠ r.requestID := (other r List.mem_cons_self).symm
    refine ih (fun x member => other x (List.mem_cons_of_mem r member)) ?_ ?_
    · unfold AgentSide.handleResult
      dsimp only
      split
      · exact waits
      · split
        · exact List.mem_filter.mpr ⟨waits, decide_eq_true differs⟩
        · exact waits
    · unfold AgentSide.handleResult
      dsimp only
      split
      · exact empty
      · split
        · exact (if_neg differs).trans empty
        · exact empty

theorem inbox_handleResult {r : Report} {a : AgentSide} (own : r.requestID = requestID)
    (nonempty : requestID ≠ "") (waits : requestID ∈ a.pending) (empty : a.inbox requestID = none) :
    (a.handleResult r).inbox requestID = some r.result := by
  unfold AgentSide.handleResult
  dsimp only
  rw [own, if_neg nonempty, if_pos waits]
  dsimp only
  rw [if_pos rfl, empty]
  rfl

/-- **What a dispatch answers and leaves behind.** -/
structure Dispatched (around : Around) (requestID : String) (serverID : UUID)
    (command : VolumeCommand) (s : VolumeStore AgentSide)
    (run : VolumeStore AgentSide × Option VolumeResult) : Prop where
  volumes : run.1.volumes = s.volumes
  answer : run.2 = if around.reaches && around.inTime then
    (around.report requestID command).map Report.result else none
  sent : run.1.agents.sent = s.agents.sent ++
    if around.reaches then [(serverID, command)] else []
  reported : run.1.agents.reported ++ around.reportedAfter requestID
      (if around.reaches then [(serverID, command)] else []) = s.agents.reported ++
    if around.reaches then around.others ++ (around.report requestID command).toList else []

@[simp]
theorem reportedAfter_nil : around.reportedAfter requestID [] = [] := by
  unfold Around.reportedAfter
  split
  · rfl
  · rfl

theorem reportedAfter_one {serverID : UUID} {command : VolumeCommand} :
    around.reportedAfter requestID [(serverID, command)] =
      if !around.inTime && around.returned then (around.report requestID command).toList else [] := by
  unfold Around.reportedAfter
  split
  · cases reports : around.report requestID command with
    | none => simp [reports]
    | some r => simp [reports]
  · rfl

theorem report_requestID {command : VolumeCommand} {r : Report}
    (reports : around.report requestID command = some r) : r.requestID = requestID := by
  unfold Around.report at reports
  split at reports
  · obtain ⟨disk, -, rfl⟩ := Option.map_eq_some_iff.mp reports
    unfold handleVolumeCreate
    dsimp only
    repeat' split
    all_goals rfl
  · cases reports

theorem dispatch_run (fresh : Fresh requestID around s) (teamID serverID : UUID)
    (command : VolumeCommand) :
    Dispatched around requestID serverID command s
      ((dispatch around requestID teamID serverID command).run s) := by
  unfold dispatch
  by_cases known : (around.server.getD none).getD "" = ""
  · have unreached : around.reaches = false := by simp [Around.reaches, known]
    rw [if_pos known]
    refine ⟨rfl, by rw [unreached]; rfl, ?_, ?_⟩
    · rw [unreached]
      exact (List.append_nil _).symm
    · simp only [unreached, Bool.false_eq_true, if_false, reportedAfter_nil]
      rfl
  cases sends : around.sends with
  | false =>
    have unreached : around.reaches = false := by simp [Around.reaches, sends]
    rw [if_neg known]
    refine ⟨rfl, by rw [unreached]; rfl, ?_, ?_⟩
    · rw [unreached]
      exact (List.append_nil _).symm
    · simp only [unreached, Bool.false_eq_true, if_false, reportedAfter_nil]
      rfl
  | true =>
    have reached : around.reaches = true := by simp [Around.reaches, known, sends]
    -- the channel waits, whatever arrives for other requests
    obtain ⟨waits, empty⟩ := handles_other fresh.others
      (a := (s.agents.register requestID).send serverID command) List.mem_cons_self (if_pos rfl)
    have reads : (((around.report requestID command).toList.foldl AgentSide.handleResult
        (around.others.foldl AgentSide.handleResult
          ((s.agents.register requestID).send serverID command))).inbox requestID) =
        (around.report requestID command).map Report.result := by
      cases reports : around.report requestID command with
      | none => exact empty
      | some r =>
        exact inbox_handleResult (report_requestID reports) fresh.nonempty waits empty
    have all : (around.others.foldl AgentSide.handleResult
        ((s.agents.register requestID).send serverID command)).reported ++
          (around.report requestID command).toList =
        s.agents.reported ++ (around.others ++ (around.report requestID command).toList) := by
      rw [reported_handles, List.append_assoc]
      rfl
    have sent : (around.others.foldl AgentSide.handleResult
        ((s.agents.register requestID).send serverID command)).sent =
        s.agents.sent ++ [(serverID, command)] := sent_handles _ _
    rw [if_neg known]
    cases inTime : around.inTime with
    | true =>
      refine ⟨rfl, ?_, ?_, ?_⟩
      · show AgentSide.inbox _ requestID = _
        rw [reached, inTime]
        exact reads
      · show AgentSide.sent (AgentSide.unregister (List.foldl _ _ _) _) = _
        rw [reached]
        exact (sent_handles _ _).trans sent
      · show AgentSide.reported (AgentSide.unregister (List.foldl _ _ _) _) ++ _ = _
        rw [reached, if_pos rfl, reportedAfter_one, inTime]
        show AgentSide.reported (List.foldl _ _ _) ++ [] = _
        rw [List.append_nil, reported_handles]
        exact all
    | false =>
      have answer : (none : Option VolumeResult) = if around.reaches && around.inTime then
          (around.report requestID command).map Report.result else none := by
        rw [reached, inTime]
        rfl
      cases returned : around.returned with
      | false =>
        refine ⟨rfl, empty.trans answer, ?_, ?_⟩
        · show AgentSide.sent (List.foldl _ (AgentSide.unregister _ _) _) = _
          rw [reached, sent_handles]
          exact sent
        · show AgentSide.reported (List.foldl _ (AgentSide.unregister _ _) _) ++ _ = _
          rw [reached, if_pos rfl, reportedAfter_one, inTime, returned, reported_handles]
          show (AgentSide.reported (List.foldl _ _ _) ++ _) ++ [] = _
          rw [List.append_nil]
          exact all
      | true =>
        refine ⟨rfl, empty.trans answer, ?_, ?_⟩
        · show AgentSide.sent (AgentSide.unregister _ _) = _
          rw [reached]
          exact sent
        · show AgentSide.reported (AgentSide.unregister _ _) ++ _ = _
          rw [reached, if_pos rfl, reportedAfter_one, inTime, returned]
          exact all

end Dispatch

/-! ## The creation -/

section Create

variable {faults : Faults} {around : Around} {requestID : String} {id : UUID} {req : CreateRequest}
  {s t : VolumeStore AgentSide}

/-- The end of `Create`: the row is read again. -/
def reload (faults : Faults) (teamID id : UUID) :
    Prog (VolumeStore AgentSide) (Except VolumeError Volume) := do
  let some final ← Volumes.read (faults .reload) fun s => s.getVolume id teamID
    | return .error .reloadVolume
  return .ok final

/-- `Create` behind the answer of `dispatch`. -/
def settle (faults : Faults) (teamID id : UUID) (answer : Option VolumeResult) :
    Prog (VolumeStore AgentSide) (Except VolumeError Volume) :=
  if answer = none then
    statement (faults .failStatus) (fun s => s.updateVolumeStatus id teamID .error) >>= fun _ =>
      reload faults teamID id
  else reload faults teamID id

/-- The row `Create` has inserted and given its path. -/
def placedRow (id : UUID) (req : CreateRequest) : Volume :=
  { req.row id with hostPath := volumeHostPath id }

def inserted (id : UUID) (req : CreateRequest) (s : VolumeStore AgentSide) :
    VolumeStore AgentSide :=
  ((s.createVolume (req.row id)).1.updateVolumeHostPath id (volumeHostPath id)).1

/-- An insertion that is accepted: the row is there, and nothing happened to the agents. -/
theorem createVolume_accepted {vol : Volume} (accepted : (s.createVolume vol).2 ≠ none) :
    (s.createVolume vol).2 = some vol ∧ (s.createVolume vol).1.volumes.find? vol.id = some vol ∧
      (s.createVolume vol).1.agents = s.agents := by
  unfold VolumeStore.createVolume at accepted ⊢
  split
  · next taken =>
    rw [if_pos taken] at accepted
    exact absurd rfl accepted
  · next unused =>
    rw [if_neg unused] at accepted
    cases inserted : s.volumes.insert? vol with
    | none =>
      rw [inserted] at accepted
      exact absurd rfl accepted
    | some volumes => exact ⟨rfl, (Table.find?_insert? inserted vol.id).trans (if_pos rfl), rfl⟩

theorem find?_inserted (accepted : (s.createVolume (req.row id)).2 ≠ none) :
    (inserted id req s).volumes.find? id = some (placedRow id req) ∧
      (inserted id req s).agents = s.agents := by
  obtain ⟨-, row, agents⟩ := createVolume_accepted accepted
  refine ⟨?_, agents⟩
  unfold inserted VolumeStore.updateVolumeHostPath
  dsimp only
  rw [Table.find?_update_self]
  exact congrArg (Option.map _) row

theorem create_run (starts : Starts faults id req s) :
    (create faults (dispatch around requestID) id req).run s =
      (dispatch around requestID req.teamID req.serverID
        (.create id (volumeHostPath id) req.sizeGb) >>= settle faults req.teamID id).run
          (inserted id req s) := by
  unfold create statement
  rw [if_neg starts.named, if_neg (Int.not_le.mpr starts.sized), Prog.run_atomic_bind, starts.works,
    if_neg Bool.false_ne_true, (createVolume_accepted starts.accepted).1]
  dsimp only
  rw [Prog.run_atomic_bind, starts.placed, if_neg Bool.false_ne_true]
  rfl

theorem create_refused (refused : ¬ Starts faults id req s) :
    ∃ error, ((create faults (dispatch around requestID) id req).run s).2 = .error error ∧
      ((create faults (dispatch around requestID) id req).run s).1.agents = s.agents := by
  unfold create
  by_cases named : req.name = ""
  · exact ⟨.nameRequired, by rw [if_pos named]; exact ⟨rfl, rfl⟩⟩
  by_cases sized : req.sizeGb ≤ 0
  · exact ⟨.sizeNotPositive, by rw [if_neg named, if_pos sized]; exact ⟨rfl, rfl⟩⟩
  rw [if_neg named, if_neg sized, statement, Prog.run_atomic_bind]
  cases works : faults .createVolume with
  | true => exact ⟨.createVolume, rfl, rfl⟩
  | false =>
    rw [if_neg Bool.false_ne_true]
    by_cases accepted : (s.createVolume (req.row id)).2 = none
    · have unchanged : (s.createVolume (req.row id)).1.agents = s.agents := by
        unfold VolumeStore.createVolume
        split
        · rfl
        · split
          · rfl
          · rfl
      exact ⟨.createVolume, by rw [accepted]; exact ⟨rfl, unchanged⟩⟩
    · obtain ⟨row, -, agents⟩ := createVolume_accepted accepted
      cases placed : faults .updateVolumeHostPath with
      | true => exact ⟨.persistHostPath, by rw [row]; exact ⟨rfl, agents⟩⟩
      | false =>
        exact absurd ⟨named, Int.not_le.mp sized, works, accepted, placed⟩ refused

/-- The status of the row behind the answer of `dispatch`. -/
def finalStatus (faults : Faults) (answer : Option VolumeResult) : VolumeStatus :=
  if answer = none ∧ faults .failStatus = false then .error else .unattached

theorem run_reload {row : Volume} (found : t.volumes.find? id = some row) :
    (reload faults row.teamID id).run t =
      (t, if faults .reload then .error .reloadVolume else .ok row) := by
  have read : t.getVolume id row.teamID = some row :=
    VolumeStore.getVolume_eq_some_iff.mpr ⟨found, rfl⟩
  unfold reload Volumes.read
  rw [Prog.run_query_bind]
  dsimp only
  rw [read]
  cases faults .reload with
  | true => rfl
  | false => rfl

/-- **What the answer leaves**: without one the row is marked, unless that fails; a result is not
looked at. -/
theorem settle_run {row : Volume} (found : t.volumes.find? id = some row)
    (free : row.status = .unattached) (answer : Option VolumeResult) :
    ((settle faults row.teamID id answer).run t).1.volumes.find? id =
        some { row with status := finalStatus faults answer } ∧
      ((settle faults row.teamID id answer).run t).1.agents = t.agents ∧
      ((settle faults row.teamID id answer).run t).2 =
        if faults .reload then .error .reloadVolume
        else .ok { row with status := finalStatus faults answer } := by
  have key : row.id = id := Table.key_of_find? found
  have same : { row with status := VolumeStatus.unattached } = row := by rw [← free]
  unfold settle
  cases answer with
  | some result =>
    have status : finalStatus faults (some result) = .unattached := if_neg fun both => nomatch both.1
    rw [if_neg nofun, status, same, run_reload found]
    exact ⟨found, rfl, rfl⟩
  | none =>
    rw [if_pos rfl, statement, Prog.run_atomic_bind]
    cases marks : faults .failStatus with
    | true =>
      have status : finalStatus faults none = .unattached :=
        if_neg fun both => Bool.false_ne_true (both.2.symm.trans marks)
      rw [if_pos rfl, status, same, run_reload found]
      exact ⟨found, rfl, rfl⟩
    | false =>
      have status : finalStatus faults none = .error := if_pos ⟨rfl, marks⟩
      have marked : (t.updateVolumeStatus id row.teamID .error).1.volumes.find? id =
          some { row with status := .error } := by
        rw [VolumeStore.updateVolumeStatus, VolumeStore.find?_updateVolume, found,
          Option.map_some, if_pos ⟨key, rfl⟩]
      rw [if_neg Bool.false_ne_true, status]
      have reads := @run_reload faults id _ _ marked
      dsimp only at reads
      rw [reads]
      exact ⟨marked, rfl, rfl⟩

/-! ## Reports -/

/-- What the agent reports of a volume it is told to make. -/
theorem success_of_report {disk : Disk} (sized : 0 < req.sizeGb) :
    (handleVolumeCreate disk requestID id (volumeHostPath id) req.sizeGb).volumeID = id ∧
      (handleVolumeCreate disk requestID id (volumeHostPath id) req.sizeGb).result.success =
        (disk.mkdirAll && disk.ensureLoopbackVolume) := by
  have path : volumeHostPath id ≠ "" := by
    unfold volumeHostPath
    intro empty
    have chars := congrArg String.toList empty
    simp at chars
  unfold handleVolumeCreate
  dsimp only
  rw [if_neg path, if_neg fun both => Int.not_le.mpr sized both.1]
  cases disk.mkdirAll <;> cases disk.ensureLoopbackVolume <;> exact ⟨rfl, rfl⟩

/-- The reports of a dispatch of the creation. -/
theorem reported_iff (fresh : Fresh requestID around s) (sized : 0 < req.sizeGb) {success : Bool}
    (agents : t.agents.reported = s.agents.reported ++
      if around.reaches then
        around.others ++ (around.report requestID (.create id (volumeHostPath id) req.sizeGb)).toList
      else []) :
    Reported success requestID id t ↔ around.success = some success := by
  unfold Reported Around.success
  rw [agents]
  cases around.reaches with
  | false =>
    refine iff_of_false ?_ nofun
    rintro ⟨r, member, own, -⟩
    rw [if_neg Bool.false_ne_true, List.append_nil] at member
    exact fresh.reported r member own
  | true =>
    rw [if_pos rfl, if_pos rfl]
    constructor
    · rintro ⟨r, member, own, -, rfl⟩
      rcases List.mem_append.mp member with old | member
      · exact absurd own (fresh.reported r old)
      rcases List.mem_append.mp member with other | member
      · exact absurd own (fresh.others r other)
      obtain ⟨disk, fares, rfl⟩ := Option.map_eq_some_iff.mp (Option.mem_toList.mp member)
      rw [fares, Option.map_some, (success_of_report sized).2]
    · intro reports
      obtain ⟨disk, fares, rfl⟩ := Option.map_eq_some_iff.mp reports
      refine ⟨handleVolumeCreate disk requestID id (volumeHostPath id) req.sizeGb, ?_, ?_,
        success_of_report sized⟩
      · refine List.mem_append_right _ (List.mem_append_right _ (Option.mem_toList.mpr ?_))
        exact Option.map_eq_some_iff.mpr ⟨disk, fares, rfl⟩
      · exact @report_requestID around requestID (.create id (volumeHostPath id) req.sizeGb) _
          (Option.map_eq_some_iff.mpr ⟨disk, fares, rfl⟩)

/-- Whether the row is marked is what `dispatch` says: no result, and the statement works. -/
theorem finalStatus_eq_error {answer : Option VolumeResult} :
    finalStatus faults answer = .error ↔ answer = none ∧ faults .failStatus = false := by
  unfold finalStatus
  split
  · next both => exact iff_of_true rfl both
  · next other => exact iff_of_false nofun other

section End

variable {last : VolumeStore AgentSide × Except VolumeError Volume} {answer : Option VolumeResult}
  {row : Volume}
  (stored : last.1.volumes.find? id = some { row with status := finalStatus faults answer })
  (result : last.2 = if faults .reload then .error .reloadVolume
    else .ok { row with status := finalStatus faults answer })
  (reported : ∀ success, Reported success requestID id last.1 ↔ around.success = some success)
  (answered : answer = none ↔ around.success = none ∨ around.inTime = false)

include stored result reported answered

theorem marked_of_settles (settles : Settles requestID id last) : Marked faults around := by
  refine ⟨fun failure => ?_, fun silence => ?_⟩
  · have marked := settles.stored ((reported false).mpr failure) _ stored
    obtain ⟨none, works⟩ := finalStatus_eq_error.mp marked
    refine ⟨(answered.mp none).resolve_left fun silence => ?_, works⟩
    rw [silence] at failure
    cases failure
  · cases reload : faults .reload with
    | true => exact .inr rfl
    | false =>
      refine .inl (Bool.eq_false_iff.mpr fun fails => ?_)
      rw [reload, if_neg Bool.false_ne_true] at result
      have free : finalStatus faults answer = .unattached :=
        if_neg fun both => Bool.false_ne_true (both.2.symm.trans fails)
      have made := (reported true).mp (settles.made _ result free)
      rw [silence] at made
      cases made

theorem settles_of_marked (marked : Marked faults around) : Settles requestID id last := by
  have inError : around.success = some false → finalStatus faults answer = .error := fun failure =>
    finalStatus_eq_error.mpr
      ⟨answered.mpr (.inr (marked.failure failure).1), (marked.failure failure).2⟩
  have returned : ∀ vol, last.2 = .ok vol → vol.status = finalStatus faults answer := by
    intro vol ok
    rw [result] at ok
    split at ok
    · cases ok
    · cases ok
      rfl
  refine ⟨fun vol ok free => (reported true).mpr ?_, fun failure vol ok => ?_,
    fun failure vol there => ?_⟩
  · rw [returned vol ok] at free
    cases reports : around.success with
    | none =>
      rcases marked.silence reports with works | unread
      · rw [finalStatus_eq_error.mpr ⟨answered.mpr (.inl reports), works⟩] at free
        cases free
      · rw [result, if_pos unread] at ok
        cases ok
    | some success =>
      cases success with
      | true => rfl
      | false =>
        rw [inError reports] at free
        cases free
  · exact (returned vol ok).trans (inError ((reported false).mp failure))
  · rw [stored] at there
    cases there
    exact inError ((reported false).mp failure)

end End

theorem settles_of_refused (fresh : Fresh requestID around s) (starts : ¬ Starts faults id req s) :
    Settles requestID id (createThen faults around requestID id req s) := by
  obtain ⟨error, result, agents⟩ := @create_refused faults around requestID id req s starts
  have silent : ∀ success, ¬ Reported success requestID id
      (createThen faults around requestID id req s).1 := by
    rintro success ⟨r, member, own, -⟩
    have unsent : (createThen faults around requestID id req s).1.agents = s.agents := by
      unfold createThen handles
      dsimp only
      rw [agents, List.drop_length, reportedAfter_nil]
      rfl
    rw [unsent] at member
    exact fresh.reported r member own
  refine ⟨fun vol ok => ?_, fun failure => absurd failure (silent false),
    fun failure => absurd failure (silent false)⟩
  cases result.symm.trans ok

/-- **A created volume exists or is in error**, just if every failure comes too late and finds the
row marked, and so does a silence; a late report may come when `Create` has returned. -/
theorem create_settles_iff (fresh : Fresh requestID around s) :
    Settles requestID id (createThen faults around requestID id req s) ↔
      (Starts faults id req s → Marked faults around) := by
  by_cases starts : Starts faults id req s
  · unfold createThen
    rw [forall_prop_of_true starts, create_run starts, Prog.run_bind]
    obtain ⟨row, agents⟩ := find?_inserted starts.accepted
    have fresh' : Fresh requestID around (inserted id req s) :=
      ⟨fresh.nonempty, fresh.others, by rw [agents]; exact fresh.reported⟩
    have dispatched := dispatch_run fresh' req.teamID req.serverID
      (.create id (volumeHostPath id) req.sizeGb)
    generalize (dispatch around requestID req.teamID req.serverID
      (.create id (volumeHostPath id) req.sizeGb)).run (inserted id req s) = run at dispatched
    have found : run.1.volumes.find? id = some (placedRow id req) := by
      rw [dispatched.volumes, row]
    have settled := @settle_run faults id _ _ found rfl run.2
    rw [show (placedRow id req).teamID = req.teamID from rfl] at settled
    obtain ⟨stored, after, result⟩ := settled
    have reported : ∀ success, Reported success requestID id (handles (around.reportedAfter requestID
        (((settle faults req.teamID id run.2).run run.1).1.agents.sent.drop s.agents.sent.length))
          ((settle faults req.teamID id run.2).run run.1).1) ↔ around.success = some success := by
      intro success
      refine reported_iff fresh' starts.sized ?_
      show AgentSide.reported (List.foldl _ _ _) = _
      rw [reported_handles, after, dispatched.sent, ← agents, List.drop_left]
      exact dispatched.reported
    -- an answer in time is that of the agent
    have answered : run.2 = none ↔ around.success = none ∨ around.inTime = false := by
      rw [dispatched.answer, Around.success, Around.report]
      cases around.reaches <;> cases around.inTime <;> cases around.disk <;> simp
    exact ⟨marked_of_settles stored result reported answered,
      settles_of_marked stored result reported answered⟩
  · exact iff_of_true (settles_of_refused fresh starts) fun started => absurd started starts

end Create

/-! ### An agent that fails -/

def firstRequest : CreateRequest :=
  { teamID := 1, clusterID := 2, serverID := 3, name := "data", sizeGb := 10 }

/-- A server that makes the volume, too late: the row is in error when the report comes. -/
theorem create_settles_made :
    Settles "r" 7 (createThen (fun _ => false) {} "r" 7 firstRequest
        { agents := ({} : AgentSide) }) ∧
      Settles "r" 7 (createThen (fun _ => false) { inTime := false, returned := true } "r" 7
        firstRequest { agents := ({} : AgentSide) }) := by
  constructor
  · refine (create_settles_iff ⟨by decide, List.forall_mem_nil _, List.forall_mem_nil _⟩).mpr ?_
    intro _
    exact ⟨fun failure => absurd failure (by decide), fun _ => .inl rfl⟩
  · refine (create_settles_iff ⟨by decide, List.forall_mem_nil _, List.forall_mem_nil _⟩).mpr ?_
    intro _
    exact ⟨fun failure => absurd failure (by decide), fun _ => .inl rfl⟩

/-- A disk that is full: the agent reports a failure, and the row is answered as free. -/
theorem create_unattached_failed :
    Reported false "r" 7 (createThen (fun _ => false)
        { disk := some { ensureLoopbackVolume := false } } "r" 7 firstRequest
          { agents := {} }).1 ∧
      (createThen (fun _ => false) { disk := some { ensureLoopbackVolume := false } } "r" 7
          firstRequest { agents := {} }).2.toOption = some (placedRow 7 firstRequest) ∧
      ¬ Settles "r" 7 (createThen (fun _ => false)
          { disk := some { ensureLoopbackVolume := false } } "r" 7 firstRequest { agents := {} }) := by
  have reported : Reported false "r" 7 (createThen (fun _ => false)
      { disk := some { ensureLoopbackVolume := false } } "r" 7 firstRequest { agents := {} }).1 :=
    ⟨⟨"r", 7, { success := false }⟩, by decide, rfl, rfl, rfl⟩
  refine ⟨reported, by decide, fun settles => ?_⟩
  have status := settles.stored reported (placedRow 7 firstRequest) (by decide)
  exact absurd status (by decide)

end Nixway.Volumes.Created
