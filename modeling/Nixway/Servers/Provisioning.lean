/-
# Servers.Provisioning -- a provisioning job and its checklist

`Start` accepts a list of components, inserts a job and lets `RunProvisioning` run beside the
request.  That run keeps a step for each component, changes the steps in place and writes the
whole list into the job's row at every transition, so that a reader never sees less than a
complete checklist.

The run is the only one that writes the row of its job: agents are never sent the command
whose output would be recorded there.  Everything else that happens in the meantime is
interference that leaves this row alone, and what the run does under it is said by `Prog.Safe`:
every list it writes is a `Checklist` of the components asked for, and when it returns, the
status of the job agrees with the list (`provisioning_truthful`).
-/
import Nixway.Store.Schema
import Nixway.Theory.Rely

namespace Nixway.Servers

open Nixway.Theory Nixway.Store
open Nixway.Theory.Prog (query exec forEach)

set_option autoImplicit false

/-! ## The tables -/

inductive StepStatus where
  | pending | running | succeeded | failed
deriving DecidableEq

/-- An entry of `provisioning_jobs.steps`. -/
structure ProvisioningStep where
  component : String
  status : StepStatus
  startedAt : Option Nat := none
  completedAt : Option Nat := none
  error : String := ""

/-- `provisioning_jobs.status`. -/
inductive JobStatus where
  | pending | running | completed | failed

structure ProvisioningJob where
  id : UUID
  serverID : UUID
  components : List String
  status : JobStatus := .pending
  logs : String := ""
  startedAt : Option Nat := none
  completedAt : Option Nat := none
  error : Option String := none
  steps : List ProvisioningStep := []

instance : Keyed ProvisioningJob UUID := ⟨ProvisioningJob.id⟩

/-- The columns of `servers` that a client is made from. -/
structure SshServer where
  id : UUID
  teamID : UUID
  hostname : String
  sshPort : Nat := 22
  sshUser : String := "root"
  arch : Option String := none

instance : Keyed SshServer UUID := ⟨SshServer.id⟩

/-- The arguments of a `RunProvisioning` that was started. -/
structure ProvisioningRun where
  jobID : UUID
  serverID : UUID
  teamID : UUID
  components : List String

/-- The tables, the lines published per channel and the runs that were started. -/
structure Yard where
  now : Nat := 0
  servers : Table SshServer := .empty
  sshKeys : List (UUID × String) := []
  jobs : Table ProvisioningJob := .empty
  published : List (String × String) := []
  started : List ProvisioningRun := []

namespace Yard

variable (w : Yard)

def getServerByID (serverID teamID : UUID) : Option SshServer :=
  (w.servers.find? serverID).filter fun srv => srv.teamID = teamID

def getSSHKeyForServer (serverID : UUID) : Option String :=
  (w.sshKeys.find? fun entry => entry.1 = serverID).map Prod.snd

/-- `CreateProvisioningJob`; the id is the one the INSERT draws. -/
def createProvisioningJob (id serverID : UUID) (components : List String) :
    Yard × Option ProvisioningJob :=
  let job : ProvisioningJob := { id, serverID, components }
  match w.jobs.insert? job with
  | some jobs => ({ w with jobs := jobs }, some job)
  | none => (w, none)

/-- `UpdateProvisioningJobStatus` overwrites all four columns. -/
def updateProvisioningJobStatus (id : UUID) (status : JobStatus)
    (startedAt completedAt : Option Nat) (error : Option String) : Yard :=
  { w with jobs := w.jobs.update id fun job => { job with status, startedAt, completedAt, error } }

def appendProvisioningLog (id : UUID) (logs : String) : Yard :=
  { w with jobs := w.jobs.update id fun job => { job with logs := job.logs ++ logs } }

def updateProvisioningJobSteps (id : UUID) (steps : List ProvisioningStep) : Yard :=
  { w with jobs := w.jobs.update id fun job => { job with steps } }

def publish (channel line : String) : Yard :=
  { w with published := w.published ++ [(channel, line)] }

variable {w}

theorem find?_updateProvisioningJobStatus (jobID : UUID) (status : JobStatus)
    (startedAt completedAt : Option Nat) (error : Option String) (id : UUID) :
    (w.updateProvisioningJobStatus jobID status startedAt completedAt error).jobs.find? id =
      if id = jobID then
        (w.jobs.find? id).map fun job => { job with status, startedAt, completedAt, error }
      else w.jobs.find? id := by
  rw [updateProvisioningJobStatus, Table.find?_update]

theorem find?_appendProvisioningLog (jobID : UUID) (logs : String) (id : UUID) :
    (w.appendProvisioningLog jobID logs).jobs.find? id =
      if id = jobID then (w.jobs.find? id).map fun job => { job with logs := job.logs ++ logs }
      else w.jobs.find? id := by
  rw [appendProvisioningLog, Table.find?_update]

theorem find?_updateProvisioningJobSteps (jobID : UUID) (steps : List ProvisioningStep) (id : UUID) :
    (w.updateProvisioningJobSteps jobID steps).jobs.find? id =
      if id = jobID then (w.jobs.find? id).map fun job => { job with steps }
      else w.jobs.find? id := by
  rw [updateProvisioningJobSteps, Table.find?_update]

end Yard

/-! ## RunProvisioning -/

/-- What happens outside of the service: the key, the client, the scripts, and what the remote
machine answers in the n-th turn of the loop. -/
structure Remote where
  decrypt : String → Except String String
  newClient : (hostname : String) → (port : Nat) → (user key : String) → Except String Unit
  script : Nat → String → Except String String
  pushAgentBinary : Nat → Option String → Except String Unit
  pushFile : Nat → (content remotePath mode : String) → Except String Unit
  runCommand : Nat → (command : String) → List String × Except String Unit

def persistSteps (jobID : UUID) (steps : List ProvisioningStep) : Prog Yard Unit :=
  exec fun w => w.updateProvisioningJobSteps jobID steps

def publishLine (channel line : String) : Prog Yard Unit := exec fun w => w.publish channel line

def failJob (jobID : UUID) (errMsg : String) : Prog Yard Unit := do
  let now ← query Yard.now
  exec fun w => w.updateProvisioningJobStatus jobID .failed none (some now) (some errMsg)

def markStepFailed (jobID : UUID) (steps : List ProvisioningStep) (idx : Nat) (errMsg : String) :
    Prog Yard Unit := do
  let completedAt ← query Yard.now
  persistSteps jobID (steps.modify idx fun step =>
    { step with status := .failed, completedAt := some completedAt, error := errMsg })

def channelOf (jobID : UUID) : String := "provision:" ++ jobID.text

def remotePathOf (component : String) : String := "/tmp/nixway-provision-" ++ component ++ ".sh"

def onOutput (jobID : UUID) (line : String) : Prog Yard Unit := do
  publishLine (channelOf jobID) line
  exec fun w => w.appendProvisioningLog jobID (line ++ "\n")

def agentBinaryLine : Except String Unit → String
  | .error err =>
    "WARN: unable to upload agent binary over SSH, falling back to tunnel download: " ++ err
  | .ok () => ">>> Uploaded agent binary over SSH"

/-- The agent's binary goes ahead of its script; without it the script downloads one. -/
def uploadBinary (remote : Remote) (jobID : UUID) (arch : Option String) (i : Nat)
    (component : String) : Prog Yard Unit :=
  if component = "agent" then
    publishLine (channelOf jobID) (agentBinaryLine (remote.pushAgentBinary i arch))
  else return

/-- The loop over the components from index `i` on. -/
def provisionFrom (remote : Remote) (jobID : UUID) (arch : Option String) (i : Nat) :
    List String → List ProvisioningStep → Prog Yard Unit
  | [], _ => do
    publishLine (channelOf jobID) ">>> Provisioning completed successfully"
    let now ← query Yard.now
    exec fun w => w.updateProvisioningJobStatus jobID .completed none (some now) none
  | component :: rest, steps =>
    match remote.script i component with
    | .error err => do
      markStepFailed jobID steps i err
      failJob jobID ("script not found for " ++ component ++ ": " ++ err)
    | .ok script => do
      uploadBinary remote jobID arch i component
      match remote.pushFile i script (remotePathOf component) "0755" with
      | .error err => do
        markStepFailed jobID steps i err
        failJob jobID ("push script for " ++ component ++ ": " ++ err)
      | .ok () => do
        let startedAt ← query Yard.now
        let steps := steps.modify i fun step =>
          { step with status := .running, startedAt := some startedAt }
        persistSteps jobID steps
        publishLine (channelOf jobID) (">>> Starting component: " ++ component)
        let (lines, ended) := remote.runCommand i ("sudo bash " ++ remotePathOf component)
        forEach lines (onOutput jobID)
        match ended with
        | .error execErr => do
          let errMsg := "component " ++ component ++ " failed: " ++ execErr
          publishLine (channelOf jobID) ("ERROR: " ++ errMsg)
          markStepFailed jobID steps i execErr
          failJob jobID errMsg
        | .ok () => do
          let completedAt ← query Yard.now
          let steps := steps.modify i fun step =>
            { step with status := .succeeded, completedAt := some completedAt }
          persistSteps jobID steps
          publishLine (channelOf jobID) (">>> Completed component: " ++ component)
          provisionFrom remote jobID arch (i + 1) rest steps

/-- The components with the agent, which is always installed. -/
def withAgent (components : List String) : List String :=
  let hasAgent := components.any fun c => c = "agent"
  if hasAgent then components else components ++ ["agent"]

def initialSteps (components : List String) : List ProvisioningStep :=
  components.map fun c => { component := c, status := .pending }

def runProvisioning (remote : Remote) (run : ProvisioningRun) : Prog Yard Unit := do
  let some srv ← query fun w => w.getServerByID run.serverID run.teamID
    | failJob run.jobID "get server: no rows in result set"
  let some sshKey ← query fun w => w.getSSHKeyForServer run.serverID
    | failJob run.jobID "get ssh key: no rows in result set"
  match remote.decrypt sshKey with
  | .error err => failJob run.jobID ("decrypt ssh key: " ++ err)
  | .ok privateKey =>
    match remote.newClient srv.hostname srv.sshPort srv.sshUser privateKey with
    | .error err => failJob run.jobID ("ssh client: " ++ err)
    | .ok () => do
      let now ← query Yard.now
      exec fun w => w.updateProvisioningJobStatus run.jobID .running (some now) none none
      let components := withAgent run.components
      persistSteps run.jobID (initialSteps components)
      provisionFrom remote run.jobID srv.arch 0 components (initialSteps components)

/-! ## Start -/

def availableComponents : List String :=
  ["docker", "traefik", "edge-lb", "nixpacks", "buildpacks", "railpack", "agent"]

def isValidComponent (name : String) : Bool := availableComponents.any fun c => c = name

/-- The status and the message of a refusal. -/
abbrev Refusal := Nat × String

/-- `Start`, once the caller and the ids of the path are accepted. -/
def start (jobID serverID teamID : UUID) (components : List String) :
    Prog Yard (Except Refusal ProvisioningJob) :=
  if components.length = 0 then return .error (400, "at least one component is required")
  else
    match components.find? fun c => !isValidComponent c with
    | some c => return .error (400, "invalid component: " ++ c)
    | none => do
      let some _ ← query fun w => w.getServerByID serverID teamID
        | return .error (404, "server not found")
      let some job ← Prog.atomic fun w => w.createProvisioningJob jobID serverID components
        | return .error (500, "failed to create provisioning job")
      exec fun w => { w with started := w.started ++ [⟨job.id, serverID, teamID, components⟩] }
      return .ok job

/-! ## The checklist -/

/-- Steps that succeeded, then at most one that is running or has failed, then steps to come. -/
def Shaped (steps : List ProvisioningStep) : Prop :=
  ∃ done current rest, steps = done ++ current ++ rest ∧
    (∀ s ∈ done, s.status = .succeeded) ∧ current.length ≤ 1 ∧
    (∀ s ∈ current, s.status = .running ∨ s.status = .failed) ∧ ∀ s ∈ rest, s.status = .pending

/-- A checklist of the components asked for, and the agent. -/
structure Checklist (components : List String) (steps : List ProvisioningStep) : Prop where
  inOrder : steps.map ProvisioningStep.component =
    components ++ if "agent" ∈ components then [] else ["agent"]
  shaped : Shaped steps

def stepsOf (w : Yard) (jobID : UUID) : Option (List ProvisioningStep) :=
  (w.jobs.find? jobID).map ProvisioningJob.steps

/-- What others do in the meantime. -/
def LeavesAlone (jobID : UUID) (w w' : Yard) : Prop := w'.jobs.find? jobID = w.jobs.find? jobID

/-- A step of the run: it touches no other job, and a list it writes is a checklist. -/
structure Persists (components : List String) (jobID : UUID) (w w' : Yard) : Prop where
  others : ∀ id, id ≠ jobID → w'.jobs.find? id = w.jobs.find? id
  list : stepsOf w' jobID = stepsOf w jobID ∨ ∃ steps ∈ stepsOf w' jobID, Checklist components steps

/-- The job is 'completed' if all steps of its list succeeded; otherwise it is 'failed', and one
step of the list has failed, or no list was written. -/
def Concluded (components : List String) (jobID : UUID) (w : Yard) : Prop :=
  ∃ job, w.jobs.find? jobID = some job ∧
    (job.steps = [] ∨ Checklist components job.steps) ∧
    (job.status = .completed ↔ job.steps ≠ [] ∧ ∀ s ∈ job.steps, s.status = .succeeded) ∧
    (job.status ≠ .completed → job.status = .failed ∧
      (job.steps = [] ∨ (job.steps.countP fun s => s.status = .failed) = 1))

/-! ## What the run knows of its row -/

section Row

variable {components : List String} {jobID : UUID} {steps : List ProvisioningStep}
  {status : JobStatus} {w w' : Yard}

/-- The list and the status in the row of the job. -/
def Known (jobID : UUID) (steps : List ProvisioningStep) (status : JobStatus) (w : Yard) : Prop :=
  (w.jobs.find? jobID).map (fun job => (job.steps, job.status)) = some (steps, status)

theorem Known.stable (known : Known jobID steps status w) (alone : LeavesAlone jobID w w') :
    Known jobID steps status w' := by
  rw [Known, alone]
  exact known

theorem Known.stepsOf (known : Known jobID steps status w) : stepsOf w jobID = some steps := by
  obtain ⟨job, found, same⟩ := Option.map_eq_some_iff.mp known
  rw [Servers.stepsOf, found, Option.map_some, (Prod.mk.inj same).1]

theorem Persists.refl (components : List String) (jobID : UUID) (w : Yard) :
    Persists components jobID w w := ⟨fun _ _ => rfl, .inl rfl⟩

theorem leavesAlone_refl (jobID : UUID) (w : Yard) : LeavesAlone jobID w w := rfl

theorem Known.update (known : Known jobID steps status w)
    {f : ProvisioningJob → ProvisioningJob}
    (rows : ∀ id, w'.jobs.find? id =
      if id = jobID then (w.jobs.find? id).map f else w.jobs.find? id)
    {steps' : List ProvisioningStep} {status' : JobStatus} (written : ∀ job : ProvisioningJob, job.steps = steps →
      job.status = status → (f job).steps = steps' ∧ (f job).status = status') :
    Known jobID steps' status' w' ∧ ∀ id, id ≠ jobID → w'.jobs.find? id = w.jobs.find? id := by
  obtain ⟨job, found, same⟩ := Option.map_eq_some_iff.mp known
  obtain ⟨ofSteps, ofStatus⟩ := Prod.mk.inj same
  constructor
  · obtain ⟨newSteps, newStatus⟩ := written job ofSteps ofStatus
    rw [Known, rows, if_pos rfl, found, Option.map_some, Option.map_some, newSteps, newStatus]
  · intro id other
    rw [rows, if_neg other]

/-- A step that writes neither a list nor a status. -/
def Quiet (jobID : UUID) (effect : Yard → Yard) : Prop :=
  ∀ w, (effect w).jobs = w.jobs ∨
    ∃ logs, (effect w).jobs = (w.appendProvisioningLog jobID logs).jobs

theorem Quiet.kept {effect : Yard → Yard} (quiet : Quiet jobID effect)
    (known : Known jobID steps status w) :
    Persists components jobID w (effect w) ∧ Known jobID steps status (effect w) := by
  obtain same | ⟨logs, appended⟩ := quiet w
  · have row : LeavesAlone jobID w (effect w) := by rw [LeavesAlone, same]
    have after := known.stable row
    exact ⟨⟨fun id _ => by rw [same], .inl (after.stepsOf.trans known.stepsOf.symm)⟩, after⟩
  · obtain ⟨after, others⟩ := known.update
      (fun id => (congrArg (Table.find? · id) appended).trans
        (Yard.find?_appendProvisioningLog jobID logs id))
      fun job ofSteps ofStatus => ⟨ofSteps, ofStatus⟩
    exact ⟨⟨others, .inl (after.stepsOf.trans known.stepsOf.symm)⟩, after⟩

/-! ## The statements -/

/-- The program keeps to its own row and writes checklists, and ends with `Q`. -/
abbrev Keeps {α : Type} (components : List String) (jobID : UUID) (Q : Yard → Prop)
    (p : Prog Yard α) (w : Yard) : Prop :=
  p.Safe (LeavesAlone jobID) (Persists components jobID) (fun _ => Q) w

theorem keeps_quiet {α : Type} {p : Prog Yard α} (every : p.Every (Quiet jobID))
    (known : Known jobID steps status w) : Keeps components jobID (Known jobID steps status) p w :=
  .of_kept (fun _ _ known => known.stable) (every.mono fun _ quiet _ => quiet.kept) known

theorem Keeps.bind {α β : Type} {Q R : Yard → Prop} {p : Prog Yard α} {f : α → Prog Yard β}
    (first : Keeps components jobID Q p w) (rest : ∀ a t, Q t → Keeps components jobID R (f a) t) :
    Keeps components jobID R (p >>= f) w :=
  Prog.Safe.bind (leavesAlone_refl jobID) first rest

theorem Keeps.read {α β : Type} {Q R : Yard → Prop} (stable : ∀ t, LeavesAlone jobID w t → Q t)
    {g : Yard → α} {f : α → Prog Yard β} (rest : ∀ a t, Q t → Keeps components jobID R (f a) t) :
    Keeps components jobID R (query g >>= f) w :=
  .bind_query (Persists.refl components jobID) fun t moved => rest _ t (stable t moved)

theorem keeps_persistSteps (known : Known jobID steps status w) {steps' : List ProvisioningStep}
    (checklist : Checklist components steps') :
    Keeps components jobID (Known jobID steps' status) (persistSteps jobID steps') w := by
  intro t moved
  obtain ⟨after, others⟩ := (known.stable moved).update
    (Yard.find?_updateProvisioningJobSteps jobID steps')
    fun _ _ ofStatus => ⟨rfl, ofStatus⟩
  exact ⟨⟨others, .inr ⟨steps', after.stepsOf, checklist⟩⟩, fun _ further => after.stable further⟩

theorem keeps_updateStatus (known : Known jobID steps status w) (status' : JobStatus)
    (startedAt completedAt : Option Nat) (error : Option String) :
    Keeps components jobID (Known jobID steps status')
      (exec fun w => w.updateProvisioningJobStatus jobID status' startedAt completedAt error) w := by
  intro t moved
  have before := known.stable moved
  obtain ⟨after, others⟩ := before.update
    (Yard.find?_updateProvisioningJobStatus jobID status' startedAt completedAt error)
    fun _ ofSteps _ => ⟨ofSteps, rfl⟩
  exact ⟨⟨others, .inl (after.stepsOf.trans before.stepsOf.symm)⟩,
    fun _ further => after.stable further⟩

theorem keeps_failJob (known : Known jobID steps status w) (errMsg : String) :
    Keeps components jobID (Known jobID steps .failed) (failJob jobID errMsg) w :=
  .read (fun _ => known.stable) fun now _ known =>
    keeps_updateStatus known .failed none (some now) (some errMsg)

theorem keeps_publishLine (known : Known jobID steps status w) (channel line : String) :
    Keeps components jobID (Known jobID steps status) (publishLine channel line) w :=
  keeps_quiet ((Prog.every_exec _).mpr fun _ => .inl rfl) known

theorem keeps_uploadBinary (known : Known jobID steps status w) (remote : Remote)
    (arch : Option String) (i : Nat) (component : String) :
    Keeps components jobID (Known jobID steps status) (uploadBinary remote jobID arch i component)
      w := by
  unfold uploadBinary
  split
  · exact keeps_publishLine known _ _
  · exact fun _ further => known.stable further

theorem keeps_output (known : Known jobID steps status w) (lines : List String) :
    Keeps components jobID (Known jobID steps status) (forEach lines (onOutput jobID)) w := by
  refine keeps_quiet (Prog.Every.forEach lines fun line _ => ?_) known
  exact Prog.Every.bind ((Prog.every_exec _).mpr fun _ => .inl rfl) fun _ =>
    (Prog.every_exec _).mpr fun _ => .inr ⟨_, rfl⟩

end Row

/-! ## The list around one step -/

section List

variable {components : List String} {done : List ProvisioningStep} {component : String}
  {rest : List String} {step : ProvisioningStep}

theorem modify_at (done : List ProvisioningStep) (step : ProvisioningStep)
    (rest : List ProvisioningStep) (f : ProvisioningStep → ProvisioningStep) :
    (done ++ step :: rest).modify done.length f = done ++ f step :: rest := by
  rw [List.modify_eq_take_cons_drop (by simp)]
  simp

/-- The steps of `components` that are done, and the components that are left. -/
structure Halfway (components : List String) (done : List ProvisioningStep) (rest : List String) :
    Prop where
  inOrder : done.map ProvisioningStep.component ++ rest =
    components ++ if "agent" ∈ components then [] else ["agent"]
  succeeded : ∀ s ∈ done, s.status = .succeeded

theorem pending_initialSteps (rest : List String) : ∀ s ∈ initialSteps rest, s.status = .pending := by
  intro s member
  obtain ⟨c, -, rfl⟩ := List.mem_map.mp member
  rfl

theorem map_initialSteps (rest : List String) :
    (initialSteps rest).map ProvisioningStep.component = rest := by
  rw [initialSteps, List.map_map]
  exact List.map_id rest

theorem Halfway.next (halfway : Halfway components done (component :: rest))
    (named : step.component = component) (succeeded : step.status = .succeeded) :
    Halfway components (done ++ [step]) rest := by
  refine ⟨?_, fun s member => ?_⟩
  · rw [← halfway.inOrder, List.map_append, List.append_assoc, List.map_singleton, named]
    rfl
  · rcases List.mem_append.mp member with old | new
    · exact halfway.succeeded s old
    · rw [List.mem_singleton.mp new, succeeded]

theorem Halfway.checklist (halfway : Halfway components done rest) :
    Checklist components (done ++ initialSteps rest) := by
  refine ⟨?_, done, [], initialSteps rest, by simp, halfway.succeeded, by simp, by simp,
    pending_initialSteps rest⟩
  rw [List.map_append, map_initialSteps, halfway.inOrder]

theorem Halfway.checklist_at (halfway : Halfway components done (component :: rest))
    (named : step.component = component) (current : step.status = .running ∨ step.status = .failed) :
    Checklist components (done ++ step :: initialSteps rest) := by
  refine ⟨?_, done, [step], initialSteps rest, by simp, halfway.succeeded, by simp, ?_,
    pending_initialSteps rest⟩
  · rw [List.map_append, List.map_cons, map_initialSteps, named, halfway.inOrder]
  · intro s member
    rwa [List.mem_singleton.mp member]

theorem Halfway.one_failed (halfway : Halfway components done rest) (failed : step.status = .failed)
    (others : List String) :
    ((done ++ step :: initialSteps others).countP fun s => s.status = .failed) = 1 := by
  have none_before : (done.countP fun s => s.status = .failed) = 0 := by
    refine List.countP_eq_zero.mpr fun s member => ?_
    simp [halfway.succeeded s member]
  have none_after : ((initialSteps others).countP fun s => s.status = .failed) = 0 := by
    refine List.countP_eq_zero.mpr fun s member => ?_
    simp [pending_initialSteps others s member]
  rw [List.countP_append, List.countP_cons, none_before, none_after]
  simp [failed]

theorem halfway_start (components : List String) : Halfway components [] (withAgent components) := by
  refine ⟨?_, fun s member => nomatch member⟩
  by_cases agent : "agent" ∈ components <;> simp [withAgent, agent]

end List

/-! ## What a run leaves -/

section Runs

variable {components : List String} {jobID : UUID} {steps : List ProvisioningStep}
  {done : List ProvisioningStep} {rest : List String} {w : Yard}

theorem Known.concluded_early (known : Known jobID [] .failed w) : Concluded components jobID w := by
  obtain ⟨job, found, same⟩ := Option.map_eq_some_iff.mp known
  obtain ⟨ofSteps, ofStatus⟩ := Prod.mk.inj same
  exact ⟨job, found, .inl ofSteps, by simp [ofSteps, ofStatus], fun _ => ⟨ofStatus, .inl ofSteps⟩⟩

theorem Known.concluded_failed (known : Known jobID steps .failed w)
    (checklist : Checklist components steps)
    (once : (steps.countP fun s => s.status = .failed) = 1) : Concluded components jobID w := by
  obtain ⟨job, found, same⟩ := Option.map_eq_some_iff.mp known
  obtain ⟨rfl, ofStatus⟩ := Prod.mk.inj same
  refine ⟨job, found, .inr checklist, ?_, fun _ => ⟨ofStatus, .inr once⟩⟩
  constructor
  · intro completed
    rw [ofStatus] at completed
    cases completed
  · rintro ⟨-, succeeded⟩
    obtain ⟨s, member, failed⟩ := List.countP_pos_iff.mp (Nat.lt_of_lt_of_eq Nat.one_pos once.symm)
    rw [succeeded s member] at failed
    cases failed

theorem Known.concluded_completed (known : Known jobID steps .completed w)
    (checklist : Checklist components steps) (nonempty : steps ≠ [])
    (succeeded : ∀ s ∈ steps, s.status = .succeeded) : Concluded components jobID w := by
  obtain ⟨job, found, same⟩ := Option.map_eq_some_iff.mp known
  obtain ⟨rfl, ofStatus⟩ := Prod.mk.inj same
  exact ⟨job, found, .inr checklist, iff_of_true ofStatus ⟨nonempty, succeeded⟩,
    fun other => absurd ofStatus other⟩

theorem Checklist.ne_nil (checklist : Checklist components steps) : steps ≠ [] := by
  rintro rfl
  have inOrder := checklist.inOrder
  by_cases agent : "agent" ∈ components
  · rw [if_pos agent, List.append_nil] at inOrder
    rw [← inOrder] at agent
    cases agent
  · rw [if_neg agent] at inOrder
    exact List.append_ne_nil_of_right_ne_nil components (List.cons_ne_nil _ _) inOrder.symm

/-- A step fails, and the job with it. -/
theorem keeps_failure {component : String} {step : ProvisioningStep}
    (halfway : Halfway components done (component :: rest)) (named : step.component = component)
    {status : JobStatus} (known : Known jobID (done ++ step :: initialSteps rest) status w)
    (err errMsg : String) :
    Keeps components jobID (Concluded components jobID)
      (do markStepFailed jobID (done ++ step :: initialSteps rest) done.length err
          failJob jobID errMsg) w := by
  unfold markStepFailed
  simp only [modify_at, bind_assoc]
  refine .read (fun _ => known.stable) fun completedAt t known => ?_
  let failed := { step with status := .failed, completedAt := some completedAt, error := err }
  have checklist : Checklist components (done ++ failed :: initialSteps rest) :=
    halfway.checklist_at named (.inr rfl)
  refine (keeps_persistSteps known checklist).bind fun _ _ known => ?_
  refine (keeps_failJob known errMsg).weaken (fun _ _ step => step) fun _ _ known => ?_
  exact known.concluded_failed checklist (halfway.one_failed rfl rest)

/-- **The loop**, from a list that is halfway. -/
theorem keeps_provisionFrom (remote : Remote) (arch : Option String)
    (halfway : Halfway components done rest) {w : Yard}
    (known : Known jobID (done ++ initialSteps rest) .running w) :
    Keeps components jobID (Concluded components jobID)
      (provisionFrom remote jobID arch done.length rest (done ++ initialSteps rest)) w := by
  induction rest generalizing done w with
  | nil =>
    rw [provisionFrom]
    refine (keeps_publishLine known _ _).bind fun _ _ known => ?_
    refine .read (fun _ => known.stable) fun now t known => ?_
    refine (keeps_updateStatus known .completed none (some now) none).weaken
      (fun _ _ step => step) fun _ _ known => ?_
    refine known.concluded_completed halfway.checklist halfway.checklist.ne_nil ?_
    simpa [initialSteps] using halfway.succeeded
  | cons component rest ih =>
    have pending : initialSteps (component :: rest) =
        { component, status := .pending } :: initialSteps rest := rfl
    rw [provisionFrom]
    rw [pending] at known ⊢
    cases remote.script done.length component with
    | error err => exact keeps_failure halfway rfl known err _
    | ok script =>
      refine (keeps_uploadBinary known remote arch done.length component).bind
        fun _ _ known => ?_
      cases remote.pushFile done.length script (remotePathOf component) "0755" with
      | error err => exact keeps_failure halfway rfl known err _
      | ok pushed =>
        refine .read (fun _ => known.stable) fun startedAt t known => ?_
        simp only [modify_at]
        refine (keeps_persistSteps known (halfway.checklist_at rfl (.inl rfl))).bind
          fun _ _ known => ?_
        refine (keeps_publishLine known _ _).bind fun _ _ known => ?_
        refine (keeps_output known _).bind fun _ _ known => ?_
        cases (remote.runCommand done.length ("sudo bash " ++ remotePathOf component)).2 with
        | error execErr =>
          refine (keeps_publishLine known _ _).bind fun _ _ known => ?_
          exact keeps_failure halfway rfl known execErr _
        | ok ended =>
          refine .read (fun _ => known.stable) fun completedAt t known => ?_
          let succeeded : ProvisioningStep :=
            { component, status := .succeeded, startedAt := some startedAt
              completedAt := some completedAt }
          have next : Halfway components (done ++ [succeeded]) rest := halfway.next rfl rfl
          have moved : done ++ succeeded :: initialSteps rest =
              (done ++ [succeeded]) ++ initialSteps rest := by simp
          have further : done.length + 1 = (done ++ [succeeded]).length := by simp
          show Keeps components jobID _ (_ >>= fun _ => _ >>= fun _ =>
            provisionFrom remote jobID arch (done.length + 1) rest
              (done ++ succeeded :: initialSteps rest)) t
          rw [moved, further]
          refine (keeps_persistSteps known next.checklist).bind fun _ _ known => ?_
          exact (keeps_publishLine known _ _).bind fun _ _ known => ih next known

/-- **The run**, from the row the handler has inserted. -/
theorem keeps_runProvisioning (remote : Remote) (run : ProvisioningRun)
    (known : Known run.jobID [] .pending w) :
    Keeps run.components run.jobID (Concluded run.components run.jobID)
      (runProvisioning remote run) w := by
  have failsEarly : ∀ t, Known run.jobID [] .pending t → ∀ errMsg,
      Keeps run.components run.jobID (Concluded run.components run.jobID)
        (failJob run.jobID errMsg) t := fun t known errMsg =>
    (keeps_failJob known errMsg).weaken (fun _ _ step => step) fun _ _ known => known.concluded_early
  unfold runProvisioning
  refine .read (fun _ => known.stable) fun srv t known => ?_
  cases srv with
  | none => exact failsEarly t known _
  | some srv =>
    refine .read (fun _ => known.stable) fun sshKey t known => ?_
    cases sshKey with
    | none => exact failsEarly t known _
    | some sshKey =>
      dsimp only
      cases remote.decrypt sshKey with
      | error err => exact failsEarly t known _
      | ok privateKey =>
        dsimp only
        cases remote.newClient srv.hostname srv.sshPort srv.sshUser privateKey with
        | error err => exact failsEarly t known _
        | ok client =>
          refine .read (fun _ => known.stable) fun now t known => ?_
          refine (keeps_updateStatus known .running (some now) none none).bind
            fun _ _ known => ?_
          have halfway := halfway_start run.components
          refine (keeps_persistSteps known halfway.checklist).bind fun _ _ known => ?_
          exact keeps_provisionFrom remote srv.arch halfway known

theorem start_accepted {jobID serverID teamID : UUID} {components : List String} {w w' : Yard}
    {job : ProvisioningJob}
    (accepted : (start jobID serverID teamID components).run w = (w', .ok job)) :
    Known job.id [] .pending w' ∧
      w'.started = w.started ++ [⟨job.id, serverID, teamID, components⟩] := by
  unfold start at accepted
  split at accepted
  · cases accepted
  · split at accepted
    · cases accepted
    · rw [Prog.run_query_bind] at accepted
      cases found : w.getServerByID serverID teamID with
      | none =>
        rw [found] at accepted
        cases accepted
      | some srv =>
        rw [found] at accepted
        simp only [Prog.run_atomic_bind, Yard.createProvisioningJob] at accepted
        cases inserted : w.jobs.insert? { id := jobID, serverID, components } with
        | none =>
          rw [inserted] at accepted
          cases accepted
        | some jobs =>
          rw [inserted] at accepted
          cases accepted
          refine ⟨?_, rfl⟩
          show (jobs.find? jobID).map _ = _
          rw [Table.find?_insert? inserted]
          exact congrArg (Option.map _) (if_pos rfl)

/-- **The checklist is truthful.**  The run that an accepted request starts, whatever the
scripts, the transfers and the remote commands come to and whatever else goes on that leaves
the row of its job alone: every list it writes is a checklist of the components asked for, and
when it returns the status of the job is what the list says. -/
theorem provisioning_truthful (remote : Remote) (jobID serverID teamID : UUID)
    (components : List String) (w w' : Yard) (job : ProvisioningJob)
    (accepted : (start jobID serverID teamID components).run w = (w', .ok job)) :
    w'.started = w.started ++ [⟨job.id, serverID, teamID, components⟩] ∧
      (runProvisioning remote ⟨job.id, serverID, teamID, components⟩).Safe (LeavesAlone job.id)
        (Persists components job.id) (fun _ => Concluded components job.id) w' := by
  obtain ⟨known, started⟩ := start_accepted accepted
  exact ⟨started, keeps_runProvisioning remote ⟨job.id, serverID, teamID, components⟩ known⟩

end Runs

section Example

/-- A machine on which everything but the traefik script works. -/
def halfBroken : Remote :=
  { decrypt := fun key => .ok key
    newClient := fun _ _ _ _ => .ok ()
    script := fun _ component => .ok ("#!/bin/bash # " ++ component)
    pushAgentBinary := fun _ _ => .error "unsupported remote architecture"
    pushFile := fun _ _ _ _ => .ok ()
    runCommand := fun _ command =>
      if command = "sudo bash /tmp/nixway-provision-traefik.sh" then
        (["pulling"], .error "Process exited with status 1")
      else (["done"], .ok ()) }

def oneServer : Yard :=
  { servers := ⟨[{ id := 71, teamID := 11, hostname := "10.0.0.1" }], by decide⟩
    sshKeys := [(71, "key")] }

/-- A request for docker and traefik, and what it leaves. -/
def requested : Yard × Except Refusal ProvisioningJob :=
  (start 1 71 11 ["docker", "traefik"]).run oneServer

theorem docker_then_traefik :
    requested.1.started = [⟨1, 71, 11, ["docker", "traefik"]⟩] ∧
      (runProvisioning halfBroken ⟨1, 71, 11, ["docker", "traefik"]⟩).Safe (LeavesAlone 1)
        (Persists ["docker", "traefik"] 1) (fun _ => Concluded ["docker", "traefik"] 1)
        requested.1 :=
  provisioning_truthful halfBroken 1 71 11 ["docker", "traefik"] oneServer requested.1
    { id := 1, serverID := 71, components := ["docker", "traefik"] } rfl

-- docker succeeded, traefik failed, and the agent was not reached
example : (stepsOf ((runProvisioning halfBroken ⟨1, 71, 11, ["docker", "traefik"]⟩).run
    requested.1).1 1).map (fun steps => steps.map fun s => (s.component, s.status)) =
      some [("docker", .succeeded), ("traefik", .failed), ("agent", .pending)] := by
  decide +kernel

end Example

end Nixway.Servers
