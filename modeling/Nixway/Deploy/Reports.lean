/-
# Deploy.Reports -- the handling of an agent's deploy reports

`handleDeployOutput` of `internal/agent/server.go`.  The messages of one agent
arrive on one stream and are handled one after the other; the handlers of
different agents run beside each other.

`Control` lists the control points of that handling and `reportFlow` is its
control-flow graph; `reportFlow_presents` says that the graph is the code.
-/
import Nixway.Deploy.Traffic
import Nixway.Theory.Pool

namespace Nixway.Deploy

open Nixway.Theory Nixway.Store
open Nixway.Theory.Prog (query exec atomic forEach)

set_option autoImplicit false

/-- A `DeployOutput` message; an id is `none` when `uuid.Parse` refuses its text. -/
structure DeployOutput where
  deployID : Option UUID
  targetID : Option UUID
  phase : String
  containerID : String := ""
  finished : Bool := false
  success : Bool := false
  error : String := ""
deriving DecidableEq

/-- `HandleDeployResult` claims the messages of a database provision. -/
def databaseClaims (out : DeployOutput) (w : World) : Bool :=
  match out.deployID with
  | some deployID => w.pendingDeploy.contains deployID
  | none => false

/-- The update of the target row: the phase is its new status. -/
def targetUpdate (out : DeployOutput) (targetID : UUID) (now : Nat) : World.TargetStatusParams :=
  { id := targetID
    status := out.phase
    containerID := if out.containerID ≠ "" then some out.containerID else none
    startedAt := if out.phase ≠ "pending" then some now else none
    healthyAt := if out.phase = "healthy" then some now else none
    error := if out.error ≠ "" then some out.error else none }

/-- After the increment: complete the deployment once enough replicas are ready. -/
def completeIfReady (deployID : UUID) (deployment : Option Deployment) : Prog World Unit := do
  match deployment with
  | none => return
  | some d =>
    if d.replicasDesired ≤ d.replicasReady then
      exec fun w => w.completeDeployment deployID .healthy none
      go (.ensureTrafficForDeployment deployID)

/-- The part of a finished message that concerns the deployment row. -/
def finishReport (out : DeployOutput) (deployID : UUID) : Prog World Unit := do
  if out.success then
    exec fun w => w.incrementReplicasReady deployID
    let deployment ← query fun w => w.getDeployment deployID
    completeIfReady deployID deployment
  else
    exec fun w => w.completeDeployment deployID .failed (some out.error)

/-- The message recorded on its target, then on the deployment if it is finished. -/
def recordReport (out : DeployOutput) (targetID : UUID) : Prog World Unit := do
  exec fun w => w.updateDeploymentTargetStatus (targetUpdate out targetID w.now)
  if out.finished then
    match out.deployID with
    | none => return
    | some deployID => finishReport out deployID

def handleDeployOutput (out : DeployOutput) : Prog World Unit := do
  let claimed ← query (databaseClaims out)
  if claimed then
    return
  match out.targetID with
  | none => return
  | some targetID => recordReport out targetID

/-- The messages of one stream. -/
def handleReports (outs : List DeployOutput) : Prog World Unit :=
  forEach outs handleDeployOutput

/-! ## Control points -/

/-- Where the handling of a stream stands; `rest` are the messages after this one. -/
inductive Control where
  | receive (outs : List DeployOutput)
  | record (out : DeployOutput) (targetID : UUID) (rest : List DeployOutput)
  | increment (deployID : UUID) (rest : List DeployOutput)
  | check (deployID : UUID) (rest : List DeployOutput)
  | complete (deployID : UUID) (rest : List DeployOutput)
  | promote (deployID : UUID) (rest : List DeployOutput)
  | fail (deployID : UUID) (error : String) (rest : List DeployOutput)

namespace Control

def code : Control → Prog World Unit
  | .receive outs => handleReports outs
  | .record out targetID rest => recordReport out targetID >>= fun _ => handleReports rest
  | .increment deployID rest =>
    (do
      exec fun w => w.incrementReplicasReady deployID
      let deployment ← query fun w => w.getDeployment deployID
      completeIfReady deployID deployment) >>= fun _ => handleReports rest
  | .check deployID rest =>
    (do
      let deployment ← query fun w => w.getDeployment deployID
      completeIfReady deployID deployment) >>= fun _ => handleReports rest
  | .complete deployID rest =>
    (do
      exec fun w => w.completeDeployment deployID .healthy none
      go (.ensureTrafficForDeployment deployID)) >>= fun _ => handleReports rest
  | .promote deployID rest =>
    go (.ensureTrafficForDeployment deployID) >>= fun _ => handleReports rest
  | .fail deployID error rest =>
    exec (fun w => w.completeDeployment deployID .failed (some error)) >>= fun _ =>
      handleReports rest

/-- The control point after the target row is written. -/
def afterRecord (out : DeployOutput) (rest : List DeployOutput) : Control :=
  if out.finished then
    match out.deployID with
    | none => .receive rest
    | some deployID =>
      if out.success then .increment deployID rest else .fail deployID out.error rest
  else .receive rest

/-- The control point after the deployment row is read back. -/
def afterCheck (deployID : UUID) (rest : List DeployOutput) (w : World) : Control :=
  match w.getDeployment deployID with
  | none => .receive rest
  | some d => if d.replicasDesired ≤ d.replicasReady then .complete deployID rest else .receive rest

/-- The control point after the database service has had first refusal. -/
def afterReceive (out : DeployOutput) (rest : List DeployOutput) (w : World) : Control :=
  if databaseClaims out w then .receive rest
  else match out.targetID with
    | none => .receive rest
    | some targetID => .record out targetID rest

def act : Control → Option ((World → World) × (World → Control))
  | .receive [] => none
  | .receive (out :: rest) => some (id, afterReceive out rest)
  | .record out targetID rest =>
    some (fun w => w.updateDeploymentTargetStatus (targetUpdate out targetID w.now),
      fun _ => afterRecord out rest)
  | .increment deployID rest =>
    some (fun w => w.incrementReplicasReady deployID, fun _ => .check deployID rest)
  | .check deployID rest => some (id, afterCheck deployID rest)
  | .complete deployID rest =>
    some (fun w => w.completeDeployment deployID .healthy none, fun _ => .promote deployID rest)
  | .promote deployID rest =>
    some (fun w => { w with started := w.started ++ [.ensureTrafficForDeployment deployID] },
      fun _ => .receive rest)
  | .fail deployID error rest =>
    some (fun w => w.completeDeployment deployID .failed (some error), fun _ => .receive rest)

end Control

/-- The handling of a stream as a control-flow graph. -/
def reportFlow : Flow World Control := ⟨Control.act⟩

theorem code_afterReceive (out : DeployOutput) (rest : List DeployOutput) (w : World) :
    (Control.afterReceive out rest w).code =
      (do
        if databaseClaims out w then
          return
        match out.targetID with
        | none => return
        | some targetID => recordReport out targetID : Prog World Unit) >>= fun _ =>
          handleReports rest := by
  unfold Control.afterReceive
  by_cases claimed : databaseClaims out w = true
  · simp [claimed, Control.code]
  · cases target : out.targetID <;> simp [claimed, Control.code]

theorem code_afterRecord (out : DeployOutput) (rest : List DeployOutput) :
    (Control.afterRecord out rest).code =
      (do
        if out.finished then
          match out.deployID with
          | none => return
          | some deployID => finishReport out deployID : Prog World Unit) >>= fun _ =>
            handleReports rest := by
  unfold Control.afterRecord
  cases out.finished with
  | false => simp [Control.code]
  | true =>
    cases out.deployID with
    | none => simp [Control.code]
    | some deployID => cases success : out.success <;> simp [Control.code, finishReport, success]

theorem code_afterCheck (deployID : UUID) (rest : List DeployOutput) (w : World) :
    (Control.afterCheck deployID rest w).code =
      completeIfReady deployID (w.getDeployment deployID) >>= fun _ => handleReports rest := by
  unfold Control.afterCheck completeIfReady
  cases w.getDeployment deployID with
  | none => rfl
  | some d => by_cases ready : d.replicasDesired ≤ d.replicasReady <;> simp [ready, Control.code]

/-- **The graph is the code.** -/
theorem reportFlow_presents : reportFlow.Presents Control.code where
  halted k here := by
    cases k with
    | receive outs =>
      cases outs with
      | nil => rfl
      | cons out rest => cases here
    | _ => cases here
  moves k effect next here := by
    cases k with
    | receive outs =>
      cases outs with
      | nil => cases here
      | cons out rest =>
        cases here
        simp only [code_afterReceive]
        rfl
    | record out targetID rest =>
      cases here
      simp only [code_afterRecord]
      rfl
    | check deployID rest =>
      cases here
      simp only [code_afterCheck]
      rfl
    | increment deployID rest => cases here; rfl
    | complete deployID rest => cases here; rfl
    | promote deployID rest => cases here; rfl
    | fail deployID error rest => cases here; rfl

end Nixway.Deploy
