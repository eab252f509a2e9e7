/-
# Deploy.Trigger -- TriggerDeploy, with statements that fail

The whole of `TriggerDeploy`: a server asked for, the schedule, and the error of each of its
statements (`TriggerFaults`).  Up to the INSERT of the deployment it only reads; `plan` is what it
has decided by then (`tryDeploy_run`).  Behind that INSERT nothing is taken back: the loop creates
a target, starts its goroutine and goes on, so an error at the next target returns with the
goroutines before it running and the row of the deployment still pending.
`failed_no_effect_iff` says that a failed call has no effect just if no INSERT of a target fails.
-/
import Nixway.Deploy.Schedule
import Nixway.Deploy.Settle
import Nixway.Deploy.Environment

namespace Nixway.Deploy

open Nixway.Theory Nixway.Store
open Nixway.Theory.Prog (query exec atomic)

set_option autoImplicit false

/-- The arguments of a call; `server` is the server asked for. -/
structure TriggerRequest where
  appID : UUID
  envID : UUID
  buildID : UUID
  server : Option UUID := none

/-- The errors of the statements of a call, where they have one; `createTarget n` is that of the
INSERT of target `n`.  The error of the closing write is dropped. -/
structure TriggerFaults where
  getApp : Option String := none
  getBuild : Option String := none
  getProject : Option String := none
  listMembers : Option String := none
  listCandidates : Option String := none
  getEnvironment : Option String := none
  createDeployment : Option String := none
  createTarget : Nat → Option String := fun _ => none
  closing : Bool := false

/-- A statement that fails or answers. -/
def answered {α : Type} (fault : Option String) (what : String) (a : α) : Except String α :=
  match fault with
  | some err => .error (what ++ ": " ++ err)
  | none => .ok a

/-- A statement for one row. -/
def oneRow {α : Type} (fault : Option String) (what : String) (a : Option α) : Except String α :=
  match fault, a with
  | some err, _ => .error (what ++ ": " ++ err)
  | none, none => .error (what ++ ": no rows in result set")
  | none, some a => .ok a

/-- `targetForSpecificServer`. -/
def targetForSpecificServer (serverID : UUID) (members : List ClusterMember) :
    Except String ScheduledTarget :=
  match members.find? fun member => member.serverID = serverID with
  | some member =>
    .ok { member := member, reason := "manual server target selected " ++ member.serverName }
  | none => .error "server not found in cluster"

/-- The targets of a call: the server asked for, or what the schedule chooses. -/
def chooseTargets (faults : TriggerFaults) (cluster : Cluster) (req : TriggerRequest) (app : App) :
    Except String (List ScheduledTarget) :=
  match req.server with
  | some serverID => (targetForSpecificServer serverID cluster.members).map fun target => [target]
  | none =>
    match answered faults.listCandidates "load scheduler candidates" cluster.candidates with
    | .error err => .error err
    | .ok candidates => scheduleTargets app ⟨cluster.members, candidates⟩

def launchOf (draw : Draw) (req : TriggerRequest) (app : App) (build : Build) (project : Project)
    (targets : List ScheduledTarget) : Launch :=
  { deploymentID := draw.deploymentID
    environmentID := req.envID
    build := build
    app := app
    project := project
    env := draw.env
    targets := targets.zipIdx.map fun target => (draw.targetIDs target.2, target.1) }

/-! ## The loop -/

/-- `CreateDeploymentTarget`. -/
def createTarget (fault : Option String) (targetID deploymentID serverID : UUID) (w : World) :
    World × Except String DeploymentTarget :=
  match fault with
  | some err => (w, .error err)
  | none =>
    match w.createDeploymentTarget targetID deploymentID serverID with
    | (w', some target) => (w', .ok target)
    | (w', none) => (w', .error "constraint violation")

/-- The closing status write, whose error is dropped. -/
def tryClose (faults : TriggerFaults) (deployment : Deployment) :
    Prog World (Except String Deployment) :=
  if faults.closing then return .ok deployment else closeLaunch deployment

def tryTargets (faults : TriggerFaults) (launch : Launch) (deployment : Deployment) :
    Nat → List (UUID × ScheduledTarget) → Prog World (Except String Deployment)
  | _, [] => tryClose faults deployment
  | n, (targetID, scheduled) :: rest => do
    match ← atomic (createTarget (faults.createTarget n) targetID deployment.id
        scheduled.member.serverID) with
    | .error err => return .error ("create target: " ++ err)
    | .ok target =>
      go (.dispatchDeploy deployment target launch.build launch.app launch.project
        scheduled.member)
      tryTargets faults launch deployment (n + 1) rest

/-- `CreateDeployment`. -/
def tryCreate (faults : TriggerFaults) (launch : Launch) (w : World) :
    World × Except String Deployment :=
  match faults.createDeployment with
  | some err => (w, .error err)
  | none =>
    match createLaunched launch w with
    | (w', some deployment) => (w', .ok deployment)
    | (w', none) => (w', .error "constraint violation")

def tryLaunch (faults : TriggerFaults) (launch : Launch) :
    Prog World (Except String Deployment) := do
  match ← atomic (tryCreate faults launch) with
  | .error err => return .error ("create deployment: " ++ err)
  | .ok deployment => tryTargets faults launch deployment 0 launch.targets

/-! ## The call -/

section Call

variable (faults : TriggerFaults) (cluster : World → UUID → Cluster) (draw : Draw)
  (req : TriggerRequest)

def tryDeploy : Prog World (Except String Deployment) := do
  match ← query fun w => oneRow faults.getApp "get app" (w.getApp req.appID) with
  | .error err => return .error err
  | .ok app =>
  match ← query fun w => oneRow faults.getBuild "get build" (w.getBuild req.buildID) with
  | .error err => return .error err
  | .ok build =>
  match ← query fun w => oneRow faults.getProject "get project" (w.getProject app.projectID) with
  | .error err => return .error err
  | .ok project =>
  match ← query fun w => answered faults.listMembers "list cluster members"
      (cluster w project.clusterID) with
  | .error err => return .error err
  | .ok listed =>
  if listed.members = [] then
    return .error "no servers available in cluster"
  match chooseTargets faults listed req app with
  | .error err => return .error err
  | .ok targets =>
  match ← query fun w => oneRow faults.getEnvironment "get environment"
      (w.environments.find? req.envID) with
  | .error err => return .error err
  | .ok _ => tryLaunch faults (launchOf draw req app build project targets)

/-- What the call has decided when it inserts the deployment. -/
def plan (w : World) : Except String Launch :=
  match oneRow faults.getApp "get app" (w.getApp req.appID) with
  | .error err => .error err
  | .ok app =>
  match oneRow faults.getBuild "get build" (w.getBuild req.buildID) with
  | .error err => .error err
  | .ok build =>
  match oneRow faults.getProject "get project" (w.getProject app.projectID) with
  | .error err => .error err
  | .ok project =>
  match answered faults.listMembers "list cluster members" (cluster w project.clusterID) with
  | .error err => .error err
  | .ok listed =>
  if listed.members = [] then .error "no servers available in cluster" else
  match chooseTargets faults listed req app with
  | .error err => .error err
  | .ok targets =>
  match oneRow faults.getEnvironment "get environment" (w.environments.find? req.envID) with
  | .error err => .error err
  | .ok _ => .ok (launchOf draw req app build project targets)

/-- **Before the INSERT the call only reads.** -/
theorem tryDeploy_run (w : World) :
    (tryDeploy faults cluster draw req).run w =
      match plan faults cluster draw req w with
      | .error err => (w, .error err)
      | .ok launch => (tryLaunch faults launch).run w := by
  unfold tryDeploy plan
  rw [Prog.run_query_bind]
  cases oneRow faults.getApp "get app" (w.getApp req.appID) with
  | error err => rfl
  | ok app =>
  dsimp only
  rw [Prog.run_query_bind]
  cases oneRow faults.getBuild "get build" (w.getBuild req.buildID) with
  | error err => rfl
  | ok build =>
  dsimp only
  rw [Prog.run_query_bind]
  cases oneRow faults.getProject "get project" (w.getProject app.projectID) with
  | error err => rfl
  | ok project =>
  dsimp only
  rw [Prog.run_query_bind]
  cases answered faults.listMembers "list cluster members" (cluster w project.clusterID) with
  | error err => rfl
  | ok listed =>
  dsimp only
  by_cases empty : listed.members = []
  · rw [if_pos empty, if_pos empty]
    rfl
  · rw [if_neg empty, if_neg empty]
    cases chooseTargets faults listed req app with
    | error err => rfl
    | ok targets =>
    dsimp only
    rw [Prog.run_query_bind]
    cases oneRow faults.getEnvironment "get environment" (w.environments.find? req.envID) with
    | error err => rfl
    | ok _ => rfl

end Call

/-! ### With a store that works -/

/-! ## No effect -/

def dispatchThreads (dns : DnsConfig) (before after : World) : List (Prog World Unit) :=
  (after.started.drop before.started.length).flatMap fun
    | .dispatchDeploy deployment target build app project member =>
      [dispatchDeploy dns deployment target build app project member]
    | _ => []

/-- Nothing comes of the call: whatever its goroutines do, no deploy command of its deployment is
sent, and it leaves no row of a deployment that is not terminal. -/
structure NoEffect (dns : DnsConfig) (deployID : UUID) (before after : World) : Prop where
  commands : ∀ schedule, ∀ cmd ∈ commandsOf
    (((Pool.mk after (dispatchThreads dns before after)).run Pool.noSpawn schedule).store.sent.drop
      before.sent.length), cmd.deployID ≠ deployID
  rows : ∀ d ∈ after.deployments.rows, d ∈ before.deployments.rows ∨ SettledDeployment d.status

/-- The targets can be inserted one after the other, each by a statement that does not fail. -/
def insertable (faults : TriggerFaults) (deploymentID : UUID) :
    Nat → List (UUID × ScheduledTarget) → World → Bool
  | _, [], _ => true
  | n, (targetID, scheduled) :: rest, w =>
    match createTarget (faults.createTarget n) targetID deploymentID scheduled.member.serverID w with
    | (_, .error _) => false
    | (w', .ok _) => insertable faults deploymentID (n + 1) rest w'

/-- Should the call get as far as to insert the deployment, it can insert all its targets. -/
def TargetsInsertable (faults : TriggerFaults) (cluster : World → UUID → Cluster) (draw : Draw)
    (req : TriggerRequest) (w : World) : Prop :=
  ∀ launch w' deployment, plan faults cluster draw req w = .ok launch →
    faults.createDeployment = none → createLaunched launch w = (w', some deployment) →
      insertable faults deployment.id 0 launch.targets w' = true

theorem NoEffect.refl (dns : DnsConfig) (deployID : UUID) (w : World) :
    NoEffect dns deployID w w := by
  have idle : ∀ schedule, (Pool.mk w []).run Pool.noSpawn schedule = ⟨w, []⟩ := by
    intro schedule
    induction schedule with
    | nil => rfl
    | cons i schedule ih => exact ih
  refine ⟨fun schedule cmd mem => ?_, fun d mem => .inl mem⟩
  have none : dispatchThreads dns w w = [] := by rw [dispatchThreads, List.drop_length]; rfl
  rw [none, idle, List.drop_length] at mem
  cases mem

theorem createDeploymentTarget_started (targetID deploymentID serverID : UUID) (w : World)
    (started : List Goroutine) :
    { w with started := started }.createDeploymentTarget targetID deploymentID serverID =
      ({ (w.createDeploymentTarget targetID deploymentID serverID).1 with started := started },
        (w.createDeploymentTarget targetID deploymentID serverID).2) := by
  unfold World.createDeploymentTarget
  dsimp only
  split
  · rfl
  · cases w.targets.insert? { id := targetID, deploymentID := deploymentID, serverID := serverID } <;>
      rfl

theorem createTarget_started (fault : Option String) (targetID deploymentID serverID : UUID)
    (w : World) (started : List Goroutine) :
    createTarget fault targetID deploymentID serverID { w with started := started } =
      ({ (createTarget fault targetID deploymentID serverID w).1 with started := started },
        (createTarget fault targetID deploymentID serverID w).2) := by
  cases fault with
  | some err => rfl
  | none =>
    unfold createTarget
    rw [createDeploymentTarget_started]
    dsimp only
    cases w.createDeploymentTarget targetID deploymentID serverID with
    | mk w' answer => cases answer <;> rfl

theorem createTarget_deployments (fault : Option String) (targetID deploymentID serverID : UUID)
    (w : World) :
    (createTarget fault targetID deploymentID serverID w).1.deployments = w.deployments := by
  cases fault with
  | some err => rfl
  | none =>
    have kept : (w.createDeploymentTarget targetID deploymentID serverID).1.deployments =
        w.deployments := by
      unfold World.createDeploymentTarget
      dsimp only
      split
      · rfl
      · split <;> rfl
    unfold createTarget
    cases created : w.createDeploymentTarget targetID deploymentID serverID with
    | mk w' answer =>
      rw [created] at kept
      cases answer <;> exact kept

/-- **What the loop does**: it answers with the deployment just if all the targets can be
inserted, and an error leaves the row of the deployment as it is. -/
theorem tryTargets_spec (faults : TriggerFaults) (launch : Launch) (deployment : Deployment)
    (n : Nat) (targets : List (UUID × ScheduledTarget)) (w : World) (started : List Goroutine) :
    (insertable faults deployment.id n targets w = true ∧
        ((tryTargets faults launch deployment n targets).run { w with started := started }).2 =
          .ok deployment) ∨
      insertable faults deployment.id n targets w = false ∧
        (∃ err, ((tryTargets faults launch deployment n targets).run
          { w with started := started }).2 = .error err) ∧
        ((tryTargets faults launch deployment n targets).run
          { w with started := started }).1.deployments = w.deployments := by
  induction targets generalizing n w started with
  | nil =>
    refine .inl ⟨rfl, ?_⟩
    unfold tryTargets tryClose
    split <;> rfl
  | cons entry rest ih =>
    obtain ⟨targetID, scheduled⟩ := entry
    unfold tryTargets insertable
    rw [Prog.run_atomic_bind, createTarget_started _ _ _ _ w started]
    have kept := createTarget_deployments (faults.createTarget n) targetID deployment.id
      scheduled.member.serverID w
    cases created : createTarget (faults.createTarget n) targetID deployment.id
        scheduled.member.serverID w with
    | mk w' answer =>
      rw [created] at kept
      cases answer with
      | error err => exact .inr ⟨rfl, ⟨_, rfl⟩, kept⟩
      | ok target =>
        obtain done | ⟨stuck, failed, same⟩ := ih (n + 1) w' (started ++
          [.dispatchDeploy deployment target launch.build launch.app launch.project
            scheduled.member])
        · exact .inl done
        · exact .inr ⟨stuck, failed, same.trans kept⟩

theorem createLaunched_row {launch : Launch} {w w' : World} {deployment : Deployment}
    (created : createLaunched launch w = (w', some deployment)) :
    deployment ∈ w'.deployments.rows ∧ deployment ∉ w.deployments.rows ∧
      ¬ SettledDeployment deployment.status := by
  unfold createLaunched World.createDeployment at created
  dsimp only at created
  cases inserted : w.deployments.insert? _ with
  | none =>
    rw [inserted] at created
    cases created
  | some deployments =>
    rw [inserted] at created
    cases created
    obtain ⟨fresh, rows⟩ := Table.insert?_eq_some_iff.mp inserted
    refine ⟨?_, fun old => fresh _ old rfl, (by decide : ¬ SettledDeployment .pending)⟩
    show _ ∈ deployments.rows
    rw [rows]
    exact List.mem_cons_self

theorem createLaunched_none {launch : Launch} {w w' : World}
    (refused : createLaunched launch w = (w', none)) : w' = w := by
  unfold createLaunched World.createDeployment at refused
  dsimp only at refused
  cases inserted : w.deployments.insert? _ with
  | none =>
    rw [inserted] at refused
    cases refused
    rfl
  | some deployments =>
    rw [inserted] at refused
    cases refused

/-- **When a failed call has no effect**: if no INSERT of a target fails. -/
theorem failed_no_effect_iff (dns : DnsConfig) (faults : TriggerFaults)
    (cluster : World → UUID → Cluster) (draw : Draw) (req : TriggerRequest) (w : World) :
    ((∃ err, ((tryDeploy faults cluster draw req).run w).2 = .error err) →
        NoEffect dns draw.deploymentID w ((tryDeploy faults cluster draw req).run w).1) ↔
      TargetsInsertable faults cluster draw req w := by
  rw [tryDeploy_run]
  cases planned : plan faults cluster draw req w with
  | error err =>
    refine iff_of_true (fun _ => NoEffect.refl dns _ w) fun launch w' deployment same => ?_
    rw [planned] at same
    cases same
  | ok launch =>
    dsimp only
    unfold tryLaunch
    rw [Prog.run_atomic_bind]
    unfold tryCreate
    cases broken : faults.createDeployment with
    | some err =>
      refine iff_of_true (fun _ => NoEffect.refl dns _ w) fun _ _ _ _ working => ?_
      rw [broken] at working
      cases working
    | none =>
      dsimp only
      cases created : createLaunched launch w with
      | mk w' answer =>
        cases answer with
        | none =>
          obtain rfl := createLaunched_none created
          refine iff_of_true (fun _ => NoEffect.refl dns _ w')
            fun launch' v deployment same _ there => ?_
          cases planned.symm.trans same
          cases created.symm.trans there
        | some deployment =>
          obtain ⟨inside, fresh, pending⟩ := createLaunched_row created
          dsimp only
          obtain ⟨fine, answered⟩ | ⟨stuck, failed, same⟩ :=
            tryTargets_spec faults launch deployment 0 launch.targets w' w'.started
          · refine iff_of_true ?_ fun launch' v d same _ there => ?_
            · rintro ⟨err, failed⟩
              cases answered.symm.trans failed
            · cases planned.symm.trans same
              cases created.symm.trans there
              exact fine
          · refine iff_of_false (fun none => ?_) fun all => ?_
            · have left := (none failed).rows deployment (by rw [same]; exact inside)
              exact left.elim fresh pending
            · have fine := all launch w' deployment planned broken created
              rw [stuck] at fine
              cases fine

/-! ### The second target cannot be inserted -/

/-- An app with two replicas in a cluster of two servers whose agents are connected. -/
def twoReady : World :=
  { twoAgents with
    apps := ⟨[{ id := 20, projectID := 10, name := "web", slug := "web", replicas := 2 }], by decide⟩
    environments := .single { id := 40, projectID := 10, name := "Production", slug := "production" } }

def twoReadyCluster : World → UUID → Cluster := fun _ _ =>
  { members := [{ serverID := 71, serverName := "a" }, { serverID := 72, serverName := "b" }]
    candidates := [{ serverID := 71, serverName := "a" }, { serverID := 72, serverName := "b" }] }

def twoReadyDraw : Draw := { deploymentID := 1, targetIDs := fun n => 81 + BitVec.ofNat 128 n }

/-- The store loses the connection at the second INSERT of a target. -/
def secondFails : TriggerFaults :=
  { createTarget := fun n => if n = 1 then some "connection reset" else none }

def secondFailed : World × Except String Deployment :=
  (tryDeploy secondFails twoReadyCluster twoReadyDraw ⟨20, 40, 30, none⟩).run twoReady

/-- The call returns an error, and the first goroutine sends its command. -/
theorem failed_after_first_target :
    secondFailed.2 = .error "create target: connection reset" ∧
      ¬ NoEffect {} 1 twoReady secondFailed.1 := by
  refine ⟨by decide +kernel, fun nothing => ?_⟩
  have sent : ∃ cmd ∈ commandsOf (((Pool.mk secondFailed.1 (dispatchThreads {} twoReady
      secondFailed.1)).run Pool.noSpawn (List.replicate 20 0)).store.sent.drop
        twoReady.sent.length), cmd.deployID = 1 := by
    decide +kernel
  obtain ⟨cmd, mem, own⟩ := sent
  exact nothing.commands _ cmd mem own

end Nixway.Deploy
