/-
# Deploy.Schedule -- where the replicas of a deploy go

`internal/scheduler/scheduler.go` and the part of `TriggerDeploy` that calls it.
`Schedule` refuses a count that is not positive, drops the servers that do not match,
and gives one replica each to the first of the rest, in the order of the strategy.

`schedule_isOk_iff` says when it does not fail: the count is positive, the strategy is a
known one and there are at least as many matching servers as replicas.  Nothing else of
the app's row is read for the decision.

What the two listings of the cluster answer is an argument (`Cluster`).
-/
import Nixway.Deploy.Dispatch
import Mathlib.Data.List.Dedup

namespace Nixway.Deploy

open Nixway.Theory Nixway.Store
open Nixway.Theory.Prog (query exec atomic)

set_option autoImplicit false

namespace Scheduler

structure Candidate where
  serverID : UUID
  serverName : String := ""
  status : String := "online"
  tags : List (String × String) := []
  runningReplicas : Int32 := 0
  cpuCapacity : Int32 := 0
  memoryAvailable : Int := 0
  hasCPUData : Bool := false
  hasMemoryData : Bool := false

structure Requirements where
  replicas : Int32
  strategy : String
  pinnedServerIDs : List UUID := []
  constraints : Constraints := {}
  memoryLimitMB : Int := 0
  cpuLimitMillicores : Int := 0

structure Assignment where
  serverID : UUID
  serverName : String
  replicas : Int32
  reason : String
deriving DecidableEq

/-! ## Matching servers -/

/-- `tags[key]`: a missing key reads as the empty text. -/
def tagValue (tags : List (String × String)) (key : String) : String :=
  ((tags.find? fun tag => tag.1 = key).map Prod.snd).getD ""

def matchesConstraints (tags : List (String × String)) (constraints : Constraints) : Bool :=
  (constraints.mustHave.all fun entry => tagValue tags entry.1 = entry.2) &&
    constraints.mustNotHave.all fun entry => tagValue tags entry.1 ≠ entry.2

/-- The blank strategy is 'spread'. -/
def Requirements.effective (req : Requirements) : String :=
  if req.strategy = "" then "spread" else req.strategy

/-- Why a server is left out, if it is. -/
def rejection (req : Requirements) (candidate : Candidate) : Option String :=
  if candidate.status ≠ "online" then some "offline"
  else if req.effective = "pinned" ∧ candidate.serverID ∉ req.pinnedServerIDs then
    some "not pinned"
  else if !matchesConstraints candidate.tags req.constraints then some "tag constraints"
  else if 0 < req.memoryLimitMB ∧ candidate.hasMemoryData = true ∧
      candidate.memoryAvailable < req.memoryLimitMB * 1024 * 1024 then
    some "memory"
  else if 0 < req.cpuLimitMillicores ∧ candidate.hasCPUData = true ∧
      candidate.cpuCapacity.toInt < req.cpuLimitMillicores then
    some "cpu"
  else none

def eligible (req : Requirements) (candidates : List Candidate) : List Candidate :=
  candidates.filter fun candidate => (rejection req candidate).isNone

def rejectionSummary (reasons : List String) : String :=
  if reasons = [] then "no rejection details"
  else
    let keys := reasons.dedup.insertionSort (· ≤ ·)
    ", ".intercalate (keys.map fun key => key ++ "=" ++ toString (reasons.count key))

/-! ## The order of a strategy -/

/-- `sort.SliceStable`: what does not come before what stands ahead of it stays there. -/
def sliceStable (less : Candidate → Candidate → Bool) (candidates : List Candidate) :
    List Candidate :=
  candidates.insertionSort fun a b => !less b a

def spreadLess (a b : Candidate) : Bool :=
  if a.runningReplicas = b.runningReplicas then a.serverName < b.serverName
  else a.runningReplicas < b.runningReplicas

def binpackLess (a b : Candidate) : Bool :=
  if a.runningReplicas = b.runningReplicas then a.serverName < b.serverName
  else b.runningReplicas < a.runningReplicas

/-- `order[id]`: the last position of the id, zero if it has none. -/
def pinnedOrder (ids : List UUID) (id : UUID) : Nat :=
  ids.zipIdx.foldl (fun order entry => if entry.1 = id then entry.2 else order) 0

def pinnedLess (ids : List UUID) (a b : Candidate) : Bool :=
  pinnedOrder ids a.serverID < pinnedOrder ids b.serverID

/-- The servers in the order of the strategy; no order for an unknown one. -/
def ordered (req : Requirements) (candidates : List Candidate) : Option (List Candidate) :=
  match PlacementStrategy.ofText req.effective with
  | some .spread => some (sliceStable spreadLess candidates)
  | some .binpack => some (sliceStable binpackLess candidates)
  | some .pinned => some (sliceStable (pinnedLess req.pinnedServerIDs) candidates)
  | none => none

def reasonFor (strategy : String) (candidate : Candidate) : String :=
  if strategy = "binpack" then
    "binpack selected " ++ candidate.serverName ++ " with " ++ toString candidate.runningReplicas ++
      " running replicas"
  else if strategy = "pinned" then "pinned placement selected " ++ candidate.serverName
  else
    "spread selected " ++ candidate.serverName ++ " with " ++ toString candidate.runningReplicas ++
      " running replicas"

/-! ## Schedule -/

def assignment (req : Requirements) (candidate : Candidate) : Assignment :=
  { serverID := candidate.serverID
    serverName := candidate.serverName
    replicas := 1
    reason := reasonFor req.effective candidate }

def schedule (req : Requirements) (candidates : List Candidate) :
    Except String (List Assignment) :=
  if req.replicas ≤ 0 then .error "replicas must be greater than zero"
  else
    let able := eligible req candidates
    let reasons := candidates.filterMap (rejection req)
    if able = [] then
      .error ("no eligible servers match placement strategy \"" ++ req.effective ++ "\": " ++
        rejectionSummary reasons)
    else if (able.length : Int) < req.replicas.toInt then
      .error ("insufficient eligible servers: need " ++ toString req.replicas ++ ", have " ++
        toString able.length ++ " (" ++ rejectionSummary reasons ++ ")")
    else
      match ordered req able with
      | none => .error ("unknown placement strategy \"" ++ req.effective ++ "\"")
      | some able => .ok ((able.take req.replicas.toInt.toNat).map (assignment req))

theorem length_ordered {req : Requirements} {candidates sorted : List Candidate}
    (found : ordered req candidates = some sorted) : sorted.length = candidates.length := by
  unfold ordered at found
  split at found <;> cases found <;> exact List.length_insertionSort _ _

theorem ordered_isSome_iff (req : Requirements) (candidates : List Candidate) :
    (ordered req candidates).isSome ↔ (PlacementStrategy.ofText req.effective).isSome := by
  unfold ordered
  split <;> simp_all

/-- A replica count is positive as a 32-bit integer when it is as an integer. -/
theorem replicas_pos_iff (n : Int32) : ¬ n ≤ 0 ↔ 0 < n.toInt := by
  rw [Int32.le_iff_toInt_le, Int32.toInt_zero, Int.not_le]

/-- **When a deploy is placed.**  The count is positive, the strategy is known and the
matching servers suffice. -/
theorem schedule_isOk_iff (req : Requirements) (candidates : List Candidate) :
    (∃ assignments, schedule req candidates = .ok assignments) ↔
      0 < req.replicas.toInt ∧ req.replicas.toInt ≤ (eligible req candidates).length ∧
        (PlacementStrategy.ofText req.effective).isSome := by
  rw [← ordered_isSome_iff req (eligible req candidates), ← replicas_pos_iff]
  unfold schedule
  dsimp only
  split
  · next refused => simp [refused]
  · next positive =>
    have count := (replicas_pos_iff req.replicas).mp positive
    split
    · next none_left =>
      rw [none_left]
      constructor
      · rintro ⟨assignments, failed⟩
        cases failed
      · rintro ⟨-, enough, -⟩
        simp only [List.length_nil] at enough
        omega
    · split
      · next few =>
        constructor
        · rintro ⟨assignments, failed⟩
          cases failed
        · rintro ⟨-, enough, -⟩
          omega
      · next enough =>
        have enough := Int.not_lt.mp enough
        cases ordered req (eligible req candidates) with
        | none => simp
        | some able => simp [positive, enough]

theorem length_schedule {req : Requirements} {candidates : List Candidate}
    {assignments : List Assignment} (placed : schedule req candidates = .ok assignments) :
    (assignments.length : Int) = req.replicas.toInt := by
  have holds := (schedule_isOk_iff req candidates).mp ⟨assignments, placed⟩
  unfold schedule at placed
  dsimp only at placed
  split at placed
  · cases placed
  · split at placed
    · cases placed
    · split at placed
      · cases placed
      · split at placed
        · cases placed
        · next able found =>
          cases placed
          have length := length_ordered found
          simp only [List.length_map, List.length_take]
          omega

end Scheduler

/-! ## TriggerDeploy -/

/-- What `ListClusterMembers`, `ListClusterMembersForScheduling` and the tags of each server
answer. -/
structure Cluster where
  members : List ClusterMember
  candidates : List Scheduler.Candidate

/-- What `Schedule` is asked for an app. -/
def requirements (app : App) : Scheduler.Requirements :=
  { replicas := app.replicas
    strategy := app.placementStrategy.text
    pinnedServerIDs := app.pinnedServerIDs
    constraints := app.placementConstraints
    memoryLimitMB := app.memoryLimitMb
    cpuLimitMillicores := app.cpuLimitMillicores }

/-- A later member of the same server replaces an earlier one. -/
def memberByServer (members : List ClusterMember) (serverID : UUID) : Option ClusterMember :=
  members.reverse.find? fun member => member.serverID = serverID

/-- The member of an assignment, with the reason it was chosen. -/
def scheduledTarget (members : List ClusterMember) (assignment : Scheduler.Assignment) :
    Except String ScheduledTarget :=
  match memberByServer members assignment.serverID with
  | none => .error ("scheduled server " ++ assignment.serverID.text ++ " is not a cluster member")
  | some member => .ok { member := member, reason := assignment.reason }

def scheduleTargets (app : App) (cluster : Cluster) : Except String (List ScheduledTarget) := do
  let assignments ← Scheduler.schedule (requirements app) cluster.candidates
  assignments.mapM (scheduledTarget cluster.members)

/-- What a deploy draws or resolves beside the rows: the ids of its INSERTs, and the
environment map. -/
structure Draw where
  deploymentID : UUID
  targetIDs : Nat → UUID
  env : EnvMap := []

namespace Service

/-- `TriggerDeploy` without a server asked for. -/
def triggerDeploy (cluster : World → UUID → Cluster) (draw : Draw) (appID envID buildID : UUID) :
    Prog World (Except String Deployment) := do
  let some app ← query fun w => w.getApp appID
    | return .error "get app"
  let some build ← query fun w => w.getBuild buildID
    | return .error "get build"
  let some project ← query fun w => w.getProject app.projectID
    | return .error "get project"
  let cluster ← query fun w => cluster w project.clusterID
  if cluster.members = [] then
    return .error "no servers available in cluster"
  match scheduleTargets app cluster with
  | .error err => return .error err
  | .ok targets =>
    let some _ ← query fun w => w.environments.find? envID
      | return .error "get environment"
    launchDeploy
      { deploymentID := draw.deploymentID
        environmentID := envID
        build := build
        app := app
        project := project
        env := draw.env
        targets := targets.zipIdx.map fun target => (draw.targetIDs target.2, target.1) }

end Service

section Rows

variable {P : (World → World) → Prop}

theorem launchDeploy_every (launch : Launch) (untouched : ∀ effect : World → World,
    (∀ w, (effect w).apps = w.apps) → P effect) : (launchDeploy launch).Every P := by
  have targets : ∀ (deployment : Deployment) (todo : List (UUID × ScheduledTarget)),
      (launchTargets launch deployment todo).Every P := by
    intro deployment todo
    induction todo with
    | nil =>
      refine Prog.Every.bind ((Prog.every_exec _).mpr (untouched _ fun w => rfl)) fun _ => ?_
      trivial
    | cons entry rest ih =>
      refine Prog.Every.bind ((Prog.every_atomic _).mpr (untouched _ fun w => ?_)) fun target => ?_
      · unfold World.createDeploymentTarget
        dsimp only
        split
        · rfl
        · split <;> rfl
      · cases target with
        | none => trivial
        | some target =>
          refine Prog.Every.bind ((Prog.every_exec _).mpr (untouched _ fun w => rfl)) fun _ => ?_
          exact ih
  refine Prog.Every.bind ((Prog.every_atomic _).mpr (untouched _ fun w => ?_)) fun deployment => ?_
  · unfold createLaunched World.createDeployment
    dsimp only
    cases w.deployments.insert? _ <;> rfl
  · cases deployment with
    | none => trivial
    | some deployment => exact targets deployment launch.targets

theorem Service.triggerDeploy_every (cluster : World → UUID → Cluster) (draw : Draw)
    (appID envID buildID : UUID)
    (untouched : ∀ effect : World → World, (∀ w, (effect w).apps = w.apps) → P effect) :
    (Service.triggerDeploy cluster draw appID envID buildID).Every P := by
  have reads : P id := untouched id fun w => rfl
  refine Prog.Every.bind ((Prog.every_query _).mpr reads) fun app => ?_
  cases app with
  | none => trivial
  | some app =>
    refine Prog.Every.bind ((Prog.every_query _).mpr reads) fun build => ?_
    cases build with
    | none => trivial
    | some build =>
      refine Prog.Every.bind ((Prog.every_query _).mpr reads) fun project => ?_
      cases project with
      | none => trivial
      | some project =>
        refine Prog.Every.bind ((Prog.every_query _).mpr reads) fun cluster => ?_
        split
        · trivial
        · split
          · trivial
          · refine Prog.Every.bind ((Prog.every_query _).mpr reads) fun env => ?_
            cases env with
            | none => trivial
            | some env => exact launchDeploy_every _ untouched

end Rows

end Nixway.Deploy
