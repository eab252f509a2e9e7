/-
# Deploy.BuildNode -- an image that is only where it was built

Without a registry the image of a build is on the node that built it, the agents run it with
`--pull never`, and `dispatchBuild` counts on the deploy to reuse it there.  The build goes to
the first member with an agent online; the targets go where the schedule puts them, which reads
the servers' load, names and tags, and nothing of the build.  `targets_on_builder_iff` says when
the two agree.
-/
import Nixway.Deploy.Trigger

namespace Nixway.Deploy

open Nixway.Theory Nixway.Store
open Nixway.Theory.Prog (query exec atomic)

set_option autoImplicit false

/-- The server `dispatchBuild` sends the command to. -/
def buildNode (w : World) (members : List ClusterMember) : Option UUID :=
  (members.find? fun member => agentOnline w member.serverID.text).map ClusterMember.serverID

/-- The app has no registry, and its build was on `b`; `serverOf` is `builds.server_id`. -/
structure LocalImage (w : World) (serverOf : UUID → Option UUID) (req : TriggerRequest) (b : UUID) :
    Prop where
  unregistered : ∀ app, w.getApp req.appID = some app → app.registryCredentialID = none
  built : serverOf req.buildID = some b

/-- The targets the call has created are all on `b`. -/
def TargetsOn (b : UUID) (before after : World) : Prop :=
  ∀ t ∈ after.targets.rows, t ∉ before.targets.rows → t.serverID = b

/-- The ids the INSERTs of a launch draw are new and distinct. -/
structure Drawn (w : World) (launch : Launch) : Prop where
  deployment : w.deployments.find? launch.deploymentID = none
  unused : ∀ t ∈ w.targets.rows, t.deploymentID ≠ launch.deploymentID
  targets : ∀ f ∈ launch.targets, w.targets.find? f.1 = none
  distinct : (launch.targets.map Prod.fst).Nodup

/-- The members are servers, and a server is a candidate once. -/
structure Listed (w : World) (cluster : Cluster) : Prop where
  servers : ∀ member ∈ cluster.members, (w.servers.find? member.serverID).isSome
  once : (cluster.candidates.map Scheduler.Candidate.serverID).Nodup

/-- The servers that match, in the order of the strategy. -/
def inOrder (app : App) (cluster : Cluster) : List Scheduler.Candidate :=
  (Scheduler.ordered (requirements app)
    (Scheduler.eligible (requirements app) cluster.candidates)).getD []

/-- The server asked for is `b`; or one replica is, and `b` comes first in the order. -/
def LeadsTo (b : UUID) (req : TriggerRequest) (app : App) (cluster : Cluster) : Prop :=
  match req.server with
  | some serverID => serverID = b
  | none =>
    app.replicas.toInt = 1 ∧ (inOrder app cluster).head?.map Scheduler.Candidate.serverID = some b

/-! ## What a schedule chooses -/

def serversOf (targets : List ScheduledTarget) : List UUID := targets.map fun t => t.member.serverID

theorem mapM_scheduledTarget {members : List ClusterMember}
    {assignments : List Scheduler.Assignment} {targets : List ScheduledTarget}
    (ok : assignments.mapM (scheduledTarget members) = .ok targets) :
    serversOf targets = assignments.map Scheduler.Assignment.serverID ∧
      ∀ t ∈ targets, t.member ∈ members := by
  induction assignments generalizing targets with
  | nil =>
    cases ok
    exact ⟨rfl, fun _ mem => by cases mem⟩
  | cons a rest ih =>
    rw [List.mapM_cons] at ok
    cases first : scheduledTarget members a with
    | error err =>
      rw [first] at ok
      cases ok
    | ok target =>
      rw [first] at ok
      cases later : rest.mapM (scheduledTarget members) with
      | error err =>
        rw [later] at ok
        cases ok
      | ok others =>
        rw [later] at ok
        cases ok
        obtain ⟨same, inside⟩ := ih later
        unfold scheduledTarget at first
        cases found : memberByServer members a.serverID with
        | none =>
          rw [found] at first
          cases first
        | some member =>
          rw [found] at first
          cases first
          unfold memberByServer at found
          have own : member.serverID = a.serverID := by simpa using List.find?_some found
          refine ⟨?_, fun t mem => ?_⟩
          · show member.serverID :: serversOf others = a.serverID :: _
            rw [same, own]
          · rcases List.mem_cons.mp mem with rfl | later
            · exact List.mem_reverse.mp (List.mem_of_find?_eq_some found)
            · exact inside t later

/-- A schedule takes the first servers in the order, one for each replica. -/
theorem scheduleTargets_servers {app : App} {cluster : Cluster} {targets : List ScheduledTarget}
    (ok : scheduleTargets app cluster = .ok targets) :
    serversOf targets =
        ((inOrder app cluster).take app.replicas.toInt.toNat).map Scheduler.Candidate.serverID ∧
      (targets.length : Int) = app.replicas.toInt ∧ 0 < app.replicas.toInt ∧
      ∀ t ∈ targets, t.member ∈ cluster.members := by
  unfold scheduleTargets at ok
  cases scheduled : Scheduler.schedule (requirements app) cluster.candidates with
  | error err =>
    rw [scheduled] at ok
    cases ok
  | ok assignments =>
    rw [scheduled] at ok
    obtain ⟨same, inside⟩ := mapM_scheduledTarget ok
    have length := Scheduler.length_schedule scheduled
    obtain ⟨positive, -⟩ := (Scheduler.schedule_isOk_iff _ _).mp ⟨assignments, scheduled⟩
    have count : targets.length = assignments.length := by
      simpa [serversOf] using congrArg List.length same
    refine ⟨?_, by rw [count]; exact length, positive, inside⟩
    rw [same]
    unfold Scheduler.schedule at scheduled
    dsimp only at scheduled
    split at scheduled
    · cases scheduled
    · split at scheduled
      · cases scheduled
      · split at scheduled
        · cases scheduled
        · split at scheduled
          · cases scheduled
          · next able found =>
            cases scheduled
            unfold inOrder
            rw [found, List.map_map]
            rfl

theorem nodup_inOrder {app : App} {w : World} {cluster : Cluster} (listed : Listed w cluster) :
    ((inOrder app cluster).map Scheduler.Candidate.serverID).Nodup := by
  have able : ((Scheduler.eligible (requirements app) cluster.candidates).map
      Scheduler.Candidate.serverID).Nodup :=
    listed.once.sublist (List.filter_sublist.map _)
  have sorted : ∀ (less : Scheduler.Candidate → Scheduler.Candidate → Bool),
      ((Scheduler.sliceStable less (Scheduler.eligible (requirements app)
        cluster.candidates)).map Scheduler.Candidate.serverID).Nodup := fun less =>
    ((List.perm_insertionSort _ _).map _).nodup_iff.mpr able
  unfold inOrder Scheduler.ordered
  split
  · exact sorted _
  · exact sorted _
  · exact sorted _
  · exact List.nodup_nil

/-! ## What the loop inserts -/

def targetRow (deploymentID : UUID) (f : UUID × ScheduledTarget) : DeploymentTarget :=
  { id := f.1, deploymentID := deploymentID, serverID := f.2.member.serverID }

/-- Nothing stands against the INSERTs of these targets. -/
structure Placeable (w : World) (deploymentID : UUID) (targets : List (UUID × ScheduledTarget)) :
    Prop where
  deployment : (w.deployments.find? deploymentID).isSome
  servers : ∀ f ∈ targets, (w.servers.find? f.2.member.serverID).isSome
  ids : ∀ f ∈ targets, w.targets.find? f.1 = none
  distinct : (targets.map Prod.fst).Nodup
  apart : (targets.map fun f => f.2.member.serverID).Nodup
  free : ∀ t ∈ w.targets.rows, t.deploymentID = deploymentID →
    ∀ f ∈ targets, f.2.member.serverID ≠ t.serverID

theorem Placeable.insert {w : World} {deploymentID : UUID} {f : UUID × ScheduledTarget}
    {rest : List (UUID × ScheduledTarget)} (placeable : Placeable w deploymentID (f :: rest)) :
    ∃ targets : Table DeploymentTarget,
      w.createDeploymentTarget f.1 deploymentID f.2.member.serverID =
        ({ w with targets := targets }, some (targetRow deploymentID f)) ∧
      targets.rows = targetRow deploymentID f :: w.targets.rows := by
  have here : f ∈ f :: rest := List.mem_cons_self
  have conflict : (w.targets.rows.any fun r =>
      r.deploymentID = deploymentID && r.serverID = f.2.member.serverID) = false := by
    rw [List.any_eq_false]
    intro r mem both
    simp only [Bool.and_eq_true, decide_eq_true_eq] at both
    exact placeable.free r mem both.1 f here both.2.symm
  cases inserted : w.targets.insert? (targetRow deploymentID f) with
  | none =>
    exact absurd (placeable.ids f here) (Table.insert?_eq_none_iff.mp inserted)
  | some targets =>
    refine ⟨targets, ?_, (Table.insert?_eq_some_iff.mp inserted).2⟩
    unfold targetRow at inserted
    unfold World.createDeploymentTarget
    dsimp only
    rw [conflict, Option.isNone_eq_false_iff.mpr placeable.deployment,
      Option.isNone_eq_false_iff.mpr (placeable.servers f here), inserted]
    rfl

theorem Placeable.rest {w : World} {deploymentID : UUID} {f : UUID × ScheduledTarget}
    {rest : List (UUID × ScheduledTarget)} (placeable : Placeable w deploymentID (f :: rest))
    {targets : Table DeploymentTarget} {started : List Goroutine}
    (rows : targets.rows = targetRow deploymentID f :: w.targets.rows) :
    Placeable { w with targets := targets, started := started } deploymentID rest := by
  obtain ⟨newID, distinct⟩ := List.nodup_cons.mp placeable.distinct
  obtain ⟨newServer, apart⟩ := List.nodup_cons.mp placeable.apart
  refine ⟨placeable.deployment, fun g mem => placeable.servers g (List.mem_cons_of_mem f mem),
    fun g mem => ?_, distinct, apart, fun t mem own g later => ?_⟩
  · show targets.find? g.1 = none
    rw [Table.find?_eq_none_iff]
    intro t inside same
    have inside : t ∈ targetRow deploymentID f :: w.targets.rows := rows ▸ inside
    rcases List.mem_cons.mp inside with rfl | old
    · exact newID (List.mem_map.mpr ⟨g, mem, same.symm⟩)
    · exact Table.find?_eq_none_iff.mp (placeable.ids g (List.mem_cons_of_mem f mem)) t old same
  · have mem : t ∈ targetRow deploymentID f :: w.targets.rows := rows ▸ mem
    rcases List.mem_cons.mp mem with rfl | old
    · exact fun same => newServer (List.mem_map.mpr ⟨g, later, same⟩)
    · exact placeable.free t old own g (List.mem_cons_of_mem f later)

/-- **The rows of a launch**: with nothing against them, one for each target. -/
theorem tryTargets_rows (launch : Launch) (deployment : Deployment) (n : Nat)
    (targets : List (UUID × ScheduledTarget)) (w : World)
    (placeable : Placeable w deployment.id targets) :
    ((tryTargets {} launch deployment n targets).run w).1.targets.rows =
      (targets.map (targetRow deployment.id)).reverse ++ w.targets.rows := by
  induction targets generalizing n w with
  | nil => rfl
  | cons f rest ih =>
    obtain ⟨targetID, scheduled⟩ := f
    obtain ⟨table, created, rows⟩ := placeable.insert
    unfold tryTargets
    rw [Prog.run_atomic_bind]
    unfold createTarget
    dsimp only
    rw [created]
    dsimp only
    have later := ih (n + 1) { w with
      targets := table
      started := w.started ++ [.dispatchDeploy deployment (targetRow deployment.id
        (targetID, scheduled)) launch.build launch.app launch.project scheduled.member] }
      (placeable.rest rows)
    rw [List.map_cons, List.reverse_cons, List.append_assoc, List.singleton_append, ← rows]
    exact later

/-! ## The call -/

section Call

variable {cluster : World → UUID → Cluster} {draw : Draw} {req : TriggerRequest} {w : World}

theorem plan_ok {launch : Launch} (planned : plan {} cluster draw req w = .ok launch) :
    ∃ targets, w.getApp req.appID = some launch.app ∧
      chooseTargets {} (cluster w launch.project.clusterID) req launch.app = .ok targets ∧
        launch = launchOf draw req launch.app launch.build launch.project targets := by
  unfold plan at planned
  cases found : w.getApp req.appID with
  | none =>
    rw [found] at planned
    cases planned
  | some app =>
  rw [found] at planned
  dsimp only [oneRow] at planned
  cases built : w.getBuild req.buildID with
  | none =>
    rw [built] at planned
    cases planned
  | some build =>
  rw [built] at planned
  dsimp only [oneRow] at planned
  cases owned : w.getProject app.projectID with
  | none =>
    rw [owned] at planned
    cases planned
  | some project =>
  rw [owned] at planned
  dsimp only [oneRow, answered] at planned
  split at planned
  · cases planned
  · cases chosen : chooseTargets {} (cluster w project.clusterID) req app with
    | error err =>
      rw [chosen] at planned
      cases planned
    | ok targets =>
      rw [chosen] at planned
      cases resolved : w.environments.find? req.envID with
      | none =>
        rw [resolved] at planned
        cases planned
      | some environment =>
        rw [resolved] at planned
        cases planned
        exact ⟨targets, rfl, chosen, rfl⟩

theorem chosen_some {serverID : UUID} (asked : req.server = some serverID) {app : App}
    {listed : Cluster} {targets : List ScheduledTarget}
    (chosen : chooseTargets {} listed req app = .ok targets) :
    ∃ target, targets = [target] ∧ target.member.serverID = serverID ∧
      target.member ∈ listed.members := by
  unfold chooseTargets at chosen
  rw [asked] at chosen
  dsimp only [targetForSpecificServer] at chosen
  cases found : listed.members.find? fun member => member.serverID = serverID with
  | none =>
    rw [found] at chosen
    cases chosen
  | some member =>
    rw [found] at chosen
    cases chosen
    exact ⟨_, rfl, by simpa using List.find?_some found, List.mem_of_find?_eq_some found⟩

theorem chosen_none (asked : req.server = none) {app : App} {listed : Cluster}
    {targets : List ScheduledTarget} (chosen : chooseTargets {} listed req app = .ok targets) :
    scheduleTargets app listed = .ok targets := by
  unfold chooseTargets at chosen
  rw [asked] at chosen
  exact chosen

theorem chosen_apart {app : App} {listed : Cluster} (sane : Listed w listed)
    {targets : List ScheduledTarget} (chosen : chooseTargets {} listed req app = .ok targets) :
    (serversOf targets).Nodup ∧ ∀ t ∈ targets, t.member ∈ listed.members := by
  cases asked : req.server with
  | some serverID =>
    obtain ⟨target, rfl, -, inside⟩ := chosen_some asked chosen
    refine ⟨List.nodup_singleton _, fun t mem => ?_⟩
    rw [List.mem_singleton.mp mem]
    exact inside
  | none =>
    obtain ⟨servers, -, -, inside⟩ := scheduleTargets_servers (chosen_none asked chosen)
    refine ⟨?_, inside⟩
    rw [servers, List.map_take]
    exact (nodup_inOrder sane).sublist (List.take_sublist _ _)

/-- **When a choice is one server**: it was asked for, or one replica goes to the first. -/
theorem chosen_on_iff {app : App} {listed : Cluster} (sane : Listed w listed)
    {targets : List ScheduledTarget} (chosen : chooseTargets {} listed req app = .ok targets)
    (b : UUID) : (∀ server ∈ serversOf targets, server = b) ↔ LeadsTo b req app listed := by
  unfold LeadsTo
  cases asked : req.server with
  | some serverID =>
    obtain ⟨target, rfl, own, -⟩ := chosen_some asked chosen
    simp [serversOf, own]
  | none =>
    dsimp only
    obtain ⟨apart, -⟩ := chosen_apart sane chosen
    obtain ⟨servers, length, positive, -⟩ := scheduleTargets_servers (chosen_none asked chosen)
    have counted : (serversOf targets).length = app.replicas.toInt.toNat := by
      have : (serversOf targets).length = targets.length := List.length_map _
      omega
    constructor
    · intro all
      have one : app.replicas.toInt.toNat = 1 := by
        cases listed : serversOf targets with
        | nil =>
          rw [listed, List.length_nil] at counted
          omega
        | cons first rest =>
          rw [listed] at all apart counted
          cases rest with
          | nil => exact counted.symm
          | cons second rest =>
            have same : first = second :=
              (all first (by simp)).trans (all second (by simp)).symm
            simp [same] at apart
      refine ⟨by omega, ?_⟩
      rw [one] at servers
      cases order : inOrder app listed with
      | nil =>
        rw [order] at servers
        rw [servers] at counted
        simp only [List.take_nil, List.map_nil, List.length_nil] at counted
        omega
      | cons first rest =>
        rw [order] at servers
        rw [List.head?_cons, Option.map_some, Option.some.injEq]
        exact all first.serverID (by rw [servers]; simp)
    · rintro ⟨one, first⟩
      obtain ⟨c, head, rfl⟩ := Option.map_eq_some_iff.mp first
      obtain ⟨rest, order⟩ := List.head?_eq_some_iff.mp head
      have single : app.replicas.toInt.toNat = 1 := by omega
      rw [servers, order, single]
      simp

theorem launch_servers (app : App) (build : Build) (project : Project)
    (targets : List ScheduledTarget) :
    ((launchOf draw req app build project targets).targets.map fun f => f.2.member.serverID) =
      serversOf targets := by
  have read : ((launchOf draw req app build project targets).targets.map fun f =>
      f.2.member.serverID) =
        targets.zipIdx.map ((fun t : ScheduledTarget => t.member.serverID) ∘ Prod.fst) :=
    List.map_map
  rw [read, ← List.map_map, List.zipIdx_map_fst]
  rfl

def launchedRow (launch : Launch) (w : World) : Deployment :=
  { id := launch.deploymentID
    appID := launch.app.id
    environmentID := launch.environmentID
    buildID := launch.build.id
    replicasDesired := launch.targets.length
    createdAt := w.now }

theorem createLaunched_fresh {launch : Launch}
    (fresh : w.deployments.find? launch.deploymentID = none) :
    ∃ deployments : Table Deployment,
      createLaunched launch w = ({ w with
        deployments := deployments
        envVars := (launch.deploymentID, launch.env) :: w.envVars }, some (launchedRow launch w)) ∧
      (deployments.find? launch.deploymentID).isSome := by
  cases inserted : w.deployments.insert? (launchedRow launch w) with
  | none => exact absurd fresh (Table.insert?_eq_none_iff.mp inserted)
  | some deployments =>
    refine ⟨deployments, ?_, ?_⟩
    · unfold launchedRow at inserted
      unfold createLaunched World.createDeployment
      dsimp only
      rw [inserted]
      rfl
    · rw [Table.find?_insert? inserted]
      exact Option.isSome_iff_exists.mpr ⟨_, if_pos rfl⟩

theorem tryDeploy_targets {launch : Launch} (planned : plan {} cluster draw req w = .ok launch)
    (sane : Listed w (cluster w launch.project.clusterID)) (drawn : Drawn w launch) :
    ((tryDeploy {} cluster draw req).run w).1.targets.rows =
      (launch.targets.map (targetRow launch.deploymentID)).reverse ++ w.targets.rows := by
  obtain ⟨targets, -, chosen, shape⟩ := plan_ok planned
  obtain ⟨apart, inside⟩ := chosen_apart sane chosen
  have members : ∀ f ∈ launch.targets,
      f.2.member ∈ (cluster w launch.project.clusterID).members := by
    rw [shape]
    intro f mem
    obtain ⟨entry, listed, rfl⟩ := List.mem_map.mp mem
    exact inside _ (List.fst_mem_of_mem_zipIdx listed)
  have servers : (launch.targets.map fun f => f.2.member.serverID) = serversOf targets := by
    rw [shape]
    exact launch_servers _ _ _ _
  rw [tryDeploy_run, planned]
  dsimp only
  unfold tryLaunch
  rw [Prog.run_atomic_bind]
  unfold tryCreate
  obtain ⟨deployments, created, there⟩ := createLaunched_fresh drawn.deployment
  dsimp only
  rw [created]
  exact tryTargets_rows launch (launchedRow launch w) 0 launch.targets _
    ⟨there, fun f mem => sane.servers _ (members f mem), drawn.targets, drawn.distinct,
      servers ▸ apart, fun t mem own => absurd own (drawn.unused t mem)⟩

/-- **When a local image runs where it was built**: if the server asked for is the builder; or if
one replica is, and the builder is the first matching server in the order of the strategy. -/
theorem targets_on_builder_iff (serverOf : UUID → Option UUID)
    (sane : ∀ clusterID, Listed w (cluster w clusterID))
    (drawn : ∀ launch, plan {} cluster draw req w = .ok launch → Drawn w launch) :
    (∀ b, LocalImage w serverOf req b →
        TargetsOn b w ((tryDeploy {} cluster draw req).run w).1) ↔
      ∀ b, LocalImage w serverOf req b → ∀ launch, plan {} cluster draw req w = .ok launch →
        LeadsTo b req launch.app (cluster w launch.project.clusterID) := by
  refine forall_congr' fun b => imp_congr_right fun _ => ?_
  cases planned : plan {} cluster draw req w with
  | error err =>
    refine iff_of_true (fun t mem new => ?_) fun launch same => by cases same
    rw [tryDeploy_run, planned] at mem
    exact absurd mem new
  | ok launch =>
    obtain ⟨targets, -, chosen, shape⟩ := plan_ok planned
    have own := drawn launch planned
    have rows := tryDeploy_targets planned (sane _) own
    have servers : (launch.targets.map fun f => f.2.member.serverID) = serversOf targets := by
      rw [shape]
      exact launch_servers _ _ _ _
    have created : TargetsOn b w ((tryDeploy {} cluster draw req).run w).1 ↔
        ∀ server ∈ serversOf targets, server = b := by
      unfold TargetsOn
      rw [rows, ← servers]
      constructor
      · intro all server mem
        obtain ⟨f, there, rfl⟩ := List.mem_map.mp mem
        refine all (targetRow launch.deploymentID f) (List.mem_append_left _
          (List.mem_reverse.mpr (List.mem_map.mpr ⟨f, there, rfl⟩))) fun old => ?_
        exact own.unused _ old rfl
      · intro all t mem new
        rcases List.mem_append.mp mem with inserted | old
        · obtain ⟨f, there, rfl⟩ := List.mem_map.mp (List.mem_reverse.mp inserted)
          exact all _ (List.mem_map.mpr ⟨f, there, rfl⟩)
        · exact absurd old new
    rw [created, chosen_on_iff (sane _) chosen]
    refine ⟨fun leads launch' same => ?_, fun all => all launch rfl⟩
    cases same
    exact leads

end Call

/-! ### The first member builds, and the first name runs -/

/-- Of the two servers 72 has joined first, and 71 has the first name. -/
def joinedLater : World → UUID → Cluster := fun _ _ =>
  { members := [{ serverID := 72, serverName := "b" }, { serverID := 71, serverName := "a" }]
    candidates := [{ serverID := 71, serverName := "a" }, { serverID := 72, serverName := "b" }] }

def oneReplica : World :=
  { twoReady with
    apps := .single webApp }

/-- `builds.server_id` of build 30: the server its command went to. -/
def builtOn (buildID : UUID) : Option UUID :=
  if buildID = 30 then buildNode oneReplica (joinedLater oneReplica 12).members else none

theorem local_image_elsewhere :
    LocalImage oneReplica builtOn ⟨20, 40, 30, none⟩ 72 ∧
      ¬ TargetsOn 72 oneReplica
        ((tryDeploy {} joinedLater twoReadyDraw ⟨20, 40, 30, none⟩).run oneReplica).1 := by
  refine ⟨⟨fun app found => ?_, by decide +kernel⟩, fun all => ?_⟩
  · have here : oneReplica.getApp 20 = some
        webApp := by decide
    cases here.symm.trans found
    rfl
  · have placed : ({ id := 81, deploymentID := 1, serverID := 71 } : DeploymentTarget) ∈
        ((tryDeploy {} joinedLater twoReadyDraw ⟨20, 40, 30, none⟩).run
          oneReplica).1.targets.rows := by decide +kernel
    exact absurd (all _ placed (by decide)) (by decide)

/-- With the builder asked for the target is there. -/
theorem local_image_asked_for :
    LocalImage oneReplica builtOn ⟨20, 40, 30, some 72⟩ 72 ∧
      TargetsOn 72 oneReplica
        ((tryDeploy {} joinedLater twoReadyDraw ⟨20, 40, 30, some 72⟩).run oneReplica).1 := by
  have image : LocalImage oneReplica builtOn ⟨20, 40, 30, some 72⟩ 72 := by
    refine ⟨fun app found => ?_, by decide +kernel⟩
    have here : oneReplica.getApp 20 = some
        webApp := by decide
    cases here.symm.trans found
    rfl
  have sane : ∀ clusterID, Listed oneReplica (joinedLater oneReplica clusterID) := by
    intro clusterID
    have here : Listed oneReplica (joinedLater oneReplica 12) := ⟨by decide, by decide⟩
    exact here
  refine ⟨image, (targets_on_builder_iff builtOn sane ?_).mpr (fun b image launch planned => ?_) 72
    image⟩
  · intro launch planned
    obtain ⟨targets, -, chosen, shape⟩ := plan_ok planned
    obtain ⟨target, rfl, -, -⟩ := chosen_some rfl chosen
    rw [shape]
    exact ⟨rfl, fun _ mem => (by cases mem), fun _ _ => rfl, List.nodup_singleton _⟩
  · have here : builtOn 30 = some 72 := by decide +kernel
    exact Option.some.inj (here.symm.trans image.built)

end Nixway.Deploy
