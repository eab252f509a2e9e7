/-
# Deploy.Rollout -- a deploy as a system

A rollout is the run of one deploy: `TriggerDeploy` past the INSERT of its
deployment, the dispatch goroutines its loop starts and the handlers of what the
agents answer.  A goroutine runs from the step that starts it, and an agent's
messages arrive once the command was sent to it, so a thread is spawned by what a
step appends to `started` and to `sent`.

`Site` lists the control points of all of these programs and `rolloutFlow` is
their control-flow graph; `rolloutFlow_presents` says that the graph is the code.
-/
import Nixway.Deploy.Outcome

namespace Nixway.Deploy

open Nixway.Theory Nixway.Store
open Nixway.Theory.Prog (query exec atomic forEach)

set_option autoImplicit false

/-! ## dispatchDeploy as a graph -/

/-- The arguments a dispatch goroutine captured. -/
structure Job where
  deployment : Deployment
  target : DeploymentTarget
  build : Build
  app : App
  project : Project
  member : ClusterMember

/-- The control points of `dispatchDeploy`. -/
inductive Dispatch where
  | online
  | readTeam
  | readServer (team : Option Team)
  | readEdges (team : Option Team) (srv : Option Server)
  | domain (platform : String) (edgeEnabled : Bool)
  | assign (entry : String × String) (rest : EnvMap) (platform : String) (edgeEnabled : Bool)
  | allocate (platform : String)
  | bind (platform : String) (port : Int)
  | send (platform : String) (labels : EnvMap)
  | fail (msg : String)
  | halt

namespace Dispatch

/-- The part of `dispatchDeploy` after its reads. -/
def prepared (dns : DnsConfig) (job : Job) (team : Option Team) (srv : Option Server)
    (edges : List Server) : Prog World Unit :=
  prepareAndSend job.deployment job.target job.build job.app job.project job.member
    (platformDomain dns job.app.slug job.project.slug ((team.map Team.slug).getD "")
      (servingIP edges srv)) (edges ≠ [])

/-- The part after the environment map is written. -/
def equipped (job : Job) (platform : String) (edgeEnabled : Bool) : Prog World Unit :=
  if edgeEnabled then
    exposeAndSend job.deployment job.target job.build job.app job.project job.member platform
  else
    sendDeployCommand job.deployment job.target job.build job.app job.member platform
      (deployLabels job.deployment job.target job.app job.project)

def edgeLabels (job : Job) (port : Int) : EnvMap :=
  deployLabels job.deployment job.target job.app job.project ++
    [("nixway.host_port", toString port), ("nixway.bind_address", job.member.wireguardIp)]

/-- The message the send step hands over. -/
def message (job : Job) (platform : String) (labels : EnvMap) (w : World) : ControlMessage :=
  .deployCommand (deployCommand job.deployment job.target job.build job.app platform labels
    (envOf w job.deployment.id))

def code (dns : DnsConfig) (job : Job) : Dispatch → Prog World Unit
  | .online =>
    dispatchDeploy dns job.deployment job.target job.build job.app job.project job.member
  | .readTeam => do
    let team ← query fun w => w.getTeamByID job.project.teamID
    let srv ← query fun w => w.getServerByID job.member.serverID job.project.teamID
    let edges ← query fun w => w.listEdgeServersByCluster job.project.clusterID
    prepared dns job team srv edges
  | .readServer team => do
    let srv ← query fun w => w.getServerByID job.member.serverID job.project.teamID
    let edges ← query fun w => w.listEdgeServersByCluster job.project.clusterID
    prepared dns job team srv edges
  | .readEdges team srv => do
    let edges ← query fun w => w.listEdgeServersByCluster job.project.clusterID
    prepared dns job team srv edges
  | .domain platform edgeEnabled =>
    prepareAndSend job.deployment job.target job.build job.app job.project job.member platform
      edgeEnabled
  | .assign entry rest platform edgeEnabled => do
    exec (assignEnv job.deployment.id entry.1 entry.2)
    forEach rest fun entry => exec (assignEnv job.deployment.id entry.1 entry.2)
    equipped job platform edgeEnabled
  | .allocate platform =>
    exposeAndSend job.deployment job.target job.build job.app job.project job.member platform
  | .bind platform port => do
    exec fun w => w.setDeploymentTargetEdge job.target.id (some port)
      (some job.member.wireguardIp)
    sendDeployCommand job.deployment job.target job.build job.app job.member platform
      (edgeLabels job port)
  | .send platform labels =>
    sendDeployCommand job.deployment job.target job.build job.app job.member platform labels
  | .fail msg => failTarget job.target.id msg
  | .halt => return

/-- The control point before the next assignment, or after the last one. -/
def afterEnv (job : Job) (entries : EnvMap) (platform : String) (edgeEnabled : Bool) : Dispatch :=
  match entries with
  | entry :: rest => .assign entry rest platform edgeEnabled
  | [] =>
    if edgeEnabled then .allocate platform
    else .send platform (deployLabels job.deployment job.target job.app job.project)

def act (dns : DnsConfig) (job : Job) : Dispatch → Option ((World → World) × (World → Dispatch))
  | .online => some (id, fun w =>
    if agentOnline w job.member.serverID.text then .readTeam else .fail "agent not online")
  | .readTeam => some (id, fun w => .readServer (w.getTeamByID job.project.teamID))
  | .readServer team => some (id, fun w =>
    .readEdges team (w.getServerByID job.member.serverID job.project.teamID))
  | .readEdges team srv => some (id, fun w =>
    let edges := w.listEdgeServersByCluster job.project.clusterID
    .domain (platformDomain dns job.app.slug job.project.slug ((team.map Team.slug).getD "")
      (servingIP edges srv)) (edges ≠ []))
  | .domain platform edgeEnabled =>
    some (fun w => w.setDeploymentPlatformDomain job.deployment.id platform, fun _ =>
      afterEnv job (platformEnv job.deployment job.build job.app job.project job.member platform)
        platform edgeEnabled)
  | .assign entry rest platform edgeEnabled =>
    some (assignEnv job.deployment.id entry.1 entry.2, fun _ =>
      afterEnv job rest platform edgeEnabled)
  | .allocate platform =>
    some (fun w => (w.allocateServerPort job.member.serverID job.target.id).1, fun w =>
      match (w.allocateServerPort job.member.serverID job.target.id).2 with
      | none => .fail "allocate host port: no rows in result set"
      | some port => .bind platform port)
  | .bind platform port =>
    some (fun w => w.setDeploymentTargetEdge job.target.id (some port)
      (some job.member.wireguardIp), fun _ => .send platform (edgeLabels job port))
  | .send platform labels =>
    some (fun w => (sendToAgent job.member.serverID.text (message job platform labels w) w).1,
      fun w => match (sendToAgent job.member.serverID.text (message job platform labels w) w).2 with
        | .ok () => .halt
        | .error err => .fail ("failed to send deploy command: " ++ err))
  | .fail msg =>
    some (fun w => w.updateDeploymentTargetStatus
      { id := job.target.id, status := "failed", error := some msg }, fun _ => .halt)
  | .halt => none

theorem code_afterEnv (dns : DnsConfig) (job : Job) (entries : EnvMap) (platform : String)
    (edgeEnabled : Bool) :
    (afterEnv job entries platform edgeEnabled).code dns job =
      (forEach entries fun entry => exec (assignEnv job.deployment.id entry.1 entry.2)) >>=
        fun _ => equipped job platform edgeEnabled := by
  cases entries with
  | nil => cases edgeEnabled <;> rfl
  | cons entry rest => rfl

/-- **The graph of `dispatchDeploy` is its code.** -/
theorem presents (dns : DnsConfig) (job : Job) :
    (⟨Dispatch.act dns job⟩ : Flow World Dispatch).Presents (Dispatch.code dns job) where
  halted k here := by
    cases k with
    | halt => rfl
    | _ => cases here
  moves k effect next here := by
    cases k with
    | halt => cases here
    | online =>
      cases here
      show (Prog.step _ _ : Prog World Unit) = _
      congr 1
      funext w
      beta_reduce
      cases agentOnline w job.member.serverID.text <;> rfl
    | readTeam => cases here; rfl
    | readServer team => cases here; rfl
    | readEdges team srv => cases here; rfl
    | domain platform edgeEnabled =>
      cases here
      simp only [code_afterEnv]
      rfl
    | assign entry rest platform edgeEnabled =>
      cases here
      simp only [code_afterEnv]
      rfl
    | allocate platform =>
      simp only [act, Option.some.injEq, Prod.mk.injEq] at here
      obtain ⟨rfl, rfl⟩ := here
      simp only [code, exposeAndSend, atomic, Prog.step_bind, Prog.done_bind]
      refine Prog.step_congr fun w => ?_
      cases (w.allocateServerPort job.member.serverID job.target.id).2 <;> rfl
    | bind platform port => cases here; rfl
    | send platform labels =>
      cases here
      show (Prog.step _ _ : Prog World Unit) = _
      congr 1
      funext w
      simp only [message]
      cases (sendToAgent job.member.serverID.text _ w).2 <;> rfl
    | fail msg => cases here; rfl

end Dispatch

/-! ## The threads of a rollout -/

/-- What stays fixed during a rollout: the DNS settings, the launch, and the
messages each target's agent sends should it get its command. -/
structure Rollout where
  dns : DnsConfig := {}
  launch : Launch
  replies : UUID → List DeployOutput

/-- The outcome a list of messages reports: that of its last message, if that is a
finished one. -/
def reportedOutcome (outs : List DeployOutput) : Option Bool :=
  match outs.getLast? with
  | some out => if out.finished then some out.success else none
  | none => none

namespace Rollout

/-- The replicas of the deployment. -/
def replicas (rollout : Rollout) : Nat := rollout.launch.targets.length

/-- What a target's agent reports, should it get its command. -/
def outcome (rollout : Rollout) (targetID : UUID) : Option Bool :=
  reportedOutcome (rollout.replies targetID)

/-- The thread of a `go` statement.  The promotion a completed deployment starts is
no part of its rollout. -/
def goroutineThreads (rollout : Rollout) : Goroutine → List (Prog World Unit)
  | .dispatchDeploy deployment target build app project member =>
    [dispatchDeploy rollout.dns deployment target build app project member]
  | _ => []

/-- The handler of what an agent answers to a command. -/
def replyThreads (rollout : Rollout) : String × ControlMessage → List (Prog World Unit)
  | (_, .deployCommand cmd) => [handleReports (rollout.replies cmd.targetID)]
  | _ => []

/-- The threads a step brings: the goroutines it started and the answers to the
commands it sent. -/
def spawn (rollout : Rollout) : Spawn World := fun before after =>
  (after.started.drop before.started.length).flatMap rollout.goroutineThreads ++
    (after.sent.drop before.sent.length).flatMap rollout.replyThreads

/-- `TriggerDeploy` after the INSERT of its deployment, about to run its loop. -/
def pool (rollout : Rollout) (w : World) (deployment : Deployment) : Pool World :=
  ⟨w, [launchTargets rollout.launch deployment rollout.launch.targets >>= fun _ => return]⟩

/-- The closing write is the next step of the thread of `TriggerDeploy`. -/
def AtClose (deployment : Deployment) (c : Pool World) : Prop :=
  c.threads[0]? = some (closeLaunch deployment >>= fun _ => return)

end Rollout

/-- The control points of the threads of a rollout.  A handler of reports carries
the target they are about. -/
inductive Site where
  | loop (deployment : Deployment) (todo : List (UUID × ScheduledTarget))
  | start (deployment : Deployment) (target : DeploymentTarget) (scheduled : ScheduledTarget)
      (rest : List (UUID × ScheduledTarget))
  | returned
  | dispatch (job : Job) (point : Dispatch)
  | report (targetID : UUID) (point : Control)

namespace Site

variable (rollout : Rollout)

def goroutine (deployment : Deployment) (target : DeploymentTarget) (scheduled : ScheduledTarget) :
    Goroutine :=
  .dispatchDeploy deployment target rollout.launch.build rollout.launch.app rollout.launch.project
    scheduled.member

def code : Site → Prog World Unit
  | .loop deployment todo => launchTargets rollout.launch deployment todo >>= fun _ => return
  | .start deployment target scheduled rest =>
    (go (goroutine rollout deployment target scheduled) >>= fun _ =>
      launchTargets rollout.launch deployment rest) >>= fun _ => return
  | .returned => return
  | .dispatch job point => point.code rollout.dns job
  | .report _ point => point.code

def act : Site → Option ((World → World) × (World → Site))
  | .loop deployment [] =>
    some (fun w => w.updateDeploymentStatus deployment.id .deploying (some w.now) none,
      fun _ => .returned)
  | .loop deployment ((targetID, scheduled) :: rest) =>
    some (fun w =>
        (w.createDeploymentTarget targetID deployment.id scheduled.member.serverID).1,
      fun w => match
          (w.createDeploymentTarget targetID deployment.id scheduled.member.serverID).2 with
        | none => .returned
        | some target => .start deployment target scheduled rest)
  | .start deployment target scheduled rest =>
    some (fun w => { w with started :=
        w.started ++ [goroutine rollout deployment target scheduled] },
      fun _ => .loop deployment rest)
  | .returned => none
  | .dispatch job point =>
    (point.act rollout.dns job).map fun move => (move.1, fun w => .dispatch job (move.2 w))
  | .report targetID point =>
    point.act.map fun move => (move.1, fun w => .report targetID (move.2 w))

def ofGoroutine : Goroutine → List Site
  | .dispatchDeploy deployment target build app project member =>
    [.dispatch ⟨deployment, target, build, app, project, member⟩ .online]
  | _ => []

def ofMessage : String × ControlMessage → List Site
  | (_, .deployCommand cmd) =>
    [.report cmd.targetID (.receive (rollout.replies cmd.targetID))]
  | _ => []

def spawn (before after : World) : List Site :=
  (after.started.drop before.started.length).flatMap ofGoroutine ++
    (after.sent.drop before.sent.length).flatMap (ofMessage rollout)

theorem code_spawn (before after : World) :
    (spawn rollout before after).map (code rollout) = rollout.spawn before after := by
  have started : ∀ g, (ofGoroutine g).map (code rollout) = rollout.goroutineThreads g := by
    intro g
    cases g <;> rfl
  have sent : ∀ m, (ofMessage rollout m).map (code rollout) = rollout.replyThreads m := by
    rintro ⟨agentID, msg⟩
    cases msg <;> rfl
  simp only [spawn, Rollout.spawn, List.map_append, List.map_flatMap, started, sent]

end Site

/-- The rollout as a control-flow graph. -/
def rolloutFlow (rollout : Rollout) : Flow World Site := ⟨Site.act rollout⟩

theorem rolloutFlow_presents (rollout : Rollout) :
    (rolloutFlow rollout).Presents (Site.code rollout) where
  halted k here := by
    cases k with
    | loop deployment todo =>
      cases todo with
      | nil => cases here
      | cons head rest => cases here
    | start deployment target scheduled rest => cases here
    | returned => rfl
    | dispatch job point =>
      exact (Dispatch.presents rollout.dns job).halted point (Option.map_eq_none_iff.mp here)
    | report targetID point =>
      exact reportFlow_presents.halted point (Option.map_eq_none_iff.mp here)
  moves k effect next here := by
    cases k with
    | loop deployment todo =>
      cases todo with
      | nil => cases here; rfl
      | cons head rest =>
        cases here
        show (Prog.step _ _ : Prog World Unit) = _
        congr 1
        funext w
        beta_reduce
        cases (w.createDeploymentTarget head.1 deployment.id head.2.member.serverID).2 <;> rfl
    | start deployment target scheduled rest => cases here; rfl
    | returned => cases here
    | dispatch job point =>
      obtain ⟨⟨effect', next'⟩, edge, same⟩ := Option.map_eq_some_iff.mp here
      cases same
      exact (Dispatch.presents rollout.dns job).moves point effect' next' edge
    | report targetID point =>
      obtain ⟨⟨effect', next'⟩, edge, same⟩ := Option.map_eq_some_iff.mp here
      cases same
      exact reportFlow_presents.moves point effect' next' edge

def Rollout.sites (rollout : Rollout) (w : World) (deployment : Deployment)
    (schedule : List Nat) : World × List Site :=
  (rolloutFlow rollout).run (Site.spawn rollout)
    (w, [.loop deployment rollout.launch.targets]) schedule

/-- **The rollout and its control points run together.** -/
theorem Rollout.run_eq (rollout : Rollout) (w : World) (deployment : Deployment)
    (schedule : List Nat) :
    (rollout.pool w deployment).run rollout.spawn schedule =
      Flow.pool (Site.code rollout) (rollout.sites w deployment schedule) := by
  have coded := Flow.run_coded (rolloutFlow_presents rollout) (Site.spawn rollout)
    (w, [.loop deployment rollout.launch.targets]) schedule
  have spawned : (fun s t => (Site.spawn rollout s t).map (Site.code rollout)) = rollout.spawn := by
    funext s t
    exact Site.code_spawn rollout s t
  rw [spawned] at coded
  exact coded

end Nixway.Deploy
