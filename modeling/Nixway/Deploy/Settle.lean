/-
# Deploy.Settle -- when a rollout settles its deployment

A target becomes terminal in a dispatch that fails or through an agent's report,
but only a report touches the deployment row.  A deployment whose targets are all
terminal, with nothing in flight, is therefore terminal when no dispatch failed or
some agent reported a failure, and the rollout was closed in time.

`Smooth` is what a rollout keeps of the world it started in: the agents, the
servers, the free ports of the targets still to be dispatched, and the rows still
to be inserted.  `Event` says once what a step of a smooth rollout does.
-/
import Nixway.Deploy.Terminal

namespace Nixway.Deploy

open Nixway.Theory Nixway.Store
open Nixway.Theory.Prog (query exec atomic forEach)

set_option autoImplicit false

/-! ## Terminal rows -/

/-- A target row that is 'healthy', 'failed' or 'stopped'. -/
def SettledTarget (status : TargetStatus) : Prop :=
  status = .healthy ∨ status = .failed ∨ status = .stopped

instance (status : TargetStatus) : Decidable (SettledTarget status) :=
  inferInstanceAs (Decidable (_ ∨ _))

/-- A deployment row that is 'healthy', 'failed', 'superseded' or 'archived'. -/
def SettledDeployment (status : DeploymentStatus) : Prop :=
  status = .healthy ∨ status = .failed ∨ status = .superseded ∨ status = .archived

instance (status : DeploymentStatus) : Decidable (SettledDeployment status) :=
  inferInstanceAs (Decidable (_ ∨ _))

def TargetsSettled (w : World) (deployID : UUID) : Prop :=
  ∀ t ∈ w.targets.rows, t.deploymentID = deployID → SettledTarget t.status

instance (w : World) (deployID : UUID) : Decidable (TargetsSettled w deployID) :=
  inferInstanceAs (Decidable (∀ _ ∈ _, _))

def Settled (w : World) (deployID : UUID) : Prop :=
  ∃ d, w.getDeployment deployID = some d ∧ SettledDeployment d.status

/-! ## Targets whose command arrives -/

/-- A host port of the server is free. -/
def HasPort (w : World) (serverID : UUID) : Prop :=
  ∃ port ∈ World.portRange, w.portTaken serverID port = false

/-- The agent is connected and its stream takes messages. -/
def Listening (w : World) (agentID : String) : Prop :=
  ∃ state, w.agents.find? agentID = some state ∧ state.status = .online ∧ state.stream = .live

/-- The cluster has edge servers. -/
def edgeMode (w : World) (project : Project) : Bool :=
  w.listEdgeServersByCluster project.clusterID ≠ []

/-- The dispatch to this member gets its command through. -/
structure Reachable (w : World) (project : Project) (member : ClusterMember) : Prop where
  listening : Listening w member.serverID.text
  port : edgeMode w project = true → HasPort w member.serverID

theorem Listening.online {w : World} {agentID : String} (listening : Listening w agentID) :
    agentOnline w agentID = true := by
  obtain ⟨state, found, online, -⟩ := listening
  simp [agentOnline, found, online]

theorem Listening.send {w : World} {agentID : String} (listening : Listening w agentID)
    (msg : ControlMessage) :
    sendToAgent agentID msg w = ({ w with sent := w.sent ++ [(agentID, msg)] }, .ok ()) := by
  obtain ⟨state, found, -, live⟩ := listening
  simp [sendToAgent, found, live]

theorem HasPort.allocate {w : World} {serverID : UUID} (free : HasPort w serverID)
    (targetID : UUID) :
    ∃ port, w.allocateServerPort serverID targetID =
      ({ w with ports := ⟨serverID, port, targetID, none⟩ :: w.ports }, some port) := by
  obtain ⟨port, inRange, untaken⟩ := free
  unfold World.allocateServerPort
  cases search : World.portRange.find? fun port => !w.portTaken serverID port with
  | some lowest => exact ⟨lowest, rfl⟩
  | none =>
    have taken := List.find?_eq_none.mp search port inRange
    simp [untaken] at taken

theorem HasPort.other {w : World} {serverID other : UUID} (different : other ≠ serverID)
    (port : Int) (targetID : UUID) :
    HasPort { w with ports := ⟨other, port, targetID, none⟩ :: w.ports } serverID ↔
      HasPort w serverID := by
  have same : ∀ p, World.portTaken
      { w with ports := ⟨other, port, targetID, none⟩ :: w.ports } serverID p =
        w.portTaken serverID p := by
    intro p
    simp [World.portTaken, different]
  simp only [HasPort, same]

/-! ## One dispatch -/

/-- The points of a dispatch before its port is reserved. -/
def Dispatch.awaits : Dispatch → Bool
  | .online | .readTeam | .readServer _ | .readEdges _ _ | .domain _ _ | .assign _ _ _ _
  | .allocate _ => true
  | .bind _ _ | .send _ _ | .fail _ | .halt => false

/-- The point is on the path of the cluster's mode. -/
def Dispatch.OnPath (edge : Bool) : Dispatch → Prop
  | .domain _ edgeEnabled => edgeEnabled = edge
  | .assign _ _ _ edgeEnabled => edgeEnabled = edge
  | .allocate _ => edge = true
  | _ => True

/-- The tables a dispatch never writes are the same. -/
structure SameSetting (w w' : World) : Prop where
  agents : w'.agents = w.agents
  servers : w'.servers = w.servers
  pending : w'.pendingDeploy = w.pendingDeploy

theorem SameSetting.refl (w : World) : SameSetting w w := ⟨rfl, rfl, rfl⟩

theorem SameSetting.trans {a b c : World} (ab : SameSetting a b) (bc : SameSetting b c) :
    SameSetting a c :=
  ⟨bc.agents.trans ab.agents, bc.servers.trans ab.servers, bc.pending.trans ab.pending⟩

theorem SameSetting.listening {w w' : World} (same : SameSetting w w') {agentID : String}
    (listening : Listening w agentID) : Listening w' agentID := by
  rw [Listening, same.agents]
  exact listening

theorem SameSetting.edgeMode {w w' : World} (same : SameSetting w w') (project : Project) :
    edgeMode w' project = edgeMode w project := by
  rw [Deploy.edgeMode, Deploy.edgeMode, World.listEdgeServersByCluster,
    World.listEdgeServersByCluster, same.servers]

theorem sameSetting_updateTarget (w : World) (arg : World.TargetStatusParams) :
    SameSetting w (w.updateDeploymentTargetStatus arg) := by
  unfold World.updateDeploymentTargetStatus
  split
  · exact .refl w
  · exact ⟨rfl, rfl, rfl⟩

/-- Every target row keeps its deployment and its status. -/
def SameStatuses (w w' : World) : Prop :=
  ∀ id, (w'.targets.find? id).map (fun t => (t.deploymentID, t.status)) =
    (w.targets.find? id).map fun t => (t.deploymentID, t.status)

/-- Every target row keeps its deployment and its server, and none is added. -/
def SamePairs (w w' : World) : Prop :=
  ∀ id, (w'.targets.find? id).map (fun t => (t.deploymentID, t.serverID)) =
    (w.targets.find? id).map fun t => (t.deploymentID, t.serverID)

theorem samePairs_refl (w : World) : SamePairs w w := fun _ => rfl

theorem samePairs_updateTarget (w : World) (arg : World.TargetStatusParams) :
    SamePairs w (w.updateDeploymentTargetStatus arg) := by
  unfold World.updateDeploymentTargetStatus
  split
  · exact samePairs_refl w
  · intro id
    simp only [Table.find?_update]
    split
    · rw [Option.map_map]
      rfl
    · rfl

theorem find_updateTarget_ne (w : World) {arg : World.TargetStatusParams} {id : UUID}
    (other : id ≠ arg.id) :
    (w.updateDeploymentTargetStatus arg).targets.find? id = w.targets.find? id := by
  unfold World.updateDeploymentTargetStatus
  split
  · rfl
  · simp only
    rw [Table.find?_update_ne other]

theorem find_updateTarget {w : World} {arg : World.TargetStatusParams} {t : DeploymentTarget}
    {status : TargetStatus} (text : TargetStatus.ofText arg.status = some status)
    (found : w.targets.find? arg.id = some t) :
    ∃ t', (w.updateDeploymentTargetStatus arg).targets.find? arg.id = some t' ∧
      t'.deploymentID = t.deploymentID ∧ t'.status = status := by
  simp only [World.updateDeploymentTargetStatus, text, Table.find?_update_self, found,
    Option.map_some]
  exact ⟨_, rfl, rfl, rfl⟩

/-- What one step of a dispatch did; the mark says whether it sent its command. -/
inductive DispatchEvent (w₀ : World) (job : Job) (w w' : World) :
    Dispatch → Dispatch → Bool → Prop where
  | prepare {point point' : Dispatch} (busy : point.weight = 1) (still : point'.weight = 1)
      (statuses : SameStatuses w w') (sent : w'.sent = w.sent) :
      DispatchEvent w₀ job w w' point point' false
  | refuse {point : Dispatch} {msg : String} (busy : point.weight = 1) (same : w' = w)
      (unreachable : ¬ Reachable w₀ job.project job.member) :
      DispatchEvent w₀ job w w' point (.fail msg) false
  | send {point : Dispatch} {agentID : String} {cmd : DeployCommand} (busy : point.weight = 1)
      (bound : point.awaits = false) (targets : w'.targets = w.targets)
      (sent : w'.sent = w.sent ++ [(agentID, .deployCommand cmd)])
      (about : cmd.targetID = job.target.id) : DispatchEvent w₀ job w w' point .halt true
  | fail {msg error : String}
      (now : w' = w.updateDeploymentTargetStatus
        { id := job.target.id, status := "failed", error := some error }) :
      DispatchEvent w₀ job w w' (.fail msg) .halt false

/-- A step of a dispatch in a world with the setting of the start. -/
structure DispatchSmooth (w₀ : World) (job : Job) (w w' : World) (point point' : Dispatch) :
    Prop where
  event : ∃ sends, DispatchEvent w₀ job w w' point point' sends
  setting : SameSetting w w'
  pairs : SamePairs w w'
  onPath : point'.OnPath (edgeMode w₀ job.project)
  earlier : point'.awaits = true → point.awaits = true
  ports : ∀ serverID,
    serverID ≠ job.member.serverID ∨ (point.awaits = true → point'.awaits = true) →
    HasPort w serverID → HasPort w' serverID

theorem Dispatch.onPath_afterEnv (job : Job) (entries : EnvMap) (platform : String)
    (edge : Bool) : (Dispatch.afterEnv job entries platform edge).OnPath edge := by
  unfold Dispatch.afterEnv
  cases entries with
  | nil => cases edge <;> trivial
  | cons entry rest => rfl

theorem Dispatch.smooth {dns : DnsConfig} {job : Job} {point : Dispatch}
    {effect : World → World} {next : World → Dispatch}
    (edge : point.act dns job = some (effect, next)) {w₀ w : World} (setting : SameSetting w₀ w)
    (onPath : point.OnPath (edgeMode w₀ job.project))
    (free : HasPort w₀ job.member.serverID → point.awaits = true → HasPort w job.member.serverID) :
    DispatchSmooth w₀ job w (effect w) point (next w) := by
  have quiet : ∀ {point' : Dispatch} {w' : World}, point.awaits = true → point.weight = 1 →
      point'.weight = 1 → SameSetting w w' → w'.targets = w.targets → w'.sent = w.sent →
      w'.ports = w.ports → point'.OnPath (edgeMode w₀ job.project) →
      DispatchSmooth w₀ job w w' point point' := by
    intro point' w' early busy still same targets sent ports path
    have statuses : SameStatuses w w' := fun id => by rw [targets]
    have pairs : SamePairs w w' := fun id => by rw [targets]
    refine ⟨⟨_, .prepare busy still statuses sent⟩, same, pairs, path, fun _ => early, ?_⟩
    intro serverID _ held
    simp only [HasPort, World.portTaken, ports] at held ⊢
    exact held
  cases point with
  | online =>
    cases edge
    by_cases online : agentOnline w job.member.serverID.text = true
    · simp only [online, if_true]
      exact quiet rfl rfl rfl (.refl w) rfl rfl rfl trivial
    · simp only [online]
      refine ⟨⟨_, .refuse rfl rfl fun reachable => ?_⟩, .refl w, samePairs_refl w, trivial, fun _ => rfl,
        fun _ _ held => held⟩
      exact online (setting.listening reachable.listening).online
  | readTeam =>
    cases edge
    exact quiet rfl rfl rfl (.refl w) rfl rfl rfl trivial
  | readServer team =>
    cases edge
    exact quiet rfl rfl rfl (.refl w) rfl rfl rfl trivial
  | readEdges team srv =>
    cases edge
    exact quiet rfl rfl rfl (.refl w) rfl rfl rfl (setting.edgeMode job.project)
  | domain platform edgeEnabled =>
    cases edge
    have mode : edgeEnabled = edgeMode w₀ job.project := onPath
    subst mode
    exact quiet rfl rfl (Dispatch.weight_afterEnv _ _ _ _) ⟨rfl, rfl, rfl⟩ rfl rfl rfl
      (Dispatch.onPath_afterEnv _ _ _ _)
  | assign entry rest platform edgeEnabled =>
    cases edge
    have mode : edgeEnabled = edgeMode w₀ job.project := onPath
    subst mode
    exact quiet rfl rfl (Dispatch.weight_afterEnv _ _ _ _) ⟨rfl, rfl, rfl⟩ rfl rfl rfl
      (Dispatch.onPath_afterEnv _ _ _ _)
  | allocate platform =>
    simp only [Dispatch.act, Option.some.injEq, Prod.mk.injEq] at edge
    obtain ⟨rfl, rfl⟩ := edge
    beta_reduce
    obtain full | ⟨port, allocated⟩ := w.allocateServerPort_cases job.member.serverID job.target.id
    · rw [full]
      refine ⟨⟨_, .refuse rfl rfl fun reachable => ?_⟩, .refl w, samePairs_refl w, trivial, fun _ => rfl,
        fun _ _ held => held⟩
      obtain ⟨port, allocated⟩ := (free (reachable.port onPath) rfl).allocate job.target.id
      rw [full] at allocated
      cases congrArg Prod.snd allocated
    · rw [allocated]
      refine ⟨⟨_, .prepare rfl rfl (fun _ => rfl) rfl⟩, ⟨rfl, rfl, rfl⟩, fun _ => rfl, trivial,
        fun _ => rfl, ?_⟩
      intro serverID elsewhere held
      rcases elsewhere with different | late
      · exact (HasPort.other (Ne.symm different) port job.target.id).mpr held
      · cases late rfl
  | bind platform port =>
    cases edge
    refine ⟨⟨_, .prepare rfl rfl ?_ rfl⟩, ⟨rfl, rfl, rfl⟩, ?_, trivial,
      (fun late => by cases late), fun _ _ held => held⟩
    · intro id
      simp only [World.setDeploymentTargetEdge, Table.find?_update]
      split
      · rw [Option.map_map]
        rfl
      · rfl
    · intro id
      simp only [World.setDeploymentTargetEdge, Table.find?_update]
      split
      · rw [Option.map_map]
        rfl
      · rfl
  | send platform labels =>
    cases edge
    beta_reduce
    obtain ⟨err, failed⟩ | sent := sendToAgent_cases job.member.serverID.text
      (Dispatch.message job platform labels w) w
    · rw [failed]
      refine ⟨⟨_, .refuse rfl rfl fun reachable => ?_⟩, .refl w, samePairs_refl w, trivial, (fun late => by cases late),
        fun _ _ held => held⟩
      have arrived := (setting.listening reachable.listening).send
        (Dispatch.message job platform labels w)
      rw [failed] at arrived
      cases congrArg Prod.snd arrived
    · rw [sent]
      exact ⟨⟨_, .send rfl rfl rfl rfl rfl⟩, ⟨rfl, rfl, rfl⟩, fun _ => rfl, trivial,
        (fun late => by cases late), fun _ _ held => held⟩
  | fail msg =>
    cases edge
    refine ⟨⟨_, .fail rfl⟩, sameSetting_updateTarget w _, samePairs_updateTarget w _, trivial,
      (fun late => by cases late), ?_⟩
    intro serverID _ held
    simp only [World.updateDeploymentTargetStatus]
    split <;> exact held
  | halt => cases edge

/-! ## The rows still to be inserted -/

/-- The server a scheduled target is placed on. -/
def placedOn (entry : UUID × ScheduledTarget) : UUID := entry.2.member.serverID

/-- The INSERTs of these targets will succeed. -/
structure Insertable (w : World) (deployID : UUID) (todo : List (UUID × ScheduledTarget)) :
    Prop where
  ids : (todo.map Prod.fst).Nodup
  servers : (todo.map placedOn).Nodup
  fresh : ∀ entry ∈ todo, w.targets.find? entry.1 = none
  known : ∀ entry ∈ todo, (w.servers.find? (placedOn entry)).isSome
  single : ∀ entry ∈ todo, ∀ t ∈ w.targets, t.deploymentID = deployID → t.serverID ≠ placedOn entry

section Insertable

variable {w w' : World} {deployID : UUID} {todo : List (UUID × ScheduledTarget)}

theorem Insertable.nil (w : World) (deployID : UUID) : Insertable w deployID [] :=
  ⟨by simp, by simp, by simp, by simp, by simp⟩

/-- The row the INSERT adds. -/
def insertedRow (deployID : UUID) (entry : UUID × ScheduledTarget) : DeploymentTarget :=
  { id := entry.1, deploymentID := deployID, serverID := placedOn entry }

theorem Insertable.create {targetID : UUID} {scheduled : ScheduledTarget}
    (insertable : Insertable w deployID ((targetID, scheduled) :: todo))
    (deployed : (w.getDeployment deployID).isSome) :
    ∃ rows, w.targets.insert? (insertedRow deployID (targetID, scheduled)) = some rows ∧
      w.createDeploymentTarget targetID deployID scheduled.member.serverID =
        ({ w with targets := rows }, some (insertedRow deployID (targetID, scheduled))) := by
  have missing := Table.find?_eq_none_iff.mp (insertable.fresh _ List.mem_cons_self)
  obtain ⟨rows, inserted⟩ : ∃ rows,
      w.targets.insert? (insertedRow deployID (targetID, scheduled)) = some rows := by
    refine ⟨⟨insertedRow deployID (targetID, scheduled) :: w.targets.rows, ?_⟩,
      Table.insert?_eq_some_iff.mpr ⟨missing, rfl⟩⟩
    rw [List.map_cons, List.nodup_cons]
    refine ⟨fun taken => ?_, w.targets.unique⟩
    obtain ⟨t, member, same⟩ := List.mem_map.mp taken
    exact missing t member same
  refine ⟨rows, inserted, ?_⟩
  have known := insertable.known _ List.mem_cons_self
  have unpaired : (w.targets.rows.any fun r =>
      r.deploymentID = deployID && r.serverID = scheduled.member.serverID) = false := by
    rw [List.any_eq_false]
    intro t member pair
    simp only [Bool.and_eq_true, decide_eq_true_eq] at pair
    exact insertable.single _ List.mem_cons_self t member pair.1 pair.2
  obtain ⟨deployment, deployed⟩ := Option.isSome_iff_exists.mp deployed
  obtain ⟨server, known⟩ := Option.isSome_iff_exists.mp known
  simp only [placedOn] at known
  simp only [World.getDeployment] at deployed
  simp only [insertedRow, placedOn] at inserted
  simp [World.createDeploymentTarget, unpaired, deployed, known, inserted, insertedRow, placedOn]

theorem Insertable.rest {entry : UUID × ScheduledTarget} {rows : Table DeploymentTarget}
    (insertable : Insertable w deployID (entry :: todo))
    (inserted : w.targets.insert? (insertedRow deployID entry) = some rows) :
    Insertable { w with targets := rows } deployID todo := by
  have ids := insertable.ids
  have servers := insertable.servers
  simp only [List.map_cons, List.nodup_cons] at ids servers
  refine ⟨ids.2, servers.2, ?_, ?_, ?_⟩
  · intro other member
    rw [Table.find?_insert? inserted, if_neg]
    · exact insertable.fresh other (List.mem_cons_of_mem entry member)
    · intro same
      exact ids.1 (List.mem_map.mpr ⟨other, member, same.symm⟩)
  · exact fun other member => insertable.known other (List.mem_cons_of_mem entry member)
  · intro other member t inTable ofDeploy
    rcases (Table.mem_insert? inserted).mp inTable with rfl | old
    · intro same
      exact servers.1 (List.mem_map.mpr ⟨other, member, same.symm⟩)
    · exact insertable.single other (List.mem_cons_of_mem entry member) t old ofDeploy

theorem Insertable.keep (insertable : Insertable w deployID todo) (setting : SameSetting w w')
    (pairs : SamePairs w w') : Insertable w' deployID todo := by
  refine ⟨insertable.ids, insertable.servers, ?_, ?_, ?_⟩
  · intro entry member
    have same := pairs entry.1
    rw [insertable.fresh entry member] at same
    exact Option.map_eq_none_iff.mp same
  · intro entry member
    rw [setting.servers]
    exact insertable.known entry member
  · intro entry member t inTable ofDeploy
    have same := pairs (Keyed.key t)
    rw [Table.find?_self inTable] at same
    obtain ⟨t₀, found, pair⟩ := Option.map_eq_some_iff.mp same.symm
    simp only [Prod.mk.injEq] at pair
    rw [← pair.2]
    exact insertable.single entry member t₀ (Table.mem_of_find? found) (pair.1.trans ofDeploy)

end Insertable

/-! ## The smooth rollout -/

namespace Site

/-- The targets the loop has not inserted yet. -/
def todo : Site → List (UUID × ScheduledTarget)
  | .loop _ todo => todo
  | .start _ _ _ rest => rest
  | _ => []

/-- How often the thread will still reserve a port of the server. -/
def awaiting (serverID : UUID) : Site → Nat
  | .loop _ todo => (todo.map placedOn).count serverID
  | .start _ _ scheduled rest =>
    (rest.map placedOn).count serverID + if scheduled.member.serverID = serverID then 1 else 0
  | .dispatch job point => if point.awaits ∧ job.member.serverID = serverID then 1 else 0
  | _ => 0

end Site

/-- The messages a handler has not recorded yet. -/
def Control.messages : Control → List DeployOutput
  | .receive outs => outs
  | .record out _ rest => out :: rest
  | .increment _ rest | .check _ rest | .complete _ rest | .promote _ rest | .fail _ _ rest => rest

/-- A thread of this rollout, which started in the world `w₀`. -/
def Site.InPlay (rollout : Rollout) (w₀ : World) : Site → Prop
  | .loop _ todo => ∀ entry ∈ todo, entry ∈ rollout.launch.targets
  | .start _ target scheduled rest => (target.id, scheduled) ∈ rollout.launch.targets ∧
      ∀ entry ∈ rest, entry ∈ rollout.launch.targets
  | .returned => True
  | .dispatch job point => job.project = rollout.launch.project ∧
      (∃ scheduled, (job.target.id, scheduled) ∈ rollout.launch.targets ∧
        scheduled.member = job.member) ∧
      point.OnPath (edgeMode w₀ rollout.launch.project) ∧
      ∀ msg, point = .fail msg → ¬ Reachable w₀ rollout.launch.project job.member
  | .report targetID point => (∃ scheduled, (targetID, scheduled) ∈ rollout.launch.targets) ∧
      (∀ out ∈ point.messages, out ∈ rollout.replies targetID) ∧
      ∀ out id rest, point = .record out id rest → id = targetID

def awaited (serverID : UUID) (ts : List Site) : Nat := (ts.map (Site.awaiting serverID)).sum

/-- What a rollout keeps of the world it started in. -/
structure Smooth (rollout : Rollout) (deployment : Deployment) (w₀ w : World) (ts : List Site) :
    Prop where
  setting : SameSetting w₀ w
  insertable : ∀ s ∈ ts, Insertable w deployment.id s.todo
  inPlay : ∀ s ∈ ts, s.InPlay rollout w₀
  exclusive : ∀ serverID, awaited serverID ts ≤ 1
  free : ∀ serverID, HasPort w₀ serverID → 0 < awaited serverID ts → HasPort w serverID

/-- A handler's step writes no target row, or the one its message is about. -/
def ReportRows (rollout : Rollout) (targetID : UUID) (w w' : World) : Prop :=
  w'.targets = w.targets ∨ ∃ out ∈ rollout.replies targetID,
    w' = w.updateDeploymentTargetStatus (targetUpdate out targetID w.now)

/-- The counter of the deployment row stays. -/
def SameReady (deployID : UUID) (w w' : World) : Prop :=
  ∀ d, w.getDeployment deployID = some d →
    ∃ d', w'.getDeployment deployID = some d' ∧ d'.replicasReady = d.replicasReady

/-- One step of a smooth rollout: the thread before and after it, and the threads
it brings. -/
inductive Event (rollout : Rollout) (deployment : Deployment) (w₀ w w' : World) :
    Site → Site → List Site → Prop where
  | insert {entry : UUID × ScheduledTarget} {rest : List (UUID × ScheduledTarget)}
      (rows : ∀ id, w'.targets.find? id =
        if entry.1 = id then some (insertedRow deployment.id entry) else w.targets.find? id)
      (ready : SameReady deployment.id w w') :
      Event rollout deployment w₀ w w' (.loop deployment (entry :: rest))
        (.start deployment (insertedRow deployment.id entry) entry.2 rest) []
  | close (targets : w'.targets = w.targets) (ready : SameReady deployment.id w w') :
      Event rollout deployment w₀ w w' (.loop deployment []) .returned []
  | start {target : DeploymentTarget} {scheduled : ScheduledTarget}
      {rest : List (UUID × ScheduledTarget)} (targets : w'.targets = w.targets)
      (ready : SameReady deployment.id w w') :
      Event rollout deployment w₀ w w' (.start deployment target scheduled rest)
        (.loop deployment rest)
        [.dispatch ⟨deployment, target, rollout.launch.build, rollout.launch.app,
          rollout.launch.project, scheduled.member⟩ .online]
  | dispatch {job : Job} {point point' : Dispatch} {sends : Bool}
      (event : DispatchEvent w₀ job w w' point point' sends)
      (ready : SameReady deployment.id w w') :
      Event rollout deployment w₀ w w' (.dispatch job point) (.dispatch job point')
        (if sends then [.report job.target.id (.receive (rollout.replies job.target.id))] else [])
  | report {targetID : UUID} {point point' : Control}
      (move : Move deployment.id (rollout.outcome targetID) w w' point.stage point'.stage)
      (rows : ReportRows rollout targetID w w') :
      Event rollout deployment w₀ w w' (.report targetID point) (.report targetID point') []

section Smooth

variable {rollout : Rollout} {deployment : Deployment} {w₀ w w' : World} {d : Deployment}
  {ts : List Site} {i : Nat} {k k' : Site} {spawned : List Site}

/-- A step keeps the rollout smooth if its own thread and the new ones fit, and it
uses up at most the port its thread was waiting for. -/
theorem Smooth.move (smooth : Smooth rollout deployment w₀ w ts) (here : ts[i]? = some k)
    (setting : SameSetting w w')
    (others : ∀ j s, j ≠ i → ts[j]? = some s → Insertable w' deployment.id s.todo)
    (own : Insertable w' deployment.id k'.todo) (inPlay : k'.InPlay rollout w₀)
    (new : ∀ s ∈ spawned, s.InPlay rollout w₀ ∧ s.todo = [])
    (waits : ∀ serverID, k'.awaiting serverID + awaited serverID spawned ≤ k.awaiting serverID)
    (ports : ∀ serverID, HasPort w serverID → HasPort w' serverID ∨
      0 < k.awaiting serverID ∧ k'.awaiting serverID + awaited serverID spawned = 0) :
    Smooth rollout deployment w₀ w' (ts.set i k' ++ spawned) := by
  have sums : ∀ serverID, awaited serverID (ts.set i k' ++ spawned) + k.awaiting serverID =
      awaited serverID ts + k'.awaiting serverID + awaited serverID spawned := fun serverID =>
    sum_map_set_append (Site.awaiting serverID) here k' spawned
  refine
    { setting := smooth.setting.trans setting
      insertable := ?_
      inPlay := ?_
      exclusive := ?_
      free := ?_ }
  · intro s member
    rcases List.mem_append.mp member with inside | fresh
    · obtain ⟨j, atJ⟩ := List.mem_iff_getElem?.mp inside
      by_cases same : j = i
      · subst same
        obtain ⟨bound, -⟩ := List.getElem?_eq_some_iff.mp here
        rw [List.getElem?_set_self bound] at atJ
        cases atJ
        exact own
      · rw [List.getElem?_set_ne (Ne.symm same)] at atJ
        exact others j s same atJ
    · rw [(new s fresh).2]
      exact .nil w' deployment.id
  · intro s member
    rcases List.mem_append.mp member with inside | fresh
    · rcases List.mem_or_eq_of_mem_set inside with stays | rfl
      · exact smooth.inPlay s stays
      · exact inPlay
    · exact (new s fresh).1
  · intro serverID
    have := sums serverID
    have := waits serverID
    have := smooth.exclusive serverID
    omega
  · intro serverID initially positive
    have sum := sums serverID
    have wait := waits serverID
    have one := smooth.exclusive serverID
    have held := smooth.free serverID initially (by omega)
    rcases ports serverID held with still | ⟨waiting, done⟩
    · exact still
    · omega

theorem sameReady_of_deployments {deployID : UUID} (same : w'.deployments = w.deployments) :
    SameReady deployID w w' := by
  intro d found
  refine ⟨d, ?_, rfl⟩
  rw [World.getDeployment, same]
  exact found

theorem Dispatch.awaiting_le {job : Job} {point point' : Dispatch}
    (earlier : point'.awaits = true → point.awaits = true) (serverID : UUID) :
    (Site.dispatch job point').awaiting serverID ≤ (Site.dispatch job point).awaiting serverID := by
  simp only [Site.awaiting]
  split
  · rename_i later
    rw [if_pos ⟨earlier later.1, later.2⟩]
  · exact Nat.zero_le _

theorem DispatchEvent.started_sent {job : Job} {point point' : Dispatch} {sends : Bool}
    (event : DispatchEvent w₀ job w w' point point' sends) (started : w'.started = w.started) :
    Site.spawn rollout w w' =
      if sends then [.report job.target.id (.receive (rollout.replies job.target.id))] else [] := by
  cases event with
  | prepare busy still statuses sent => exact Site.spawn_none started sent
  | refuse busy same unreachable => subst same; exact Site.spawn_none rfl rfl
  | send busy bound targets sent about =>
    rw [Site.spawn_sent started sent, ← about]
    rfl
  | fail now =>
    refine Site.spawn_none started ?_
    subst now
    simp only [World.updateDeploymentTargetStatus]
    split <;> rfl

/-- A dispatch step of a smooth rollout. -/
theorem Smooth.dispatchStep (smooth : Smooth rollout deployment w₀ w ts) {job : Job}
    {point point' : Dispatch} (here : ts[i]? = some (.dispatch job point))
    (step : DispatchSmooth w₀ job w w' point point')
    (row : DispatchStep job deployment.id point point' w w') :
    Smooth rollout deployment w₀ w' (ts.set i (.dispatch job point') ++ Site.spawn rollout w w') ∧
      Event rollout deployment w₀ w w' (.dispatch job point) (.dispatch job point')
        (Site.spawn rollout w w') := by
  obtain ⟨sends, event⟩ := step.event
  obtain ⟨ofProject, ofLaunch, -, -⟩ := smooth.inPlay _ (List.mem_of_getElem? here)
  have ready : SameReady deployment.id w w' := by
    intro d found
    obtain ⟨d', found', alike⟩ := row.row d found
    exact ⟨d', found', alike.ready⟩
  have reports : ∀ serverID, awaited serverID
      (if sends then [Site.report job.target.id (.receive (rollout.replies job.target.id))]
        else []) = 0 := by
    intro serverID
    cases sends <;> rfl
  rw [event.started_sent row.started]
  refine ⟨smooth.move here step.setting ?_ (.nil w' deployment.id) ⟨ofProject, ofLaunch, ?_, ?_⟩
    ?_ ?_ ?_, .dispatch event ready⟩
  · intro j s _ atJ
    exact (smooth.insertable s (List.mem_of_getElem? atJ)).keep step.setting step.pairs
  · rw [← ofProject]
    exact step.onPath
  · intro msg failing
    rw [← ofProject]
    cases event with
    | prepare busy still statuses sent =>
      subst failing
      cases still
    | refuse busy same unreachable => exact unreachable
    | send busy bound targets sent about => cases failing
    | fail now => cases failing
  · intro s member
    cases sends with
    | false => simp at member
    | true =>
      simp only [if_true, List.mem_singleton] at member
      subst member
      obtain ⟨scheduled, inLaunch, -⟩ := ofLaunch
      exact ⟨⟨⟨scheduled, inLaunch⟩, fun out inside => inside, by simp⟩, rfl⟩
  · intro serverID
    rw [reports serverID]
    exact Dispatch.awaiting_le step.earlier serverID
  · intro serverID held
    rw [reports serverID]
    by_cases elsewhere :
        serverID ≠ job.member.serverID ∨ (point.awaits = true → point'.awaits = true)
    · exact .inl (step.ports serverID elsewhere held)
    · simp only [ne_eq, not_or, not_not, Classical.not_imp, Bool.not_eq_true] at elsewhere
      obtain ⟨rfl, early, late⟩ := elsewhere
      exact .inr ⟨by simp [Site.awaiting, early], by simp [Site.awaiting, late]⟩

/-- A handler's step leaves everything but its rows alone, and goes on to the
messages it has left. -/
structure ReportStep (rollout : Rollout) (targetID : UUID) (w w' : World)
    (point' : Control) : Prop where
  setting : SameSetting w w'
  pairs : SamePairs w w'
  ports : w'.ports = w.ports
  rows : ReportRows rollout targetID w w'
  messages : ∀ out ∈ point'.messages, out ∈ rollout.replies targetID
  recorded : ∀ out id rest, point' = .record out id rest → id = targetID

theorem ReportStep.quiet {targetID : UUID} {point' : Control} (setting : SameSetting w w')
    (targets : w'.targets = w.targets) (ports : w'.ports = w.ports)
    (messages : ∀ out ∈ point'.messages, out ∈ rollout.replies targetID)
    (recorded : ∀ out id rest, point' = .record out id rest → id = targetID) :
    ReportStep rollout targetID w w' point' :=
  ⟨setting, fun id => by rw [targets], ports, .inl targets, messages, recorded⟩

theorem Control.messages_afterRecord (out : DeployOutput) (rest : List DeployOutput) :
    (Control.afterRecord out rest).messages = rest ∧
      ∀ out' id rest', Control.afterRecord out rest ≠ .record out' id rest' := by
  unfold Control.afterRecord
  cases out.finished with
  | false => exact ⟨rfl, fun _ _ _ same => nomatch same⟩
  | true =>
    cases out.deployID with
    | none => exact ⟨rfl, fun _ _ _ same => nomatch same⟩
    | some deployID =>
      cases out.success with
      | false => exact ⟨rfl, fun _ _ _ same => nomatch same⟩
      | true => exact ⟨rfl, fun _ _ _ same => nomatch same⟩

theorem Control.messages_afterCheck (deployID : UUID) (rest : List DeployOutput) (w : World) :
    (Control.afterCheck deployID rest w).messages = rest ∧
      ∀ out' id rest', Control.afterCheck deployID rest w ≠ .record out' id rest' := by
  unfold Control.afterCheck
  cases w.getDeployment deployID with
  | none => exact ⟨rfl, fun _ _ _ same => nomatch same⟩
  | some d =>
    dsimp only
    by_cases ready : d.replicasDesired ≤ d.replicasReady
    · rw [if_pos ready]
      exact ⟨rfl, fun _ _ _ same => nomatch same⟩
    · rw [if_neg ready]
      exact ⟨rfl, fun _ _ _ same => nomatch same⟩

theorem Control.report_spec (shaped : AgentReplies deployment.id rollout.replies)
    {targetID : UUID} {point : Control} {effect : World → World} {next : World → Control}
    (edge : point.act = some (effect, next))
    (messages : ∀ out ∈ point.messages, out ∈ rollout.replies targetID)
    (recorded : ∀ out id rest, point = .record out id rest → id = targetID) (w : World) :
    ReportStep rollout targetID w (effect w) (next w) := by
  cases point with
  | receive outs =>
    cases outs with
    | nil => cases edge
    | cons out rest =>
      cases edge
      have ofTarget := (shaped.about targetID out (messages out List.mem_cons_self)).2
      have later : ∀ o ∈ rest, o ∈ rollout.replies targetID := fun o member =>
        messages o (List.mem_cons_of_mem out member)
      simp only [Control.afterReceive, ofTarget]
      by_cases claimed : databaseClaims out w = true
      · rw [if_pos claimed]
        exact .quiet (.refl w) rfl rfl later (fun _ _ _ same => by cases same)
      · rw [if_neg claimed]
        refine .quiet (.refl w) rfl rfl messages fun o id r same => ?_
        cases same
        rfl
  | record out id rest =>
    cases edge
    obtain rfl : id = targetID := recorded out id rest rfl
    obtain ⟨left, done⟩ := Control.messages_afterRecord out rest
    refine ⟨sameSetting_updateTarget w _, samePairs_updateTarget w _, ?_, .inr ?_, ?_, ?_⟩
    · simp only [World.updateDeploymentTargetStatus]
      split <;> rfl
    · exact ⟨out, messages out List.mem_cons_self, rfl⟩
    · rw [left]
      exact fun o member => messages o (List.mem_cons_of_mem out member)
    · exact fun o id' r same => absurd same (done o id' r)
  | check deployID rest =>
    cases edge
    obtain ⟨left, done⟩ := Control.messages_afterCheck deployID rest w
    refine .quiet (.refl w) rfl rfl ?_ fun o id r same => absurd same (done o id r)
    rw [left]
    exact messages
  | increment deployID rest =>
    cases edge
    exact .quiet ⟨rfl, rfl, rfl⟩ rfl rfl messages (fun _ _ _ same => by cases same)
  | complete deployID rest =>
    cases edge
    exact .quiet ⟨rfl, rfl, rfl⟩ rfl rfl messages (fun _ _ _ same => by cases same)
  | promote deployID rest =>
    cases edge
    exact .quiet ⟨rfl, rfl, rfl⟩ rfl rfl messages (fun _ _ _ same => by cases same)
  | fail deployID error rest =>
    cases edge
    exact .quiet ⟨rfl, rfl, rfl⟩ rfl rfl messages (fun _ _ _ same => by cases same)

theorem Move.spawn_none {deployID : UUID} {outcome : Option Bool} {s s' : Stage}
    (move : Move deployID outcome w w' s s') (sent : w'.sent = w.sent) :
    Site.spawn rollout w w' = [] := by
  cases move with
  | start ok now =>
    rw [Site.spawn_started (by rw [now]) sent]
    rfl
  | count ok now => exact Site.spawn_none (by rw [now]; rfl) sent
  | finish ok now => exact Site.spawn_none (by rw [now]; rfl) sent
  | abandon bad error now => exact Site.spawn_none (by rw [now]; rfl) sent
  | listen same => exact Site.spawn_none same.started sent
  | claimed pending same => exact Site.spawn_none same.started sent
  | silent never same => exact Site.spawn_none same.started sent
  | succeed ok same => exact Site.spawn_none same.started sent
  | abort bad same => exact Site.spawn_none same.started sent
  | enough ok same ready => exact Site.spawn_none same.started sent
  | wait ok same short => exact Site.spawn_none same.started sent

/-- A handler's step of a smooth rollout. -/
theorem Smooth.reportStep (smooth : Smooth rollout deployment w₀ w ts) {targetID : UUID}
    {point point' : Control} (here : ts[i]? = some (.report targetID point))
    (step : ReportStep rollout targetID w w' point') (sent : w'.sent = w.sent)
    (move : Move deployment.id (rollout.outcome targetID) w w' point.stage point'.stage) :
    Smooth rollout deployment w₀ w'
        (ts.set i (.report targetID point') ++ Site.spawn rollout w w') ∧
      Event rollout deployment w₀ w w' (.report targetID point) (.report targetID point')
        (Site.spawn rollout w w') := by
  rw [move.spawn_none sent]
  have ofLaunch := (smooth.inPlay _ (List.mem_of_getElem? here)).1
  refine ⟨smooth.move here step.setting ?_ (.nil w' deployment.id)
    ⟨ofLaunch, step.messages, step.recorded⟩ (by simp) (fun _ => Nat.zero_le _) ?_,
    .report move step.rows⟩
  · intro j s _ atJ
    exact (smooth.insertable s (List.mem_of_getElem? atJ)).keep step.setting step.pairs
  · intro serverID held
    left
    simp only [HasPort, World.portTaken, step.ports]
    exact held

theorem todo_eq_nil {s : Site} (notLoop : ¬ s.IsLoop) : s.todo = [] := by
  cases s with
  | loop d todo => exact absurd trivial notLoop
  | start d target scheduled rest => exact absurd trivial notLoop
  | _ => rfl

/-- **One step of a smooth rollout** keeps it smooth and is one of the events. -/
theorem Smooth.step (shaped : AgentReplies deployment.id rollout.replies)
    (smooth : Smooth rollout deployment w₀ w ts) (budget : Budget rollout deployment w d ts)
    (here : ts[i]? = some k) {effect : World → World} {next : World → Site}
    (edge : Site.act rollout k = some (effect, next)) :
    Smooth rollout deployment w₀ (effect w)
        (ts.set i (next w) ++ Site.spawn rollout w (effect w)) ∧
      Event rollout deployment w₀ w (effect w) k (next w) (Site.spawn rollout w (effect w)) := by
  have fits := budget.fits k (List.mem_of_getElem? here)
  have inPlay := smooth.inPlay k (List.mem_of_getElem? here)
  cases k with
  | loop d₀ todo =>
    obtain rfl : d₀ = deployment := fits
    cases todo with
    | nil =>
      cases edge
      have quiet : Site.spawn rollout w
          (w.updateDeploymentStatus d₀.id .deploying (some w.now) none) = [] :=
        Site.spawn_none rfl rfl
      rw [quiet]
      refine ⟨smooth.move here ⟨rfl, rfl, rfl⟩ ?_ (.nil _ d₀.id) trivial (by simp)
        (fun _ => Nat.zero_le _) fun _ held => .inl held, .close rfl ?_⟩
      · intro j s _ atJ
        exact (smooth.insertable s (List.mem_of_getElem? atJ)).keep ⟨rfl, rfl, rfl⟩ fun _ => rfl
      · intro row found
        let closed : Deployment :=
          { row with
            status := .deploying
            startedAt := row.startedAt.or (some w.now)
            error := none }
        refine ⟨closed, ?_, rfl⟩
        beta_reduce
        rw [World.getDeployment, World.updateDeploymentStatus, Table.find?_update_self]
        exact congrArg _ found
    | cons entry rest =>
      obtain ⟨targetID, scheduled⟩ := entry
      have insertable := smooth.insertable _ (List.mem_of_getElem? here)
      have deployed : (w.getDeployment d₀.id).isSome := by rw [budget.found]; rfl
      obtain ⟨rows, inserted, created⟩ := insertable.create deployed
      cases edge
      beta_reduce
      rw [created]
      have quiet : Site.spawn rollout w { w with targets := rows } = [] :=
        Site.spawn_none rfl rfl
      rw [quiet]
      refine ⟨smooth.move here ⟨rfl, rfl, rfl⟩ ?_ (insertable.rest inserted) ⟨?_, ?_⟩
        (by simp) ?_ fun _ held => .inl held, .insert ?_ (sameReady_of_deployments rfl)⟩
      · intro j s other atJ
        -- The loop sits at position 0, and no other thread inserts.
        have first := budget.loop i _ here trivial
        have notLoop : ¬ s.IsLoop := by
          intro isLoop
          exact other ((budget.loop j s atJ isLoop).trans first.symm)
        rw [todo_eq_nil notLoop]
        exact .nil _ d₀.id
      · exact inPlay (targetID, scheduled) List.mem_cons_self
      · exact fun entry member => inPlay entry (List.mem_cons_of_mem _ member)
      · intro serverID
        simp only [Site.awaiting, awaited, placedOn, List.map_cons, List.count_cons, List.map_nil,
          List.sum_nil, beq_iff_eq]
        omega
      · exact fun id => Table.find?_insert? inserted id
  | start d₀ target scheduled rest =>
    obtain rfl : d₀ = deployment := fits
    cases edge
    have handed : Site.spawn rollout w
        { w with started := w.started ++ [Site.goroutine rollout d₀ target scheduled] } =
        Site.ofGoroutine (Site.goroutine rollout d₀ target scheduled) :=
      Site.spawn_started rfl rfl
    have thread : Site.ofGoroutine (Site.goroutine rollout d₀ target scheduled) =
        [.dispatch ⟨d₀, target, rollout.launch.build, rollout.launch.app,
          rollout.launch.project, scheduled.member⟩ .online] := rfl
    rw [handed, thread]
    refine ⟨smooth.move here ⟨rfl, rfl, rfl⟩ ?_ ?_ inPlay.2 ?_ ?_ fun _ held => .inl held,
      .start rfl (sameReady_of_deployments rfl)⟩
    · intro j s _ atJ
      exact (smooth.insertable s (List.mem_of_getElem? atJ)).keep ⟨rfl, rfl, rfl⟩ fun _ => rfl
    · have insertable := smooth.insertable _ (List.mem_of_getElem? here)
      exact insertable.keep ⟨rfl, rfl, rfl⟩ fun _ => rfl
    · intro s member
      rw [List.mem_singleton] at member
      subst member
      exact ⟨⟨rfl, ⟨scheduled, inPlay.1, rfl⟩, trivial, (fun _ same => by cases same)⟩, rfl⟩
    · intro serverID
      simp only [Site.awaiting, awaited, List.map_cons, List.map_nil, List.sum_cons, List.sum_nil,
        Dispatch.awaits, true_and]
      omega
  | returned => cases edge
  | dispatch job point =>
    obtain ⟨⟨effect', next'⟩, edge', same⟩ := Option.map_eq_some_iff.mp edge
    cases same
    obtain ⟨ofProject, -, onPath, -⟩ := inPlay
    refine smooth.dispatchStep here (Dispatch.smooth edge' smooth.setting ?_ ?_)
      (Dispatch.step_spec edge' deployment.id w)
    · rw [ofProject]
      exact onPath
    · intro initially early
      apply smooth.free job.member.serverID initially
      have counted : (Site.dispatch job point).awaiting job.member.serverID = 1 := by
        simp [Site.awaiting, early]
      have sum := sum_map_set_append (Site.awaiting job.member.serverID) here .returned []
      simp only [awaited]
      rw [counted] at sum
      have : 0 < 1 := Nat.one_pos
      simp only [Site.awaiting, List.map_nil, List.sum_nil] at sum
      omega
  | report targetID point =>
    obtain ⟨⟨effect', next'⟩, edge', same⟩ := Option.map_eq_some_iff.mp edge
    cases same
    obtain ⟨-, move⟩ := Control.moves fits edge' w
    exact smooth.reportStep here (Control.report_spec shaped edge' inPlay.2.1 inPlay.2.2 w)
      (Control.sent_eq edge' w) move

end Smooth

/-! ## What a run owes -/

section Debts

variable {rollout : Rollout} {deployment : Deployment} {w₀ w w' : World} {d d' : Deployment}
  {ts : List Site} {i : Nat} {k k' : Site} {spawned : List Site}

theorem scheduled_unique {targets : List (UUID × ScheduledTarget)}
    (ids : (targets.map Prod.fst).Nodup) {id : UUID} {a b : ScheduledTarget}
    (first : (id, a) ∈ targets) (second : (id, b) ∈ targets) : a = b := by
  have same : ((id, a) : UUID × ScheduledTarget) = (id, b) :=
    List.inj_on_of_nodup_map ids first second rfl
  exact congrArg Prod.snd same

/-- A dispatch to a reachable target never fails. -/
theorem Smooth.no_fail (smooth : Smooth rollout deployment w₀ w ts)
    (ids : (rollout.launch.targets.map Prod.fst).Nodup) {f : UUID × ScheduledTarget}
    (member : f ∈ rollout.launch.targets)
    (reachable : Reachable w₀ rollout.launch.project f.2.member) {job : Job} {point : Dispatch}
    (inside : Site.dispatch job point ∈ ts) (ofTarget : job.target.id = f.1) :
    Reachable w₀ job.project job.member ∧ ∀ msg, point ≠ .fail msg := by
  obtain ⟨ofProject, ⟨scheduled, inLaunch, placed⟩, -, failing⟩ := smooth.inPlay _ inside
  rw [ofTarget] at inLaunch
  obtain rfl : scheduled = f.2 := scheduled_unique ids inLaunch member
  rw [← placed, ofProject]
  refine ⟨reachable, fun msg fails => ?_⟩
  have := failing msg fails
  rw [← placed] at this
  exact this reachable

/-- The thread will still bring the failure that target `f` reports. -/
def Site.Owes (f : UUID × ScheduledTarget) : Site → Prop
  | .loop _ todo => f ∈ todo
  | .start _ target scheduled rest => (target.id, scheduled) = f ∨ f ∈ rest
  | .returned => False
  | .dispatch job point => job.target.id = f.1 ∧ point.weight = 1
  | .report targetID point => targetID = f.1 ∧ (point.stage = .reporting ∨ point.stage = .fail)

/-- A debt is passed on, or paid with the status 'failed'. -/
theorem Event.owes (event : Event rollout deployment w₀ w w' k k' spawned)
    (smooth : Smooth rollout deployment w₀ w ts) (budget : Budget rollout deployment w d ts)
    (here : ts[i]? = some k) (shaped : AgentReplies deployment.id rollout.replies)
    (unclaimed : deployment.id ∉ w₀.pendingDeploy)
    (ids : (rollout.launch.targets.map Prod.fst).Nodup) {f : UUID × ScheduledTarget}
    (member : f ∈ rollout.launch.targets)
    (reachable : Reachable w₀ rollout.launch.project f.2.member)
    (bad : rollout.outcome f.1 = some false) (owes : k.Owes f) :
    (∃ s ∈ k' :: spawned, s.Owes f) ∨
      ∃ e, w'.getDeployment deployment.id = some e ∧ Terminal e := by
  cases event with
  | insert rows ready =>
    left
    rcases List.mem_cons.mp owes with first | later
    · exact ⟨_, List.mem_cons_self, .inl first.symm⟩
    · exact ⟨_, List.mem_cons_self, .inr later⟩
  | close targets ready => exact absurd owes List.not_mem_nil
  | start targets ready =>
    left
    rcases owes with own | later
    · refine ⟨_, List.mem_cons_of_mem _ List.mem_cons_self, ?_, rfl⟩
      rw [← own]
    · exact ⟨_, List.mem_cons_self, later⟩
  | dispatch event ready =>
    left
    have safe := smooth.no_fail ids member reachable (List.mem_of_getElem? here) owes.1
    cases event with
    | prepare busy still statuses sent => exact ⟨_, List.mem_cons_self, owes.1, still⟩
    | refuse busy same unreachable => exact absurd safe.1 unreachable
    | send busy bound targets sent about =>
      refine ⟨_, List.mem_cons_of_mem _ List.mem_cons_self, owes.1, .inl ?_⟩
      rw [owes.1]
      have pending := shaped.pending f.1
      obtain ⟨-, never⟩ | reporting := pending.stage_receive
      · have : rollout.outcome f.1 = none := never
        rw [bad] at this
        cases this
      · exact reporting
    | fail now => exact absurd rfl (safe.2 _)
  | report move rows =>
    rename_i targetID point point'
    obtain ⟨ofTarget, stage⟩ := owes
    subst ofTarget
    rw [bad] at move
    generalize leaves : point.stage = s at move
    generalize enters : point'.stage = s' at move
    cases move with
    | listen same => exact .inl ⟨_, List.mem_cons_self, rfl, .inl enters⟩
    | claimed pending same =>
      rw [smooth.setting.pending] at pending
      exact absurd pending unclaimed
    | silent never same => cases never
    | succeed ok same => cases ok
    | abort bad same => exact .inl ⟨_, List.mem_cons_self, rfl, .inr enters⟩
    | count ok now => cases ok
    | enough ok same ready => cases ok
    | wait ok same short => cases ok
    | finish ok now => cases ok
    | start ok now => cases ok
    | abandon bad error now =>
      right
      subst now
      exact ⟨_, find_complete budget.found .failed (some error), .inr rfl⟩

/-- The unfinished phases of an agent leave its target unsettled. -/
def AgentPhases (replies : UUID → List DeployOutput) : Prop :=
  ∀ targetID, ∀ out ∈ replies targetID, out.finished = false →
    ∀ status, TargetStatus.ofText out.phase = some status → ¬ SettledTarget status

/-- The row of target `u` is there and not settled. -/
def Unsettled (deployID : UUID) (u : UUID) (w : World) : Prop :=
  ∃ t, w.targets.find? u = some t ∧ t.deploymentID = deployID ∧ ¬ SettledTarget t.status

theorem unfinished_of_silent {outs : List DeployOutput} (silent : reportedOutcome outs = none)
    (ordered : ∀ out ∈ outs.dropLast, out.finished = false) :
    ∀ out ∈ outs, out.finished = false := by
  intro out member
  rcases List.eq_nil_or_concat outs with rfl | ⟨front, last, rfl⟩
  · cases member
  · simp only [reportedOutcome, List.concat_eq_append, List.getLast?_append, List.getLast?_singleton,
      Option.some_or] at silent
    have split : out ∈ front ∨ out = last := by simpa using member
    rcases split with inFront | rfl
    · exact ordered out (by simpa using inFront)
    · by_contra finished
      simp [finished] at silent

/-- A target whose agent never finishes is still to be inserted, or unsettled. -/
theorem Event.unsettled (event : Event rollout deployment w₀ w w' k k' spawned)
    (smooth : Smooth rollout deployment w₀ w ts) (here : ts[i]? = some k)
    (shaped : AgentReplies deployment.id rollout.replies) (phases : AgentPhases rollout.replies)
    (ids : (rollout.launch.targets.map Prod.fst).Nodup) {u : UUID × ScheduledTarget}
    (member : u ∈ rollout.launch.targets)
    (reachable : Reachable w₀ rollout.launch.project u.2.member)
    (silent : rollout.outcome u.1 = none)
    (waiting : u ∈ k.todo ∨ Unsettled deployment.id u.1 w) :
    u ∈ k'.todo ∨ Unsettled deployment.id u.1 w' := by
  have keeps : (∀ id, (w'.targets.find? id).map (fun t => (t.deploymentID, t.status)) =
      (w.targets.find? id).map fun t => (t.deploymentID, t.status)) →
      Unsettled deployment.id u.1 w → Unsettled deployment.id u.1 w' := by
    rintro same ⟨t, found, ofDeploy, unsettled⟩
    have row := same u.1
    rw [found] at row
    obtain ⟨t', found', fields⟩ := Option.map_eq_some_iff.mp row
    simp only [Prod.mk.injEq] at fields
    exact ⟨t', found', fields.1.trans ofDeploy, by rw [fields.2]; exact unsettled⟩
  cases event with
  | insert rows ready =>
    rename_i entry rest
    by_cases same : entry.1 = u.1
    · right
      refine ⟨insertedRow deployment.id entry, by rw [rows, if_pos same], rfl, ?_⟩
      simp [SettledTarget, insertedRow]
    · rcases waiting with listed | ⟨t, found, rest⟩
      · left
        rcases List.mem_cons.mp listed with first | later
        · exact absurd (congrArg Prod.fst first.symm) same
        · exact later
      · right
        exact ⟨t, by rw [rows, if_neg same]; exact found, rest⟩
  | close targets ready =>
    rcases waiting with listed | unsettled
    · cases listed
    · exact .inr (keeps (fun id => by rw [targets]) unsettled)
  | start targets ready =>
    rcases waiting with listed | unsettled
    · exact .inl listed
    · exact .inr (keeps (fun id => by rw [targets]) unsettled)
  | dispatch event ready =>
    right
    have unsettled := waiting.resolve_left List.not_mem_nil
    cases event with
    | prepare busy still statuses sent => exact keeps statuses unsettled
    | refuse busy same unreachable => rw [same]; exact unsettled
    | send busy bound targets sent about => exact keeps (fun id => by rw [targets]) unsettled
    | fail now =>
      rename_i job msg error
      obtain ⟨t, found, ofDeploy, status⟩ := unsettled
      refine ⟨t, ?_, ofDeploy, status⟩
      have other : u.1 ≠ job.target.id := by
        intro same
        have safe := smooth.no_fail ids member reachable (List.mem_of_getElem? here) same.symm
        exact safe.2 _ rfl
      subst now
      rw [find_updateTarget_ne w other]
      exact found
  | report move rows =>
    rename_i targetID point point'
    right
    have unsettled := waiting.resolve_left List.not_mem_nil
    rcases rows with targets | ⟨out, inReplies, now⟩
    · exact keeps (fun id => by rw [targets]) unsettled
    · obtain ⟨t, found, ofDeploy, status⟩ := unsettled
      subst now
      by_cases own : u.1 = targetID
      · -- Its own message is an unfinished phase, or the CHECK refuses it.
        subst own
        have unfinished := unfinished_of_silent silent (shaped.ordered u.1) out inReplies
        cases text : TargetStatus.ofText out.phase with
        | none =>
          refine ⟨t, ?_, ofDeploy, status⟩
          simp only [World.updateDeploymentTargetStatus, targetUpdate, text]
          exact found
        | some newStatus =>
          have written : ∃ t',
              (w.updateDeploymentTargetStatus (targetUpdate out u.1 w.now)).targets.find? u.1 =
                some t' ∧ t'.deploymentID = t.deploymentID ∧ t'.status = newStatus :=
            find_updateTarget text found
          obtain ⟨t', found', sameDeploy, rfl⟩ := written
          exact ⟨t', found', sameDeploy.trans ofDeploy,
            phases u.1 out inReplies unfinished t'.status text⟩
      · refine ⟨t, ?_, ofDeploy, status⟩
        have other : u.1 ≠ (targetUpdate out targetID w.now).id := own
        rw [find_updateTarget_ne w other]
        exact found

/-- A handler that has counted its success and may complete the deployment. -/
def Site.Checking : Site → Prop
  | .report _ point => point.stage = .check ∨ point.stage = .complete
  | _ => False

/-- Every replica is counted or still to come, and once all are counted the
deployment is being completed or is terminal. -/
structure Exact (rollout : Rollout) (d : Deployment) (ts : List Site) : Prop where
  counted : d.replicasReady + remaining ts = rollout.replicas
  finishing : (rollout.replicas : Int) ≤ d.replicasReady → (∃ s ∈ ts, s.Checking) ∨ Terminal d

theorem Exact.move (exact_ : Exact rollout d ts) (here : ts[i]? = some k)
    (counts : d'.replicasReady + k'.weight + remaining spawned = d.replicasReady + k.weight)
    (lasts : Terminal d → Terminal d')
    (finishing : (rollout.replicas : Int) ≤ d'.replicasReady →
      k'.Checking ∨ Terminal d' ∨ ¬ k.Checking ∧ d'.replicasReady = d.replicasReady) :
    Exact rollout d' (ts.set i k' ++ spawned) := by
  have sum := remaining_set here k' spawned
  have before := exact_.counted
  refine ⟨by omega, fun reached => ?_⟩
  rcases finishing reached with checking | terminal | ⟨notChecking, same⟩
  · exact .inl ⟨k', List.mem_append_left _ (mem_set_new here k'), checking⟩
  · exact .inr terminal
  · rcases exact_.finishing (by omega) with ⟨s, member, checking⟩ | terminal
    · rcases mem_set_or_eq here member k' with rfl | stays
      · exact absurd checking notChecking
      · exact .inl ⟨s, List.mem_append_left _ stays, checking⟩
    · exact .inr (lasts terminal)

theorem SameReady.eq {deployID : UUID} (ready : SameReady deployID w w')
    (found : w.getDeployment deployID = some d) (found' : w'.getDeployment deployID = some d') :
    d'.replicasReady = d.replicasReady := by
  obtain ⟨e, foundE, same⟩ := ready d found
  rw [Option.some.inj (found'.symm.trans foundE)]
  exact same

/-- With every command delivered and every report a success, each step is exact. -/
theorem Event.exact (event : Event rollout deployment w₀ w w' k k' spawned)
    (smooth : Smooth rollout deployment w₀ w ts) (budget : Budget rollout deployment w d ts)
    (here : ts[i]? = some k) (found' : w'.getDeployment deployment.id = some d')
    (lasts : Terminal d → Terminal d') (shaped : AgentReplies deployment.id rollout.replies)
    (unclaimed : deployment.id ∉ w₀.pendingDeploy)
    (delivered : ∀ f ∈ rollout.launch.targets, Reachable w₀ rollout.launch.project f.2.member)
    (ids : (rollout.launch.targets.map Prod.fst).Nodup)
    (succeeds : ∀ f ∈ rollout.launch.targets, rollout.outcome f.1 = some true)
    (exact_ : Exact rollout d ts) : Exact rollout d' (ts.set i k' ++ spawned) := by
  have quiet : ¬ k.Checking → SameReady deployment.id w w' →
      k'.weight + remaining spawned = k.weight → Exact rollout d' (ts.set i k' ++ spawned) := by
    intro notChecking ready weights
    have same := ready.eq budget.found found'
    exact exact_.move here (by omega) lasts fun _ => .inr (.inr ⟨notChecking, same⟩)
  cases event with
  | insert rows ready => exact quiet id ready (by simp [Site.weight, remaining])
  | close targets ready => exact quiet id ready (by simp [Site.weight, remaining])
  | start targets ready =>
    exact quiet id ready (by simp [Site.weight, remaining, Dispatch.weight])
  | dispatch event ready =>
    rename_i job point point' sends
    obtain ⟨-, ⟨scheduled, inLaunch, -⟩, -, -⟩ := smooth.inPlay _ (List.mem_of_getElem? here)
    have safe := smooth.no_fail ids inLaunch (delivered _ inLaunch) (List.mem_of_getElem? here) rfl
    cases event with
    | prepare busy still statuses sent =>
      exact quiet id ready (by simp [Site.weight, remaining, busy, still])
    | refuse busy same unreachable => exact absurd safe.1 unreachable
    | send busy bound targets sent about =>
      have pending := shaped.pending job.target.id
      have stage : (Control.receive (rollout.replies job.target.id)).stage = .reporting := by
        obtain ⟨-, never⟩ | reporting := pending.stage_receive
        · have ok := succeeds _ inLaunch
          rw [Rollout.outcome, never] at ok
          cases ok
        · exact reporting
      refine quiet id ready ?_
      simp only [Site.weight, remaining, if_true, List.map_cons, List.map_nil, List.sum_cons,
        List.sum_nil, stage, Stage.pastIncrement, busy]
      rfl
    | fail now => exact absurd rfl (safe.2 _)
  | report move rows =>
    rename_i targetID point point'
    obtain ⟨⟨scheduled, inLaunch⟩, -, -⟩ := smooth.inPlay _ (List.mem_of_getElem? here)
    rw [succeeds _ inLaunch] at move
    generalize leaves : point.stage = s at move
    generalize enters : point'.stage = s' at move
    have same : SameRow deployment.id w w' → SameReady deployment.id w w' := by
      intro row e found
      exact ⟨e, by rw [row.deployment]; exact found, rfl⟩
    cases move with
    | listen row =>
      exact quiet (by simp [Site.Checking, leaves]) (same row)
        (by simp [Site.weight, remaining, leaves, enters, Stage.pastIncrement])
    | claimed pending row =>
      rw [smooth.setting.pending] at pending
      exact absurd pending unclaimed
    | silent never row => cases never
    | succeed ok row =>
      exact quiet (by simp [Site.Checking, leaves]) (same row)
        (by simp [Site.weight, remaining, leaves, enters, Stage.pastIncrement])
    | abort bad row => cases bad
    | count ok now =>
      subst now
      have row := find_increment budget.found
      rw [found'] at row
      cases row
      refine exact_.move here ?_ lasts fun _ => .inl (.inl enters)
      simp [Site.weight, remaining, leaves, enters, Stage.pastIncrement]
    | enough ok row ready =>
      have ready := (same row).eq budget.found found'
      refine exact_.move here ?_ lasts fun _ => .inl (.inr enters)
      simp [Site.weight, remaining, leaves, enters, Stage.pastIncrement, ready]
    | wait ok row short =>
      have ready := (same row).eq budget.found found'
      have few := short d budget.found
      refine exact_.move here ?_ lasts fun reached => ?_
      · simp [Site.weight, remaining, leaves, enters, Stage.pastIncrement, ready]
      · have := budget.desired
        omega
    | finish ok now =>
      subst now
      have row := find_complete budget.found .healthy none
      rw [found'] at row
      cases row
      refine exact_.move here ?_ lasts fun _ => .inr (.inl (.inl rfl))
      simp [Site.weight, remaining, leaves, enters, Stage.pastIncrement]
    | start ok now =>
      subst now
      obtain rfl : d = d' := Option.some.inj (budget.found.symm.trans found')
      refine exact_.move here ?_ lasts fun _ => .inr (.inr ⟨by simp [Site.Checking, leaves], rfl⟩)
      simp [Site.weight, remaining, leaves, enters, Stage.pastIncrement]
    | abandon bad error now => cases bad

end Debts

/-! ## Runs that settle -/

section Runs

variable {rollout : Rollout} {deployment : Deployment} {w : World}

/-- What the code around `TriggerDeploy` and the agents provide: at least one
target, INSERTs that succeed, an id no database provision waits for, and messages
shaped as the agent sends them. -/
structure Provided (rollout : Rollout) (deployment : Deployment) (w : World) : Prop where
  some_ : rollout.launch.targets ≠ []
  insertable : Insertable w deployment.id rollout.launch.targets
  unclaimed : deployment.id ∉ w.pendingDeploy
  shaped : AgentReplies deployment.id rollout.replies
  phases : AgentPhases rollout.replies

/-- Every command arrives, or a target whose command arrives reports a failure. -/
def Heard (rollout : Rollout) (w : World) : Prop :=
  (∀ f ∈ rollout.launch.targets, Reachable w rollout.launch.project f.2.member) ∨
    ∃ f ∈ rollout.launch.targets,
      Reachable w rollout.launch.project f.2.member ∧ rollout.outcome f.1 = some false

theorem smooth_start (provided : Provided rollout deployment w) :
    Smooth rollout deployment w w [.loop deployment rollout.launch.targets] := by
  have only : ∀ {P : Site → Prop}, P (.loop deployment rollout.launch.targets) →
      ∀ s ∈ [Site.loop deployment rollout.launch.targets], P s := by
    intro P holds s member
    rw [List.mem_singleton.mp member]
    exact holds
  refine ⟨.refl w, only provided.insertable, only fun _ member => member, fun serverID => ?_,
    fun _ held _ => held⟩
  have once := List.nodup_iff_count_le_one.mp provided.insertable.servers serverID
  simpa [awaited, Site.awaiting] using once

/-- The invariants at one point of a run. -/
structure Going (rollout : Rollout) (deployment : Deployment) (w : World) (d : Deployment)
    (c : World × List Site) : Prop where
  budget : Budget rollout deployment c.1 d c.2
  smooth : Smooth rollout deployment w c.1 c.2

theorem going_run {before : World}
    (created : createLaunched rollout.launch before = (w, some deployment))
    (provided : Provided rollout deployment w) (schedule : List Nat) :
    ∃ d, Going rollout deployment w d (rollout.sites w deployment schedule) := by
  refine Flow.run_invariant (I := fun c => ∃ d, Going rollout deployment w d c) ?_
    ⟨deployment, budget_start created, smooth_start provided⟩ schedule
  rintro ⟨v, ts⟩ i ⟨d, budget, smooth⟩
  obtain same | ⟨k, effect, next, here, edge, moved⟩ :=
    Flow.advance_cases (rolloutFlow rollout) (Site.spawn rollout) (v, ts) i
  · rw [same]
    exact ⟨d, budget, smooth⟩
  · rw [moved]
    obtain ⟨d', kept, -⟩ := budget.step provided.shaped here edge
    exact ⟨d', kept, (smooth.step provided.shaped budget here edge).1⟩

/-- **The run rule.**  What every event keeps, given that a terminal row lasts, holds
at the end of every run that is closed in time. -/
theorem run_keeps {before : World}
    (created : createLaunched rollout.launch before = (w, some deployment))
    (provided : Provided rollout deployment w) {schedule : List Nat}
    (inTime : ClosesInTime rollout w deployment schedule)
    {I : World → Deployment → List Site → Prop}
    (start : I w deployment [.loop deployment rollout.launch.targets])
    (kept : ∀ {v v' : World} {d d' : Deployment} {ts : List Site} {i : Nat} {k k' : Site}
      {spawned : List Site}, Budget rollout deployment v d ts → Smooth rollout deployment w v ts →
      v'.getDeployment deployment.id = some d' → (Terminal d → Terminal d') → ts[i]? = some k →
      Event rollout deployment w v v' k k' spawned → I v d ts →
      I v' d' (ts.set i k' ++ spawned)) :
    ∃ d, Going rollout deployment w d (rollout.sites w deployment schedule) ∧
      I (rollout.sites w deployment schedule).1 d (rollout.sites w deployment schedule).2 := by
  suffices along : ∀ n, ∃ d,
      Going rollout deployment w d (rollout.sites w deployment (schedule.take n)) ∧
        I (rollout.sites w deployment (schedule.take n)).1 d
          (rollout.sites w deployment (schedule.take n)).2 by
    have whole := along schedule.length
    rwa [List.take_length] at whole
  intro n
  induction n with
  | zero => exact ⟨deployment, ⟨budget_start created, smooth_start provided⟩, start⟩
  | succ n ih =>
    obtain ⟨d, going, holds⟩ := ih
    cases here : schedule[n]? with
    | none =>
      have long := List.getElem?_eq_none_iff.mp here
      rw [List.take_of_length_le (by omega)]
      rw [List.take_of_length_le long] at going holds
      exact ⟨d, going, holds⟩
    | some i =>
      obtain ⟨d', going'⟩ := going_run created provided (schedule.take (n + 1))
      have lasts : Terminal d → Terminal d' := by
        intro terminal
        have found : (rollout.stateAt w deployment schedule n).getDeployment deployment.id =
            some d := by
          rw [Rollout.stateAt_eq]
          exact going.budget.found
        obtain ⟨e, found', lasting⟩ :=
          lasting_step created provided.shaped inTime n found terminal
        rw [Rollout.stateAt_eq] at found'
        obtain rfl : e = d' := Option.some.inj (found'.symm.trans going'.budget.found)
        exact lasting.terminal terminal
      have advanced : rollout.sites w deployment (schedule.take (n + 1)) =
          (rolloutFlow rollout).advance (Site.spawn rollout)
            (rollout.sites w deployment (schedule.take n)) i := by
        rw [take_succ_of_getElem? here, Rollout.sites, Flow.run_append]
        rfl
      refine ⟨d', going', ?_⟩
      have found' := going'.budget.found
      rw [advanced] at found' ⊢
      obtain same | ⟨k, effect, next, atI, edge, moved⟩ :=
        Flow.advance_cases (rolloutFlow rollout) (Site.spawn rollout)
          (rollout.sites w deployment (schedule.take n)) i
      · rw [same] at found' ⊢
        obtain rfl : d = d' := Option.some.inj (going.budget.found.symm.trans found')
        exact holds
      · rw [moved] at found' ⊢
        exact kept going.budget going.smooth found' lasts atI
          (going.smooth.step provided.shaped going.budget atI edge).2 holds

theorem Site.halted {s : Site} (halted : Site.act rollout s = none) :
    s.weight = 0 ∧ s.todo = [] ∧ ¬ s.Checking ∧ ∀ f, ¬ s.Owes f := by
  cases s with
  | loop d todo =>
    cases todo with
    | nil => cases halted
    | cons entry rest => cases halted
  | start d target scheduled rest => cases halted
  | returned => exact ⟨rfl, rfl, id, fun _ => id⟩
  | dispatch job point =>
    have stuck := Option.map_eq_none_iff.mp halted
    cases point with
    | halt => exact ⟨rfl, rfl, id, fun f owes => nomatch owes.2⟩
    | _ => cases stuck
  | report targetID point =>
    have halt := stage_halted (Option.map_eq_none_iff.mp halted)
    exact ⟨by simp [Site.weight, halt, Stage.pastIncrement], rfl, by simp [Site.Checking, halt],
      fun f owes => by simp [Site.Owes, halt] at owes⟩

/-- A target that reports a failure settles the deployment. -/
theorem terminal_of_failure {before : World}
    (created : createLaunched rollout.launch before = (w, some deployment))
    (provided : Provided rollout deployment w) {schedule : List Nat}
    (inTime : ClosesInTime rollout w deployment schedule) {f : UUID × ScheduledTarget}
    (member : f ∈ rollout.launch.targets)
    (reachable : Reachable w rollout.launch.project f.2.member)
    (bad : rollout.outcome f.1 = some false)
    (halted : ∀ s ∈ (rollout.sites w deployment schedule).2, Site.act rollout s = none) :
    ∃ d, (rollout.sites w deployment schedule).1.getDeployment deployment.id = some d ∧
      Terminal d := by
  obtain ⟨d, going, owed⟩ := run_keeps created provided inTime
    (I := fun _ d ts => Terminal d ∨ ∃ s ∈ ts, s.Owes f)
    (.inr ⟨_, List.mem_singleton_self _, member⟩)
    (by
      intro v v' d d' ts i k k' spawned budget smooth found' lasts here event owed
      rcases owed with terminal | ⟨s, inside, owes⟩
      · exact .inl (lasts terminal)
      rcases mem_set_or_eq here inside k' with rfl | stays
      · rcases event.owes smooth budget here provided.shaped provided.unclaimed
          provided.insertable.ids member reachable bad owes with ⟨s', new, owes'⟩ | ⟨e, found, paid⟩
        · right
          rcases List.mem_cons.mp new with rfl | later
          · exact ⟨_, List.mem_append_left _ (mem_set_new here s'), owes'⟩
          · exact ⟨s', List.mem_append_right _ later, owes'⟩
        · left
          rw [Option.some.inj (found'.symm.trans found)]
          exact paid
      · exact .inr ⟨s, List.mem_append_left _ stays, owes⟩)
  refine ⟨d, going.budget.found, ?_⟩
  rcases owed with terminal | ⟨s, inside, owes⟩
  · exact terminal
  · exact absurd owes ((Site.halted (halted s inside)).2.2.2 f)

/-- A target whose agent never finishes is unsettled at the end. -/
theorem unsettled_of_silence {before : World}
    (created : createLaunched rollout.launch before = (w, some deployment))
    (provided : Provided rollout deployment w) {schedule : List Nat}
    (inTime : ClosesInTime rollout w deployment schedule) {u : UUID × ScheduledTarget}
    (member : u ∈ rollout.launch.targets)
    (reachable : Reachable w rollout.launch.project u.2.member)
    (silent : rollout.outcome u.1 = none)
    (halted : ∀ s ∈ (rollout.sites w deployment schedule).2, Site.act rollout s = none) :
    Unsettled deployment.id u.1 (rollout.sites w deployment schedule).1 := by
  obtain ⟨d, -, waiting⟩ := run_keeps created provided inTime
    (I := fun v _ ts => (∃ s ∈ ts, u ∈ s.todo) ∨ Unsettled deployment.id u.1 v)
    (.inl ⟨_, List.mem_singleton_self _, member⟩)
    (by
      intro v v' d d' ts i k k' spawned budget smooth found' lasts here event waiting
      have own : u ∈ k.todo ∨ Unsettled deployment.id u.1 v → u ∈ k'.todo ∨
          Unsettled deployment.id u.1 v' :=
        event.unsettled smooth here provided.shaped provided.phases provided.insertable.ids member
          reachable silent
      have placed : u ∈ k'.todo ∨ Unsettled deployment.id u.1 v' →
          (∃ s ∈ ts.set i k' ++ spawned, u ∈ s.todo) ∨ Unsettled deployment.id u.1 v' := by
        rintro (listed | unsettled)
        · exact .inl ⟨k', List.mem_append_left _ (mem_set_new here k'), listed⟩
        · exact .inr unsettled
      rcases waiting with ⟨s, inside, listed⟩ | unsettled
      · rcases mem_set_or_eq here inside k' with rfl | stays
        · exact placed (own (.inl listed))
        · exact .inl ⟨s, List.mem_append_left _ stays, listed⟩
      · exact placed (own (.inr unsettled)))
  rcases waiting with ⟨s, inside, listed⟩ | unsettled
  · rw [(Site.halted (halted s inside)).2.1] at listed
    cases listed
  · exact unsettled

/-- With every command delivered and every report a success, the deployment is
completed. -/
theorem terminal_of_success {before : World}
    (created : createLaunched rollout.launch before = (w, some deployment))
    (provided : Provided rollout deployment w) {schedule : List Nat}
    (inTime : ClosesInTime rollout w deployment schedule)
    (delivered : ∀ f ∈ rollout.launch.targets, Reachable w rollout.launch.project f.2.member)
    (succeeds : ∀ f ∈ rollout.launch.targets, rollout.outcome f.1 = some true)
    (halted : ∀ s ∈ (rollout.sites w deployment schedule).2, Site.act rollout s = none) :
    ∃ d, (rollout.sites w deployment schedule).1.getDeployment deployment.id = some d ∧
      Terminal d := by
  have fresh : deployment.replicasReady = 0 ∧ 0 < rollout.replicas := by
    have within := (budget_start created).within
    simp only [remaining, Site.weight, List.map_cons, List.map_nil, List.sum_cons, List.sum_nil,
      Rollout.replicas] at within
    refine ⟨?_, List.length_pos_iff.mpr provided.some_⟩
    simp only [createLaunched, World.createDeployment] at created
    split at created
    · rename_i inserted
      split at inserted
      · cases inserted
        cases created
        rfl
      · cases inserted
    · cases created
  obtain ⟨d, going, exact_⟩ := run_keeps created provided inTime
    (I := fun _ d ts => Exact rollout d ts)
    ⟨by simp [fresh.1, remaining, Site.weight, Rollout.replicas], fun reached => by omega⟩
    (by
      intro v v' d d' ts i k k' spawned budget smooth found' lasts here event exact_
      exact event.exact smooth budget here found' lasts provided.shaped provided.unclaimed delivered
        provided.insertable.ids succeeds exact_)
  refine ⟨d, going.budget.found, ?_⟩
  have nothing : remaining (rollout.sites w deployment schedule).2 = 0 := by
    rw [remaining, List.sum_eq_zero_iff_forall_eq_nat]
    intro n member
    obtain ⟨s, inside, rfl⟩ := List.mem_map.mp member
    exact (Site.halted (halted s inside)).1
  have counted := exact_.counted
  rcases exact_.finishing (by omega) with ⟨s, inside, checking⟩ | terminal
  · exact absurd checking (Site.halted (halted s inside)).2.2.1
  · exact terminal

/-- **No stuck deployment.**  In every run of a rollout that is closed in time, with
every command delivered or a failure reported, and for any interleaving and any
answers of the agents: when nothing is in flight and every target of the
deployment is terminal, so is the deployment. -/
theorem settles {before : World}
    (created : createLaunched rollout.launch before = (w, some deployment))
    (provided : Provided rollout deployment w) (heard : Heard rollout w) {schedule : List Nat}
    (inTime : ClosesInTime rollout w deployment schedule)
    (finished : ((rollout.pool w deployment).run rollout.spawn schedule).Finished)
    (targets : TargetsSettled ((rollout.pool w deployment).run rollout.spawn schedule).store
      deployment.id) :
    Settled ((rollout.pool w deployment).run rollout.spawn schedule).store deployment.id := by
  rw [Rollout.run_eq] at finished targets ⊢
  have halted := (Flow.finished_coded (rolloutFlow_presents rollout) _).mp finished
  have enough : (∃ d, (rollout.sites w deployment schedule).1.getDeployment deployment.id =
      some d ∧ Terminal d) →
      Settled (Flow.pool (Site.code rollout) (rollout.sites w deployment schedule)).store
        deployment.id := by
    rintro ⟨d, found, healthy | failed⟩
    · exact ⟨d, found, .inl healthy⟩
    · exact ⟨d, found, .inr (.inl failed)⟩
  rcases heard with delivered | ⟨f, member, reachable, bad⟩
  · by_cases failure : ∃ f ∈ rollout.launch.targets, rollout.outcome f.1 = some false
    · obtain ⟨f, member, bad⟩ := failure
      exact enough (terminal_of_failure created provided inTime member (delivered f member) bad
        halted)
    · by_cases silence : ∃ u ∈ rollout.launch.targets, rollout.outcome u.1 = none
      · -- Its row would be unsettled.
        obtain ⟨u, member, silent⟩ := silence
        obtain ⟨t, found, ofDeploy, unsettled⟩ := unsettled_of_silence created provided inTime
          member (delivered u member) silent halted
        exact absurd (targets t (Table.mem_of_find? found) ofDeploy) unsettled
      · refine enough (terminal_of_success created provided inTime delivered ?_ halted)
        intro f member
        cases outcome : rollout.outcome f.1 with
        | none => exact absurd ⟨f, member, outcome⟩ silence
        | some ok =>
          cases ok with
          | true => rfl
          | false => exact absurd ⟨f, member, outcome⟩ failure
  · exact enough (terminal_of_failure created provided inTime member reachable bad halted)

end Runs

section OneTarget

def offlineServer : World := { oneServer with agents := .empty }

/-- A deploy to it; whatever its agent would answer, it gets no command. -/
def offlineStart : World := (createLaunched failingRollout.launch offlineServer).1

/-- The loop inserts the target and closes, then the dispatch finds no agent. -/
def offlineRun : Pool World :=
  (failingRollout.pool offlineStart failingDeployment).run failingRollout.spawn [0, 0, 0, 1, 1]

/-- Nothing is in flight and the only target has failed, but the deployment is
'deploying' for good. -/
theorem stuck_on_offline_agent :
    offlineRun.Finished ∧ TargetsSettled offlineRun.store 1 ∧ ¬ Settled offlineRun.store 1 := by
  refine ⟨by decide, by decide, ?_⟩
  rintro ⟨d, found, settled⟩
  have status : (offlineRun.store.getDeployment 1).map Deployment.status = some .deploying := by
    decide
  rw [found, Option.map_some, Option.some.injEq] at status
  rw [status] at settled
  exact absurd settled (by decide)

theorem failingRollout_provided : Provided failingRollout failingDeployment failingStart where
  some_ := by decide
  insertable := ⟨by decide, by decide, by decide, by decide, by decide⟩
  unclaimed := by decide
  shaped := failingRollout_replies
  phases targetID out member unfinished := by
    simp only [failingRollout, List.mem_singleton] at member
    subst member
    cases unfinished

/-- With its agent connected the same deploy fails, and its deployment is settled. -/
theorem settles_on_failure :
    Settled ((failingRollout.pool failingStart failingDeployment).run failingRollout.spawn
      promptClose).store 1 := by
  refine settles failingStart_created failingRollout_provided (.inl fun f member => ?_)
    promptClose_inTime (by decide) (by decide)
  have agent : Listening failingStart (UUID.text 71) :=
    ⟨{ agentID := UUID.text 71 }, by decide, rfl, rfl⟩
  simp only [failingRollout, List.mem_singleton] at member
  subst member
  exact ⟨agent, fun edge => absurd edge (by decide)⟩

end OneTarget

end Nixway.Deploy
