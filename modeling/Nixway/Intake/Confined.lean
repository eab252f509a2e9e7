/-
# Intake.Confined -- whose rows an agent's messages change

Rows have owners: a target, a member and a job name their server, a peer row is its
member's, a deployment is of every server that has a target of it, and a build is of the
server its command went to.  The reports about the server itself find it through the
stream's agent id.  Every other handler updates the row whose id stands in the message and
asks nobody whose it is, so one message of one agent rewrites a build of another server
(`foreign_build_rewritten`).

`agent_confined` is what remains: along every sequence of messages that name rows of the
agent's server, or no row at all, only rows of that server change, and what the handlers
start in the background is about its members, builds and deployments.
-/
import Nixway.Intake.Handlers

namespace Nixway.Intake

open Nixway.Theory Nixway.Store
open Nixway.Deploy (DeployOutput databaseClaims)

set_option autoImplicit false

/-! ## Owners -/

namespace Store

variable (st : Store) (s : UUID)

def ownsTarget (id : UUID) : Bool := (st.world.targets.find? id).any fun t => t.serverID = s

def ownsDeployment (id : UUID) : Bool :=
  st.world.targets.rows.any fun t => t.deploymentID = id && t.serverID = s

def ownsBuild (id : UUID) : Bool := st.dispatched.contains (id, s)

def ownsJob (id : UUID) : Bool := (st.jobs.find? id).any fun j => j.serverID = s

def ownsMember (id : UUID) : Bool := (st.members.find? id).any fun m => m.serverID = s

end Store

/-- The sample is of the server, or labelled with it. -/
def MetricSample.OfServer (s : UUID) (x : MetricSample) : Prop :=
  (x.scope = .server ∧ x.scopeID = s) ∨ ("server_id", s.text) ∈ x.labels

/-- Only rows of the server differ, and what was started in between is about them. -/
structure Confined (s : UUID) (before after : Store) : Prop where
  servers : Table.Frame (· = s) before.world.servers after.world.servers
  presence : ∀ id, id ≠ s → after.presence id = before.presence id
  targets : Table.Frame (fun id => before.ownsTarget s id = true)
    before.world.targets after.world.targets
  deployments : Table.Frame (fun id => before.ownsDeployment s id = true)
    before.world.deployments after.world.deployments
  deploymentLogs : ∀ id, ¬ before.ownsDeployment s id = true →
    after.deploymentLogs id = before.deploymentLogs id
  builds : Table.Frame (fun id => before.ownsBuild s id = true) before.builds after.builds
  jobs : Table.Frame (fun id => before.ownsJob s id = true) before.jobs after.jobs
  members : Table.Frame (fun id => before.ownsMember s id = true) before.members after.members
  peers : Table.Frame (fun key => before.ownsMember s key.1 = true) before.peers after.peers
  metrics : Table.Frame (· = s) before.metrics after.metrics
  resources : Table.Frame (· = s) before.resources after.resources
  samples : ∃ new, after.samples = new ++ before.samples ∧ ∀ x ∈ new, x.OfServer s
  callbacks : ∃ new, after.callbacks = before.callbacks ++ new ∧
    ∀ x ∈ new, before.ownsMember s x.memberID = true
  deploys : ∃ new, after.deploys = before.deploys ++ new ∧ ∀ id ∈ new, before.ownsBuild s id = true
  promotions : ∃ new, after.world.started = before.world.started ++ new ∧
    ∀ g ∈ new, ∃ id, g = .ensureTrafficForDeployment id ∧ before.ownsDeployment s id = true

/-- Nothing changes hands. -/
structure SameOwners (s : UUID) (before after : Store) : Prop where
  target : after.ownsTarget s = before.ownsTarget s
  deployment : after.ownsDeployment s = before.ownsDeployment s
  build : after.ownsBuild s = before.ownsBuild s
  job : after.ownsJob s = before.ownsJob s
  member : after.ownsMember s = before.ownsMember s

/-- What a step of the server's agent may do. -/
structure Within (s : UUID) (before after : Store) : Prop extends
  Confined s before after, SameOwners s before after

section Steps

variable {s : UUID} {st st' st'' : Store}

theorem grown_trans {α : Type} {p : α → Prop} {xs ys zs : List α}
    (first : ∃ new, ys = xs ++ new ∧ ∀ x ∈ new, p x)
    (second : ∃ new, zs = ys ++ new ∧ ∀ x ∈ new, p x) :
    ∃ new, zs = xs ++ new ∧ ∀ x ∈ new, p x := by
  obtain ⟨one, rfl, fine⟩ := first
  obtain ⟨two, rfl, also⟩ := second
  refine ⟨one ++ two, List.append_assoc _ _ _, fun x mem => ?_⟩
  rcases List.mem_append.mp mem with early | late
  · exact fine x early
  · exact also x late

theorem Within.refl (s : UUID) (st : Store) : Within s st st where
  servers := .refl _ _
  presence _ _ := rfl
  targets := .refl _ _
  deployments := .refl _ _
  deploymentLogs _ _ := rfl
  builds := .refl _ _
  jobs := .refl _ _
  members := .refl _ _
  peers := .refl _ _
  metrics := .refl _ _
  resources := .refl _ _
  samples := ⟨[], rfl, by simp⟩
  callbacks := ⟨[], by simp, by simp⟩
  deploys := ⟨[], by simp, by simp⟩
  promotions := ⟨[], by simp, by simp⟩
  target := rfl
  deployment := rfl
  build := rfl
  job := rfl
  member := rfl

theorem Within.trans (first : Within s st st') (second : Within s st' st'') : Within s st st'' := by
  obtain ⟨here, owners⟩ := first
  obtain ⟨later, owners'⟩ := second
  refine
    { servers := here.servers.trans later.servers
      presence := fun id other => (later.presence id other).trans (here.presence id other)
      targets := here.targets.trans (owners.target ▸ later.targets)
      deployments := here.deployments.trans (owners.deployment ▸ later.deployments)
      deploymentLogs := fun id foreign =>
        (later.deploymentLogs id (owners.deployment ▸ foreign)).trans (here.deploymentLogs id foreign)
      builds := here.builds.trans (owners.build ▸ later.builds)
      jobs := here.jobs.trans (owners.job ▸ later.jobs)
      members := here.members.trans (owners.member ▸ later.members)
      peers := here.peers.trans (owners.member ▸ later.peers)
      metrics := here.metrics.trans later.metrics
      resources := here.resources.trans later.resources
      samples := ?_
      callbacks := grown_trans here.callbacks (owners.member ▸ later.callbacks)
      deploys := grown_trans here.deploys (owners.build ▸ later.deploys)
      promotions := grown_trans here.promotions (owners.deployment ▸ later.promotions)
      target := owners'.target.trans owners.target
      deployment := owners'.deployment.trans owners.deployment
      build := owners'.build.trans owners.build
      job := owners'.job.trans owners.job
      member := owners'.member.trans owners.member }
  obtain ⟨one, early, fine⟩ := here.samples
  obtain ⟨two, late, also⟩ := later.samples
  refine ⟨two ++ one, by rw [late, early, List.append_assoc], fun x mem => ?_⟩
  rcases List.mem_append.mp mem with new | old
  · exact also x new
  · exact fine x old

/-! ## One statement -/

/-- The row a statement is about is the server's, or is not there. -/
def OwnRow {α κ : Type} [Keyed α κ] [DecidableEq κ] (own : κ → Bool) (t : Table α) (k : κ) : Prop :=
  own k = true ∨ t.find? k = none

instance {α κ : Type} [Keyed α κ] [DecidableEq κ] [DecidableEq α] (own : κ → Bool) (t : Table α)
    (k : κ) : Decidable (OwnRow own t k) :=
  inferInstanceAs (Decidable (_ ∨ _))

theorem OwnRow.keep {α κ : Type} [Keyed α κ] [DecidableEq κ] {own : κ → Bool} {t t' : Table α}
    {k : κ} (ok : OwnRow own t k) (frame : Table.Frame (fun k => own k = true) t t') :
    OwnRow own t' k := by
  by_cases mine : own k = true
  · exact .inl mine
  · exact .inr ((frame k mine).trans (ok.resolve_left mine))

theorem Within.updateBuild {id : UUID} {f : Build → Build} (keeps : ∀ b, Keyed.key (f b) = Keyed.key b)
    (ok : OwnRow (st.ownsBuild s) st.builds id) :
    Within s st { st with builds := st.builds.update id f keeps } :=
  { Within.refl s st with builds := .update keeps ok }

theorem Within.updateJob {id : UUID} {f : ProvisioningJob → ProvisioningJob}
    (keeps : ∀ j, Keyed.key (f j) = Keyed.key j) (ok : OwnRow (st.ownsJob s) st.jobs id)
    (stays : ∀ j, (f j).serverID = j.serverID) :
    Within s st { st with jobs := st.jobs.update id f keeps } :=
  { Within.refl s st with
    jobs := .update keeps ok
    job := funext fun _ => Table.any_find?_update keeps (fun j => by rw [stays]) _ }

theorem Within.updateMember {id : UUID} {f : ClusterMember → ClusterMember}
    (keeps : ∀ m, Keyed.key (f m) = Keyed.key m) (ok : OwnRow (st.ownsMember s) st.members id)
    (stays : ∀ m, (f m).serverID = m.serverID) :
    Within s st { st with members := st.members.update id f keeps } :=
  { Within.refl s st with
    members := .update keeps ok
    member := funext fun _ => Table.any_find?_update keeps (fun m => by rw [stays]) _ }

theorem Within.updatePeer {key : UUID × UUID} {f : WireGuardPeer → WireGuardPeer}
    (keeps : ∀ p, Keyed.key (f p) = Keyed.key p) (ok : st.ownsMember s key.1 = true) :
    Within s st { st with peers := st.peers.update key f keeps } :=
  { Within.refl s st with peers := .update keeps (.inl ok) }

theorem Within.recordMetric {x : MetricSample} (ofServer : x.OfServer s) :
    Within s st (st.recordMetric x) := by
  unfold Store.recordMetric
  split
  · exact .refl s st
  · exact { Within.refl s st with samples := ⟨[x], rfl, by simpa using ofServer⟩ }

theorem Within.recordMetrics {xs : List MetricSample} (ofServer : ∀ x ∈ xs, x.OfServer s) :
    Within s st (st.recordMetrics xs) := by
  unfold Store.recordMetrics
  induction xs generalizing st with
  | nil => exact .refl s st
  | cons x xs ih =>
    refine (Within.recordMetric (ofServer x List.mem_cons_self)).trans (ih fun y mem => ?_)
    exact ofServer y (List.mem_cons_of_mem x mem)

theorem presence_update {presence : UUID → Presence} {row : Presence} (found : Bool) {id : UUID}
    (other : id ≠ s) :
    (if found then Function.update presence s row else presence) id = presence id := by
  split
  · exact Function.update_of_ne other _ _
  · rfl

theorem Within.updateServerStatus {status : ServerStatus} :
    Within s st (st.updateServerStatus s status) :=
  { Within.refl s st with presence := fun _ other => presence_update _ other }

theorem Within.updateServerAgentID {agentID : String} :
    Within s st (st.updateServerAgentID s agentID) :=
  { Within.refl s st with
    servers := .update (f := fun srv : Server => { srv with agentID := some agentID })
      (fun _ => rfl) (.inl rfl)
    presence := fun _ other => presence_update _ other }

theorem Within.upsertMetrics {row : ServerMetrics} (own : row.serverID = s) :
    Within s st { st with metrics := st.metrics.upsert row } :=
  { Within.refl s st with metrics := .upsert own }

theorem Within.upsertResources {row : ServerResources} (own : row.serverID = s) :
    Within s st { st with resources := st.resources.upsert row } :=
  { Within.refl s st with resources := .upsert own }

/-! ## Reports about the server -/

/-- No other server carries the agent id of this one. -/
def Linked (s : UUID) (st : Store) : Prop :=
  ∀ srv ∈ st.world.servers, srv.agentID = some s.text → srv.id = s

theorem Linked.found (linked : Linked s st) {srv : Server}
    (found : st.getServerByAgentID s.text = some srv) : srv.id = s :=
  linked srv (List.mem_of_find?_eq_some found) (by simpa using List.find?_some found)

theorem within_linkAgentToServer {parse : String → Option UUID} (reads : parse s.text = some s) :
    Within s st (linkAgentToServer parse s.text st) := by
  rw [linkAgentToServer, reads]
  exact .updateServerAgentID

theorem ofServer_serverHealth {cpu : Double} {used total : Int64} :
    ∀ x ∈ serverHealth s cpu used total, x.OfServer s := by
  intro x mem
  refine .inl ?_
  unfold serverHealth at mem
  split at mem
  · simp at mem
    rcases mem with rfl | rfl | rfl | rfl <;> exact ⟨rfl, rfl⟩
  · simp at mem
    rcases mem with rfl | rfl | rfl <;> exact ⟨rfl, rfl⟩

theorem ofServer_diskHealth {disk : DiskInfo} : ∀ x ∈ diskHealth s disk, x.OfServer s := by
  intro x mem
  refine .inl ?_
  unfold diskHealth at mem
  dsimp only at mem
  split at mem
  · simp at mem
    rcases mem with rfl | rfl | rfl <;> exact ⟨rfl, rfl⟩
  · simp at mem
    rcases mem with rfl | rfl <;> exact ⟨rfl, rfl⟩

theorem ofServer_clusterHealth {clusterID : UUID} {hr : HealthReport} :
    ∀ x ∈ clusterHealth s clusterID hr, x.OfServer s := by
  intro x mem
  refine .inr ?_
  unfold clusterHealth at mem
  split at mem
  · simp at mem
    rcases mem with rfl | rfl <;> exact List.mem_singleton_self _
  · simp at mem
    rw [mem]
    exact List.mem_singleton_self _

theorem within_handleHealthReport (linked : Linked s st) (hr : HealthReport) :
    Within s st (handleHealthReport s.text st hr) := by
  unfold handleHealthReport
  cases found : st.getServerByAgentID s.text with
  | none => exact .refl s st
  | some srv =>
    obtain rfl : srv.id = s := linked.found found
    dsimp only
    refine Within.trans (.upsertMetrics ?_) (Within.recordMetrics fun x mem => ?_)
    · rfl
    rcases List.mem_append.mp mem with early | disks
    · rcases List.mem_append.mp early with server | cluster
      · exact ofServer_serverHealth x server
      · split at cluster
        · cases cluster
        · exact ofServer_clusterHealth x cluster
    · obtain ⟨disk, -, inside⟩ := List.mem_flatMap.mp disks
      exact ofServer_diskHealth x inside

theorem ofServer_containerMetricSet {scope : Scope} {scopeID : UUID} {start : String}
    {metric : ContainerMetric} {labels : EnvMap} (labelled : ("server_id", s.text) ∈ labels) :
    ∀ x ∈ containerMetricSet scope scopeID start metric labels, x.OfServer s := by
  intro x mem
  obtain ⟨entry, -, rfl⟩ := List.mem_map.mp mem
  exact .inr labelled

theorem ofServer_containerSamples {w : World} {srv : Server} {metric : ContainerMetric} :
    ∀ x ∈ containerSamples w srv metric, x.OfServer srv.id := by
  intro x mem
  unfold containerSamples at mem
  split at mem
  · cases mem
  · split at mem
    · cases mem
    · dsimp only at mem
      simp only [List.mem_append] at mem
      rcases mem with ((set | set) | set) | set <;>
        exact ofServer_containerMetricSet List.mem_cons_self x set

theorem within_handleMetricReport (linked : Linked s st) (containers : List ContainerMetric) :
    Within s st (handleMetricReport s.text st containers) := by
  unfold handleMetricReport
  cases found : st.getServerByAgentID s.text with
  | none => exact .refl s st
  | some srv =>
    obtain rfl : srv.id = s := linked.found found
    refine Within.recordMetrics fun x mem => ?_
    obtain ⟨metric, -, inside⟩ := List.mem_flatMap.mp mem
    exact ofServer_containerSamples x inside

theorem within_handleResourceReport (linked : Linked s st) (rr : ResourceReport) :
    Within s st (handleResourceReport s.text st rr) := by
  unfold handleResourceReport
  cases found : st.getServerByAgentID s.text with
  | none => exact .refl s st
  | some srv =>
    obtain rfl : srv.id = s := linked.found found
    dsimp only
    refine Within.trans (.trans .updateServerStatus (.upsertResources ?_))
      (Within.recordMetrics fun x mem => ?_)
    · rfl
    simp at mem
    rcases mem with rfl | rfl <;> exact .inl ⟨rfl, rfl⟩

/-! ## Reports about work -/

theorem within_handleProvisionOutput {po : ProvisionOutput}
    (own : ∀ id ∈ po.jobID, OwnRow (st.ownsJob s) st.jobs id) :
    Within s st (handleProvisionOutput st po) := by
  unfold handleProvisionOutput
  cases job : po.jobID with
  | none => exact .refl s st
  | some jobID =>
    have ok := own jobID job
    have appended : Within s st (st.appendProvisioningLog jobID po.output) := by
      exact .updateJob _ ok fun _ => rfl
    have again : OwnRow ((st.appendProvisioningLog jobID po.output).ownsJob s)
        (st.appendProvisioningLog jobID po.output).jobs jobID := by
      rw [appended.job]
      exact ok.keep appended.jobs
    have closed : ∀ status error, Within s st
        ((st.appendProvisioningLog jobID po.output).updateProvisioningJobStatus jobID status error) := by
      intro status error
      exact appended.trans (.updateJob _ again fun _ => rfl)
    dsimp only
    split
    · split
      · exact closed _ _
      · exact closed _ _
    · exact appended

theorem within_notifyMesh {memberID : UUID} {k : UUID → MeshCallback}
    (own : OwnRow (st.ownsMember s) st.members memberID)
    (about : ∀ clusterID, (k clusterID).memberID = memberID) :
    Within s st (notifyMesh st memberID k) := by
  unfold notifyMesh
  cases found : st.members.find? memberID with
  | none => exact .refl s st
  | some member =>
    have mine : st.ownsMember s memberID = true := own.resolve_right (by rw [found]; simp)
    refine { Within.refl s st with callbacks := ⟨[k member.clusterID], rfl, ?_⟩ }
    intro x mem
    rw [List.mem_singleton.mp mem, about]
    exact mine

theorem within_handleWireGuardKeyGenResult {memberID : Option UUID} {publicKey : String}
    (own : ∀ id ∈ memberID, OwnRow (st.ownsMember s) st.members id) :
    Within s st (handleWireGuardKeyGenResult st memberID publicKey) := by
  unfold handleWireGuardKeyGenResult
  cases memberID with
  | none => exact .refl s st
  | some id =>
    have ok := own id rfl
    have stored : Within s st (st.updateClusterMemberPublicKey id publicKey) := by
      exact .updateMember _ ok fun _ => rfl
    refine stored.trans (within_notifyMesh ?_ fun _ => rfl)
    rw [stored.member]
    exact ok.keep stored.members

theorem within_recordPeer {member : ClusterMember} (own : st.ownsMember s member.id = true)
    (p : PeerHealthInfo) : Within s st (recordPeer member st p) := by
  unfold recordPeer
  cases resolvePeer st member p.peer with
  | none => exact .refl s st
  | some peerMemberID =>
    exact .updatePeer _ own

theorem within_handleMeshHealthReport {memberID : Option UUID} {peers : List PeerHealthInfo}
    (own : ∀ id ∈ memberID, OwnRow (st.ownsMember s) st.members id) :
    Within s st (handleMeshHealthReport st memberID peers) := by
  unfold handleMeshHealthReport
  cases memberID with
  | none => exact .refl s st
  | some id =>
    rw [Option.bind_some]
    cases found : st.members.find? id with
    | none => exact .refl s st
    | some member =>
      have mine : st.ownsMember s id = true := (own id rfl).resolve_right (by rw [found]; simp)
      have here : member.id = id := Table.key_of_find? found
      rw [← here] at mine
      dsimp only
      clear found own
      induction peers generalizing st with
      | nil => exact .refl s st
      | cons p peers ih =>
        have recorded := within_recordPeer mine p
        refine recorded.trans (ih ?_)
        rw [recorded.member]
        exact mine

theorem within_finishBuild {parse : String → Option UUID} {agentID : String} {bo : BuildOutput}
    {buildID : UUID} (own : OwnRow (st.ownsBuild s) st.builds buildID) :
    Within s st (finishBuild parse agentID st bo buildID) := by
  have completed : ∀ status imageTag serverID error,
      Within s st (st.completeBuild buildID status imageTag serverID error) := by
    intro status imageTag serverID error
    unfold Store.completeBuild
    split
    · exact .updateBuild _ own
    · exact .refl s st
  have deployed : ∀ {st' : Store}, Within s st st' → Within s st
      (if bo.success ∧ (st'.builds.find? buildID).isSome then
        { st' with deploys := st'.deploys ++ [buildID] } else st') := by
    intro st' within
    split
    · next started =>
      -- the build is there, so it is the server's
      have mine : st'.ownsBuild s buildID = true := by
        rw [within.build]
        refine (own.keep within.builds).resolve_right fun none => ?_
        rw [none] at started
        exact absurd started.2 Bool.false_ne_true
      exact within.trans { Within.refl s st' with deploys := ⟨[buildID], rfl, by simpa using mine⟩ }
    · exact within
  unfold finishBuild
  dsimp only
  split
  · exact deployed (completed _ _ _ _)
  · exact deployed (completed _ _ _ _)

theorem within_handleBuildOutput {parse : String → Option UUID} {agentID : String} {bo : BuildOutput}
    (own : ∀ id ∈ bo.buildID, OwnRow (st.ownsBuild s) st.builds id) :
    Within s st (handleBuildOutput parse agentID st bo) := by
  unfold handleBuildOutput
  cases build : bo.buildID with
  | none => exact .refl s st
  | some buildID =>
    have ok := own buildID build
    have logged : Within s st
        (if bo.output ≠ "" then st.appendBuildLogs buildID bo.output else st) := by
      split
      · exact .updateBuild _ ok
      · exact .refl s st
    have again := ok.keep logged.builds
    rw [← logged.build] at again
    dsimp only
    generalize (if bo.output ≠ "" then st.appendBuildLogs buildID bo.output else st) = st'
      at logged again ⊢
    split
    · exact logged.trans (within_finishBuild again)
    · split
      · refine logged.trans ?_
        unfold Store.updateBuildStatus
        split
        · exact .refl s st'
        · exact .updateBuild _ again
      · exact logged

/-! ## Deploy reports -/

theorem Within.updateTarget {id : UUID} {f : DeploymentTarget → DeploymentTarget}
    (keeps : ∀ t, Keyed.key (f t) = Keyed.key t)
    (ok : OwnRow (st.ownsTarget s) st.world.targets id)
    (server : ∀ t, (f t).serverID = t.serverID)
    (deployment : ∀ t, (f t).deploymentID = t.deploymentID) :
    Within s st { st with world := { st.world with targets := st.world.targets.update id f keeps } } :=
  { Within.refl s st with
    targets := .update keeps ok
    target := funext fun _ => Table.any_find?_update keeps (fun t => by rw [server]) _
    deployment := funext fun _ => Table.any_update keeps fun t => by rw [server, deployment] }

theorem Within.updateDeployment {id : UUID} {f : Deployment → Deployment}
    (keeps : ∀ d, Keyed.key (f d) = Keyed.key d)
    (ok : OwnRow (st.ownsDeployment s) st.world.deployments id) :
    Within s st
      { st with world := { st.world with deployments := st.world.deployments.update id f keeps } } :=
  { Within.refl s st with deployments := .update keeps ok }

theorem within_completeIfReady {deployID : UUID}
    (own : OwnRow (st.ownsDeployment s) st.world.deployments deployID) :
    Within s st { st with world := (Deploy.completeIfReady deployID
      (st.world.getDeployment deployID)).out st.world } := by
  cases found : st.world.getDeployment deployID with
  | none => exact .refl s st
  | some d =>
    have mine : st.ownsDeployment s deployID = true := own.resolve_right (by
      rw [World.getDeployment] at found
      rw [found]
      exact Option.some_ne_none d)
    unfold Deploy.completeIfReady
    dsimp only
    split
    · have completed : Within s st
          { st with world := st.world.completeDeployment deployID .healthy none } :=
        .updateDeployment _ own
      refine completed.trans { Within.refl s _ with promotions := ⟨_, rfl, ?_⟩ }
      intro g mem
      refine ⟨deployID, List.mem_singleton.mp mem, ?_⟩
      rw [completed.deployment]
      exact mine
    · exact .refl s st

theorem within_finishReport {out : DeployOutput} {deployID : UUID}
    (own : OwnRow (st.ownsDeployment s) st.world.deployments deployID) :
    Within s st { st with world := (Deploy.finishReport out deployID).out st.world } := by
  unfold Deploy.finishReport
  cases out.success with
  | false => exact .updateDeployment _ own
  | true =>
    have counted : Within s st { st with world := st.world.incrementReplicasReady deployID } :=
      .updateDeployment _ own
    refine counted.trans (within_completeIfReady ?_)
    rw [counted.deployment]
    exact own.keep counted.deployments

theorem within_recordReport {out : DeployOutput} {targetID : UUID}
    (target : OwnRow (st.ownsTarget s) st.world.targets targetID)
    (own : ∀ id ∈ out.deployID, OwnRow (st.ownsDeployment s) st.world.deployments id) :
    Within s st { st with world := (Deploy.recordReport out targetID).out st.world } := by
  have recorded : Within s st { st with
      world := st.world.updateDeploymentTargetStatus (Deploy.targetUpdate out targetID st.world.now) } := by
    unfold World.updateDeploymentTargetStatus
    split
    · exact .refl s st
    · exact .updateTarget _ target (fun _ => rfl) fun _ => rfl
  unfold Deploy.recordReport Prog.out
  rw [Prog.run_exec_bind]
  split
  · cases deploy : out.deployID with
    | none => exact recorded
    | some deployID =>
      refine recorded.trans (within_finishReport ?_)
      rw [recorded.deployment]
      exact (own deployID deploy).keep recorded.deployments
  · exact recorded

theorem within_handleDeployOutput {out : DeployOutput}
    (own : databaseClaims out st.world = false → ∀ targetID ∈ out.targetID,
      OwnRow (st.ownsTarget s) st.world.targets targetID ∧
        ∀ id ∈ out.deployID, OwnRow (st.ownsDeployment s) st.world.deployments id) :
    Within s st (handleDeployOutput st out) := by
  have rows : Within s st { st with world := (Deploy.handleDeployOutput out).out st.world } := by
    unfold Deploy.handleDeployOutput Prog.out
    rw [Prog.run_query_bind]
    cases claimed : databaseClaims out st.world with
    | true => exact .refl s st
    | false =>
      cases target : out.targetID with
      | none => exact .refl s st
      | some targetID =>
        obtain ⟨ok, deployments⟩ := own claimed targetID target
        exact within_recordReport ok deployments
  unfold handleDeployOutput
  dsimp only
  split
  · exact rows
  · next unclaimed =>
    split
    · next targetID deployID target deploy =>
      have ok := ((own (Bool.eq_false_of_not_eq_true unclaimed) targetID target).2 deployID deploy).keep
        rows.deployments
      refine rows.trans { Within.refl s _ with deploymentLogs := fun id foreign => ?_ }
      show (if _ then Function.update st.deploymentLogs deployID _ else st.deploymentLogs) id = _
      split
      · next found =>
        refine Function.update_of_ne ?_ _ _
        rintro rfl
        rw [rows.deployment] at foreign
        rw [ok.resolve_left foreign] at found
        cases found
      · rfl
    · exact rows

/-! ## The stream of an agent -/

/-- The stream is the server's, or has not named its agent yet. -/
structure LinkedStream (s : UUID) (c : String × Store) : Prop where
  agent : c.1 = "" ∨ c.1 = s.text
  linked : Linked s c.2

/-- The row a message names is the server's, or is not there; an agent id that the stream
takes is the server's. -/
def NamesOwn (s : UUID) (c : String × Store) : Message → Prop
  | .heartbeat carried => c.1 = "" → carried = s.text
  | .healthReport carried _ => c.1 = "" → carried = s.text
  | .metricReport carried _ => c.1 = "" → carried = s.text
  | .resourceReport carried _ => c.1 = "" → carried = s.text
  | .provisionOutput out => ∀ id ∈ out.jobID, OwnRow (c.2.ownsJob s) c.2.jobs id
  | .wireguardKeygenResult memberID _ _ =>
    ∀ id ∈ memberID, OwnRow (c.2.ownsMember s) c.2.members id
  | .wireguardApplyResult memberID _ _ => ∀ id ∈ memberID, OwnRow (c.2.ownsMember s) c.2.members id
  | .wireguardTeardownResult memberID _ => ∀ id ∈ memberID, OwnRow (c.2.ownsMember s) c.2.members id
  | .meshHealthReport memberID _ => ∀ id ∈ memberID, OwnRow (c.2.ownsMember s) c.2.members id
  | .buildOutput out => ∀ id ∈ out.buildID, OwnRow (c.2.ownsBuild s) c.2.builds id
  | .deployOutput out => databaseClaims out c.2.world = false → ∀ targetID ∈ out.targetID,
      OwnRow (c.2.ownsTarget s) c.2.world.targets targetID ∧
        ∀ id ∈ out.deployID, OwnRow (c.2.ownsDeployment s) c.2.world.deployments id
  | .other => True

instance (s : UUID) (c : String × Store) : (msg : Message) → Decidable (NamesOwn s c msg)
  | .heartbeat _ => inferInstanceAs (Decidable (_ → _))
  | .healthReport _ _ => inferInstanceAs (Decidable (_ → _))
  | .metricReport _ _ => inferInstanceAs (Decidable (_ → _))
  | .resourceReport _ _ => inferInstanceAs (Decidable (_ → _))
  | .provisionOutput out => Option.decidableForallMem out.jobID
  | .wireguardKeygenResult memberID _ _ => Option.decidableForallMem memberID
  | .wireguardApplyResult memberID _ _ => Option.decidableForallMem memberID
  | .wireguardTeardownResult memberID _ => Option.decidableForallMem memberID
  | .meshHealthReport memberID _ => Option.decidableForallMem memberID
  | .buildOutput out => Option.decidableForallMem out.buildID
  | .deployOutput out =>
    have (id : UUID) : Decidable (OwnRow (c.2.ownsTarget s) c.2.world.targets id ∧
        ∀ id ∈ out.deployID, OwnRow (c.2.ownsDeployment s) c.2.world.deployments id) :=
      have := Option.decidableForallMem
        (p := fun id => OwnRow (c.2.ownsDeployment s) c.2.world.deployments id) out.deployID
      instDecidableAnd
    have := Option.decidableForallMem (p := fun id =>
      OwnRow (c.2.ownsTarget s) c.2.world.targets id ∧
        ∀ id ∈ out.deployID, OwnRow (c.2.ownsDeployment s) c.2.world.deployments id) out.targetID
    inferInstanceAs (Decidable (databaseClaims out c.2.world = false → _))
  | .other => inferInstanceAs (Decidable True)

/-- Every message names rows of the server, in the state it finds. -/
def OwnAlong (parse : String → Option UUID) (s : UUID) : String × Store → List Message → Prop
  | _, [] => True
  | c, msg :: rest => NamesOwn s c msg ∧ OwnAlong parse s (receive parse c msg) rest

instance ownAlongDecidable (parse : String → Option UUID) (s : UUID) :
    (c : String × Store) → (messages : List Message) → Decidable (OwnAlong parse s c messages)
  | _, [] => isTrue trivial
  | c, msg :: rest =>
    have := ownAlongDecidable parse s (receive parse c msg) rest
    inferInstanceAs (Decidable (_ ∧ _))

variable {parse : String → Option UUID} {c : String × Store}

theorem Linked.keep (linked : Linked s st) (within : Within s st st') : Linked s st' := by
  intro srv stored carries
  by_cases own : srv.id = s
  · exact own
  · have same := within.servers srv.id own
    rw [show st'.world.servers.find? srv.id = some srv from Table.find?_self stored] at same
    exact linked srv (Table.mem_of_find? same.symm) carries

theorem LinkedStream.named_eq (stream : LinkedStream s c) {carried : String}
    (own : c.1 = "" → carried = s.text) : named c.1 carried = s.text := by
  unfold named
  split
  · next fresh => exact own fresh
  · next taken => exact stream.agent.resolve_left taken

theorem within_linkFirst (reads : parse s.text = some s) {carried : String}
    (own : c.1 = "" → carried = s.text) :
    Within s c.2 (if c.1 = "" then linkAgentToServer parse carried c.2 else c.2) := by
  split
  · next fresh =>
    rw [own fresh]
    exact within_linkAgentToServer reads
  · exact .refl s _

/-- **One message.** -/
theorem receive_within (reads : parse s.text = some s) (stream : LinkedStream s c) {msg : Message}
    (own : NamesOwn s c msg) :
    Within s c.2 (receive parse c msg).2 ∧ LinkedStream s (receive parse c msg) := by
  have step : Within s c.2 (receive parse c msg).2 ∧
      ((receive parse c msg).1 = "" ∨ (receive parse c msg).1 = s.text) := by
    cases msg with
    | heartbeat carried => exact ⟨within_linkFirst reads own, .inr (stream.named_eq own)⟩
    | healthReport carried report =>
      have here := stream.named_eq own
      refine ⟨?_, .inr here⟩
      show Within s c.2 (handleHealthReport (named c.1 carried) c.2 report)
      rw [here]
      exact within_handleHealthReport stream.linked report
    | metricReport carried containers =>
      have here := stream.named_eq own
      refine ⟨?_, .inr here⟩
      show Within s c.2 (handleMetricReport (named c.1 carried) c.2 containers)
      rw [here]
      exact within_handleMetricReport stream.linked containers
    | resourceReport carried report =>
      have here := stream.named_eq own
      have linking := within_linkFirst reads own
      refine ⟨linking.trans ?_, .inr here⟩
      show Within s _ (handleResourceReport (named c.1 carried) _ report)
      rw [here]
      exact within_handleResourceReport (stream.linked.keep linking) report
    | provisionOutput out => exact ⟨within_handleProvisionOutput own, stream.agent⟩
    | wireguardKeygenResult memberID publicKey success =>
      refine ⟨?_, stream.agent⟩
      cases success with
      | false => exact .refl s _
      | true => exact within_handleWireGuardKeyGenResult own
    | wireguardApplyResult memberID success error =>
      refine ⟨?_, stream.agent⟩
      cases memberID with
      | none => exact .refl s _
      | some id =>
        exact within_notifyMesh (k := fun clusterID =>
          .onApplyResult clusterID id success error) (own id rfl) fun _ => rfl
    | wireguardTeardownResult memberID success =>
      refine ⟨?_, stream.agent⟩
      cases memberID with
      | none => exact .refl s _
      | some id =>
        exact within_notifyMesh (k := fun clusterID =>
          .onTeardownResult clusterID id success) (own id rfl) fun _ => rfl
    | meshHealthReport memberID peers => exact ⟨within_handleMeshHealthReport own, stream.agent⟩
    | buildOutput out => exact ⟨within_handleBuildOutput own, stream.agent⟩
    | deployOutput out => exact ⟨within_handleDeployOutput own, stream.agent⟩
    | other => exact ⟨.refl s _, stream.agent⟩
  exact ⟨step.1, step.2, stream.linked.keep step.1⟩

end Steps

/-- **An agent that names its own rows is confined to its server.**  For every server, every
stream of its agent and every sequence of messages that each name a row of the server or no
row: in every state reached, only rows of the server differ from the first one, and every
goroutine started is about its members, builds and deployments. -/
theorem agent_confined (parse : String → Option UUID) (s : UUID) (c : String × Store)
    (messages : List Message) (reads : parse s.text = some s) (stream : LinkedStream s c)
    (own : OwnAlong parse s c messages) {earlier : List Message} (within : earlier <+: messages) :
    Confined s c.2 (receiveAll parse c earlier).2 := by
  have along : ∀ (messages : List Message) (c : String × Store), LinkedStream s c →
      OwnAlong parse s c messages → ∀ earlier, earlier <+: messages →
      Within s c.2 (receiveAll parse c earlier).2 := by
    intro messages
    induction messages with
    | nil =>
      intro c _ _ earlier inside
      rw [List.prefix_nil.mp inside]
      exact .refl s _
    | cons msg rest ih =>
      rintro c stream ⟨first, later⟩ earlier inside
      cases earlier with
      | nil => exact .refl s _
      | cons msg' earlier =>
        obtain ⟨rfl, shorter⟩ := List.cons_prefix_cons.mp inside
        obtain ⟨step, stream'⟩ := receive_within reads stream first
        exact step.trans (ih _ stream' later earlier shorter)
  exact (along messages c stream own earlier within).toConfined

section TwoServers

/-- Two servers of a cluster, each with a build, a replica, a job and a mesh member. -/
def fleet : Store :=
  { world :=
      { servers := ⟨[{ id := 70, teamID := 11 }, { id := 71, teamID := 11 }], by decide⟩
        deployments := ⟨[{ id := 1, appID := 20, environmentID := 40, buildID := 30 },
          { id := 2, appID := 21, environmentID := 41, buildID := 31 }], by decide⟩
        targets := ⟨[{ id := 80, deploymentID := 1, serverID := 70 },
          { id := 81, deploymentID := 2, serverID := 71 }], by decide⟩ }
    builds := ⟨[{ id := 30, appID := 20, environmentID := 40 },
      { id := 31, appID := 21, environmentID := 41 }], by decide⟩
    dispatched := [(30, 70), (31, 71)]
    jobs := ⟨[{ id := 50, serverID := 70 }, { id := 51, serverID := 71 }], by decide⟩
    members := ⟨[⟨90, 12, 70, "10.0.0.1", ""⟩, ⟨91, 12, 71, "10.0.0.2", ""⟩], by decide⟩
    peers := ⟨[{ memberID := 90, peerMemberID := 91 }, { memberID := 91, peerMemberID := 90 }],
      by decide⟩ }

def parseFleet (text : String) : Option UUID :=
  if text = UUID.text 70 then some 70 else if text = UUID.text 71 then some 71 else none

theorem fleet_linked : LinkedStream 70 ("", fleet) where
  agent := .inl rfl
  linked := by
    show ∀ srv ∈ fleet.world.servers.rows, srv.agentID = some (UUID.text 70) → srv.id = 70
    decide +kernel

/-- What the agent of server 70 reports about its own work. -/
def ownReports : List Message :=
  [.heartbeat (UUID.text 70), .provisionOutput ⟨some 50, "done", true, true, ""⟩,
   .wireguardKeygenResult (some 90) "0123456789abcdef" true,
   .meshHealthReport (some 90) [⟨.address (some "10.0.0.2"), true, 20, 5⟩],
   .buildOutput ⟨some 30, "ok", "", true, true, "", "web:1"⟩,
   .deployOutput ⟨some 1, some 80, "healthy", "c1", true, true, ""⟩]

theorem own_reports_confined :
    Confined 70 fleet (receiveAll parseFleet ("", fleet) ownReports).2 :=
  agent_confined parseFleet 70 ("", fleet) ownReports (by decide +kernel) fleet_linked
    (by decide +kernel) List.prefix_rfl

/-- The agent of server 70 ends the build of server 71. -/
theorem foreign_build_rewritten :
    parseFleet (UUID.text 70) = some 70 ∧ LinkedStream 70 ("", fleet) ∧
      (31, 71) ∈ fleet.dispatched ∧
      ¬ Confined 70 fleet (receiveAll parseFleet ("", fleet)
          [.heartbeat (UUID.text 70),
           .buildOutput ⟨some 31, "", "", true, true, "", "evil:1"⟩]).2 := by
  refine ⟨by decide +kernel, fleet_linked, by decide, fun confined => ?_⟩
  exact absurd (confined.builds 31 (by decide +kernel)) (by decide +kernel)

end TwoServers

end Nixway.Intake
