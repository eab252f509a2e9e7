/-
# Intake.Metrics -- container metrics, from docker to the samples

`collectContainerMetrics` of `apps/agent/container_metrics.go` reports a container under the name
it was given to `docker run`; `handleMetricReport` looks for a target whose `container_id`
is that name.  But the column holds what `HandleDeployCommand` reported, the first twelve
digits of the id docker printed, and a hexadecimal number is no name that begins with
`nixway-`.  So no metric of an app's container is ever recorded (`metrics_never_reach`).

The numbers docker prints are floating point texts; how they are read is a parameter.
-/
import Nixway.Intake.Handlers
import Nixway.Agent.Deploying

namespace Nixway.Intake

open Nixway.Theory Nixway.Theory.Text Nixway.Store Nixway.Agent
open Nixway.Deploy (DeployOutput targetUpdate containerName)

set_option autoImplicit false

/-! ## The report -/

/-- A line of `docker stats`, if it is JSON. -/
structure DockerStatsLine where
  name : String
  cpuPerc : String := ""
  memPerc : String := ""
  memUsage : String := ""
  netIO : String := ""
  blockIO : String := ""

/-- What `docker inspect` says of a container, if it answers. -/
structure DockerInspect where
  restartCount : Int64
  /-- The seconds since `StartedAt`, 0 if it does not parse. -/
  uptimeSeconds : Int64

/-- What the agent reads from docker. -/
structure DockerReadings where
  stats : List DockerStatsLine
  inspect : String → Option DockerInspect := fun _ => none
  parsePercent : String → Double
  parseByteSize : String → UInt64

namespace DockerReadings

def parseUsagePair (docker : DockerReadings) (raw : String) : UInt64 × UInt64 :=
  match raw.toList.splitOnP (· == '/') with
  | [first, second] =>
    (docker.parseByteSize (String.ofList first), docker.parseByteSize (String.ofList second))
  | _ => (0, 0)

def fillInspectMetrics (docker : DockerReadings) (metric : ContainerMetric) : ContainerMetric :=
  match docker.inspect metric.containerName with
  | none => metric
  | some inspect =>
    { metric with restartCount := inspect.restartCount, uptimeSeconds := inspect.uptimeSeconds }

def metric (docker : DockerReadings) (stat : DockerStatsLine) : ContainerMetric :=
  let (memUsed, memLimit) := docker.parseUsagePair stat.memUsage
  let (netRx, netTx) := docker.parseUsagePair stat.netIO
  let (blockRead, blockWrite) := docker.parseUsagePair stat.blockIO
  docker.fillInspectMetrics
    { containerName := stat.name
      cpuPercent := docker.parsePercent stat.cpuPerc
      memoryPercent := docker.parsePercent stat.memPerc
      memoryUsed := memUsed
      memoryLimit := memLimit
      networkRxBytes := netRx
      networkTxBytes := netTx
      blockReadBytes := blockRead
      blockWriteBytes := blockWrite }

def collectContainerMetrics (docker : DockerReadings) : List ContainerMetric :=
  (docker.stats.filter fun stat => stat.name ≠ "" && hasPrefix stat.name "nixway-").map docker.metric

theorem fillInspectMetrics_name (docker : DockerReadings) (m : ContainerMetric) :
    (docker.fillInspectMetrics m).containerName = m.containerName := by
  unfold fillInspectMetrics
  split <;> rfl

/-- A metric has the name of its line. -/
theorem metric_name (docker : DockerReadings) (stat : DockerStatsLine) :
    (docker.metric stat).containerName = stat.name := by
  simp only [metric, fillInspectMetrics_name]

/-- Every container of a report has a name that begins with `nixway-`. -/
theorem collected_name {docker : DockerReadings} {m : ContainerMetric}
    (mem : m ∈ docker.collectContainerMetrics) : hasPrefix m.containerName "nixway-" = true := by
  obtain ⟨stat, kept, rfl⟩ := List.mem_map.mp mem
  rw [metric_name]
  have both := (List.mem_filter.mp kept).2
  rw [Bool.and_eq_true] at both
  exact both.2

end DockerReadings

/-! ## The id of a container -/

def isHexDigit (c : Char) : Bool := ('0' ≤ c && c ≤ '9') || ('a' ≤ c && c ≤ 'f')

/-- What `docker run -d` prints: an id of 64 hexadecimal digits. -/
def PrintsID (output : String) : Prop :=
  (trimSpace output).toList.length = 64 ∧ (trimSpace output).toList.all isHexDigit = true

/-- The id the agent reports begins with a hexadecimal digit. -/
theorem PrintsID.containerID {output : String} (prints : PrintsID output) :
    ∃ c rest, (containerIDOf output).toList = c :: rest ∧ isHexDigit c := by
  obtain ⟨length, digits⟩ := prints
  unfold containerIDOf
  rw [if_pos (by omega), takeChars, String.toList_ofList]
  cases chars : (trimSpace output).toList with
  | nil => simp [chars] at length
  | cons c rest =>
    rw [chars, List.all_cons, Bool.and_eq_true] at digits
    exact ⟨c, rest.take 11, rfl, digits.1⟩

/-- No id an agent reports is a name that begins with `nixway-`. -/
theorem PrintsID.ne_name {output name : String} (prints : PrintsID output)
    (named : hasPrefix name "nixway-" = true) : containerIDOf output ≠ name := by
  rintro rfl
  obtain ⟨c, rest, chars, hex⟩ := prints.containerID
  obtain ⟨tail, split⟩ := hasPrefix_iff.mp named
  rw [chars] at split
  have first : c = 'n' := by
    have heads := congrArg List.head? split
    simpa using heads.symm
  rw [first] at hex
  cases hex

/-! ## What is recorded -/

/-- The samples a report of the container is for: those of its target, app, project and cluster. -/
def expectedSamples (srv : Server) (active : ActiveTarget) (metric : ContainerMetric) :
    List MetricSample :=
  let labels := [("server_id", srv.id.text), ("container_name", metric.containerName),
    ("deployment_id", active.target.deploymentID.text)]
  containerMetricSet .container active.target.id "container." metric labels ++
    containerMetricSet .app active.deployment.appID "app.container_" metric labels ++
    containerMetricSet .project active.projectID "project.container_" metric labels ++
    containerMetricSet .cluster active.clusterID "cluster.container_" metric labels

/-- The metric is recorded for the container's target, app, project and cluster, and for no
other app. -/
def Reaches (st st' : Store) (srv : Server) (active : ActiveTarget) (metric : ContainerMetric) :
    Prop :=
  ∃ new, st'.samples = new ++ st.samples ∧
    (∀ sample ∈ expectedSamples srv active metric, sample ∈ new) ∧
    ∀ sample ∈ new, sample.scope = .app →
      ("container_name", metric.containerName) ∈ sample.labels →
      sample.scopeID = active.deployment.appID

/-- A healthy target of a healthy deployment on the agent's server, whose container was started
by `HandleDeployCommand`: docker printed an id, the container has the name of the
command, and the row has the `container_id` that handling the success stored. -/
structure Serving (st : Store) (agentID : String) (srv : Server) (active : ActiveTarget)
    (order : DeployOrder) (host : Host) : Prop where
  server : st.getServerByAgentID agentID = some srv
  row : active.target ∈ st.world.targets
  place : active.target.serverID = srv.id
  healthy : active.target.status = .healthy
  deployment : st.world.getDeployment active.target.deploymentID = some active.deployment
  deployed : active.deployment.status = .healthy
  named : ∃ app project, st.world.getApp active.deployment.appID = some app ∧
    st.world.getProject app.projectID = some project ∧ project.id = active.projectID ∧
    project.clusterID = active.clusterID ∧
    order.containerName = containerName app.slug active.deployment.id
  printed : ∃ output, host.run = .ok output ∧ PrintsID output
  stored : ∃ out ∈ handleDeployCommand order host, out.success = true ∧ ∃ (w : World) (t : _),
    (w.updateDeploymentTargetStatus (targetUpdate out active.target.id w.now)).targets.find?
      active.target.id = some t ∧ active.target.containerID = t.containerID

theorem stored_containerID {w : World} {out : DeployOutput} {id : UUID} {t : DeploymentTarget}
    (healthy : out.phase = "healthy") (filled : out.containerID ≠ "")
    (found : (w.updateDeploymentTargetStatus (targetUpdate out id w.now)).targets.find? id = some t) :
    t.containerID = some out.containerID := by
  have status : TargetStatus.ofText (targetUpdate out id w.now).status = some .healthy := by
    show TargetStatus.ofText out.phase = _
    rw [healthy]
    rfl
  simp only [World.updateDeploymentTargetStatus, status] at found
  obtain ⟨mem, key⟩ := Table.find?_eq_some_iff.mp found
  rw [Table.mem_update] at mem
  obtain ⟨old, -, same⟩ := mem
  split at same
  · subst same
    show (if out.containerID ≠ "" then some out.containerID else none).or old.containerID = _
    rw [if_pos filled]
    rfl
  · next other =>
    subst same
    exact absurd key other

theorem PrintsID.nonempty {output : String} (prints : PrintsID output) :
    containerIDOf output ≠ "" := by
  obtain ⟨c, rest, chars, -⟩ := prints.containerID
  intro empty
  rw [empty] at chars
  cases chars

theorem Serving.containerID {st : Store} {agentID : String} {srv : Server} {active : ActiveTarget}
    {order : DeployOrder} {host : Host} (serving : Serving st agentID srv active order host) :
    ∃ output, PrintsID output ∧ active.target.containerID = some (containerIDOf output) := by
  obtain ⟨out, mem, success, w, t, found, same⟩ := serving.stored
  obtain ⟨output, ran, message⟩ := handleDeployCommand_success mem success
  obtain ⟨output', ran', prints⟩ := serving.printed
  obtain rfl : output = output' := Except.ok.inj (ran.symm.trans ran')
  have phase : out.phase = "healthy" := by rw [message, DeployOrder.output]
  have carried : out.containerID = containerIDOf output := by rw [message, DeployOrder.output]
  refine ⟨output, prints, same.trans ?_⟩
  rw [← carried]
  exact stored_containerID phase (by rw [carried]; exact prints.nonempty) found

theorem recordMetrics_samples (st : Store) (xs : List MetricSample) :
    ∃ new, (st.recordMetrics xs).samples = new ++ st.samples ∧ ∀ x ∈ new, x ∈ xs := by
  induction xs generalizing st with
  | nil => exact ⟨[], rfl, nofun⟩
  | cons x xs ih =>
    obtain ⟨new, same, within⟩ := ih (st.recordMetric x)
    have later : ∀ y ∈ new, y ∈ x :: xs := fun y mem => List.mem_cons_of_mem x (within y mem)
    show ∃ new, ((st.recordMetric x).recordMetrics xs).samples = _ ∧ _
    rw [same, Store.recordMetric]
    split
    · exact ⟨new, rfl, later⟩
    · refine ⟨new ++ [x], by simp, fun y mem => ?_⟩
      rcases List.mem_append.mp mem with mem | last
      · exact later y mem
      · obtain rfl := List.mem_singleton.mp last
        exact List.mem_cons_self

theorem containerMetricSet_scope {scope : Scope} {scopeID : UUID} {start : String}
    {metric : ContainerMetric} {labels : EnvMap} {sample : MetricSample}
    (mem : sample ∈ containerMetricSet scope scopeID start metric labels) : sample.scope = scope := by
  obtain ⟨entry, -, rfl⟩ := List.mem_map.mp mem
  rfl

theorem containerMetricSet_scopeID {scope : Scope} {scopeID : UUID} {start : String}
    {metric : ContainerMetric} {labels : EnvMap} {sample : MetricSample}
    (mem : sample ∈ containerMetricSet scope scopeID start metric labels) :
    sample.scopeID = scopeID := by
  obtain ⟨entry, -, rfl⟩ := List.mem_map.mp mem
  rfl

theorem activeTarget_of_found {w : World} {serverID : UUID} {container : String}
    {active : ActiveTarget}
    (found : getActiveDeploymentTargetByServerContainer w serverID container = some active) :
    active.target ∈ w.targets ∧ active.target.containerID = some container := by
  have mem := List.mem_of_mem_head? (Option.mem_def.mpr found)
  rw [List.mem_insertionSort] at mem
  obtain ⟨t, row, joined⟩ := List.mem_filterMap.mp mem
  unfold activeTarget at joined
  simp only [Option.bind_eq_bind, Option.bind_eq_some_iff] at joined
  obtain ⟨d, -, app, -, project, -, kept⟩ := joined
  split at kept
  · next fits =>
    cases kept
    exact ⟨row, fits.2.1⟩
  · cases kept

/-- A sample of a container is recorded for a target that has the reported name as its id. -/
theorem containerSamples_target {w : World} {srv : Server} {metric : ContainerMetric}
    {sample : MetricSample} (mem : sample ∈ containerSamples w srv metric)
    (scope : sample.scope = .container) :
    ∃ t ∈ w.targets, t.id = sample.scopeID ∧ t.containerID = some metric.containerName := by
  unfold containerSamples at mem
  split at mem
  · cases mem
  · split at mem
    · cases mem
    · next active found =>
      obtain ⟨row, carried⟩ := activeTarget_of_found found
      refine ⟨active.target, row, ?_, carried⟩
      dsimp only at mem
      simp only [List.mem_append] at mem
      rcases mem with ((set | set) | set) | set
      · rw [containerMetricSet_scopeID set]
      · cases (containerMetricSet_scope set).symm.trans scope
      · cases (containerMetricSet_scope set).symm.trans scope
      · cases (containerMetricSet_scope set).symm.trans scope

/-- **No metric of a container reaches its target**: whatever lines docker prints, among them the
one of the container under its name, no line is recorded for the container, as the row
has a hexadecimal id where the report has a name. -/
theorem metrics_never_reach (st : Store) (agentID : String) (srv : Server) (active : ActiveTarget)
    (order : DeployOrder) (host : Host) (docker : DockerReadings) (line : DockerStatsLine)
    (serving : Serving st agentID srv active order host) :
    ¬ Reaches st (handleMetricReport agentID st docker.collectContainerMetrics) srv active
      (docker.metric line) := by
  rintro ⟨new, samples, recorded, -⟩
  unfold handleMetricReport at samples
  rw [serving.server] at samples
  obtain ⟨new', same, within⟩ := recordMetrics_samples st
    (docker.collectContainerMetrics.flatMap (containerSamples st.world srv))
  obtain rfl : new = new' := List.append_cancel_right (samples.symm.trans same)
  -- the first of the expected samples is one of the container
  have first := recorded _ (List.mem_append_left _ (List.mem_append_left _ (List.mem_append_left _
    List.mem_cons_self)))
  obtain ⟨m, reported, inside⟩ := List.mem_flatMap.mp (within _ first)
  obtain ⟨t, row, key, carried⟩ := containerSamples_target inside rfl
  obtain ⟨output, prints, stored⟩ := serving.containerID
  have sameRow : t = active.target := Table.eq_of_key_eq row serving.row key
  rw [sameRow, stored] at carried
  exact prints.ne_name (DockerReadings.collected_name reported) (Option.some.inj carried)

/-! ## A container without metrics -/

def webRow : App := { id := 1, projectID := 5, name := "Web", slug := "web" }

def webDeployment : Deployment := { id := 10, appID := 1, environmentID := 4, buildID := 6 }

def dispatchedStore : Store :=
  { world := {
      projects := ⟨[{ id := 5, teamID := 2, clusterID := 8, name := "Shop", slug := "shop" }],
        by decide⟩
      apps := ⟨[webRow], by decide⟩
      servers := .single { id := 3, teamID := 2, agentID := some "agent-a" }
      deployments := ⟨[webDeployment], by decide⟩
      targets := ⟨[{ id := 20, deploymentID := 10, serverID := 3 }], by decide⟩ } }

def webOrder : DeployOrder :=
  { deployID := 10, targetID := 20, containerName := containerName "web" 10, port := 8080 }

/-- Docker starts the container, and it answers at once. -/
def webHost : Host where
  run := .ok "3f4e5d6c7b8a99880011223344556677889900aabbccddeeff00112233445566\n"
  probes := [{ running := true, passes := true }]
  addresses _ := some "172.18.0.5\n"

def servedStore : Store :=
  (handleDeployCommand webOrder webHost).foldl handleDeployOutput dispatchedStore

def webTarget : DeploymentTarget :=
  { id := 20
    deploymentID := 10
    serverID := 3
    containerID := some "3f4e5d6c7b8a"
    status := .healthy
    startedAt := some 0
    healthyAt := some 0 }

def webActive : ActiveTarget where
  target := webTarget
  deployment :=
    { webDeployment with status := .healthy, replicasReady := 1, completedAt := some 0 }
  projectID := 5
  clusterID := 8

def webStats : DockerReadings where
  stats := [{ name := containerName "web" 10, cpuPerc := "12.5%" }]
  parsePercent _ := .finite (25 / 2)
  parseByteSize _ := 0

/-- The replica is up, docker lists it under its name, and nothing is recorded. -/
theorem healthy_container_unrecorded :
    servedStore.world.targets.rows = [webTarget] ∧
      webStats.collectContainerMetrics.map ContainerMetric.containerName = ["nixway-web-00000000"] ∧
      (handleMetricReport "agent-a" servedStore webStats.collectContainerMetrics).samples = [] ∧
      ¬ Reaches servedStore
        (handleMetricReport "agent-a" servedStore webStats.collectContainerMetrics)
        { id := 3, teamID := 2, agentID := some "agent-a" } webActive
        (webStats.metric { name := containerName "web" 10, cpuPerc := "12.5%" }) := by
  have none : (handleMetricReport "agent-a" servedStore
      webStats.collectContainerMetrics).samples = [] := by decide
  refine ⟨by decide, by decide, none, ?_⟩
  rintro ⟨new, samples, recorded, -⟩
  rw [none] at samples
  have empty : new = [] := (List.append_eq_nil_iff.mp samples.symm).1
  subst empty
  exact absurd (recorded _ List.mem_cons_self) List.not_mem_nil

theorem web_serving : Serving servedStore "agent-a"
    { id := 3, teamID := 2, agentID := some "agent-a" } webActive webOrder webHost where
  server := by decide
  row := by
    show webTarget ∈ servedStore.world.targets.rows
    decide
  place := rfl
  healthy := rfl
  deployment := by decide
  deployed := rfl
  named := ⟨webRow, _, by decide, rfl, rfl, rfl, rfl⟩
  printed := ⟨_, rfl, by decide, by decide⟩
  stored := by
    refine ⟨webOrder.output "healthy" "3f4e5d6c7b8a" true true "", by decide, rfl,
      dispatchedStore.world, webTarget, by decide, rfl⟩

theorem web_metrics_lost :
    Serving servedStore "agent-a" { id := 3, teamID := 2, agentID := some "agent-a" } webActive
        webOrder webHost ∧
      ¬ Reaches servedStore
        (handleMetricReport "agent-a" servedStore webStats.collectContainerMetrics)
        { id := 3, teamID := 2, agentID := some "agent-a" } webActive
        (webStats.metric { name := containerName "web" 10, cpuPerc := "12.5%" }) :=
  ⟨web_serving, metrics_never_reach servedStore "agent-a" _ webActive webOrder webHost webStats _
    web_serving⟩

end Nixway.Intake
