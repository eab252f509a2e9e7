/-
# Apps.Delete -- what deleting an app leaves behind

`Delete` of `internal/app/service.go` beside the three stores it does not own: the
containers and Traefik files of the agents, the port reservations of the servers and the
DNS zone.  It reconstructs the name of the app's DNS record, executes one DELETE whose
cascade takes every row that names a container or a port, and then asks for the record to
be deleted; an error there is only logged.

No command goes to an agent and no port is released, so what was not torn down before
stays (`delete_leaves_nothing_iff`).
-/
import Nixway.Store.Integrity
import Nixway.Deploy.Dispatch
import Nixway.Agent.Traefik
import Nixway.Dns.Cloudflare

namespace Nixway.Apps

open Nixway.Theory Nixway.Store Nixway.Agent
open Nixway.Theory.Prog (query exec atomic)
open Nixway.Deploy (DnsConfig containerName httpURL)
open Nixway.Dns (Zone deleteRecord)

set_option autoImplicit false

/-! ## Delete -/

/-- The database and the DNS zone. -/
abbrev Site := World × Zone

def generateDomain (appSlug projectSlug teamSlug baseDomain : String) : String :=
  appSlug ++ "-" ++ projectSlug ++ "-" ++ teamSlug ++ "." ++ baseDomain

/-- The name of the app's record; empty without a provider or when a row is missing. -/
def reconstructDomain (dns : DnsConfig) (appID : UUID) : Prog Site String := do
  if dns.enabled ∧ dns.baseDomain ≠ "" then
    let some app ← query fun s : Site => s.1.getApp appID
      | return ""
    let some project ← query fun s : Site => s.1.getProject app.projectID
      | return ""
    let some team ← query fun s : Site => s.1.getTeamByID project.teamID
      | return ""
    return generateDomain app.slug project.slug team.slug dns.baseDomain
  else return ""

/-- `Delete`; `answers` says whether the provider serves the requests of `DeleteRecord`,
whose error is only logged. -/
def delete (dns : DnsConfig) (answers : Bool) (appID : UUID) : Prog Site (Except String Unit) := do
  let domain ← reconstructDomain dns appID
  match ← atomic fun s : Site => (((s.1.deleteApp appID).1, s.2), (s.1.deleteApp appID).2) with
  | .error err => return .error err
  | .ok () =>
    if domain ≠ "" ∧ answers then (deleteRecord domain).onSnd
    return .ok ()

/-! ## Agents -/

structure Container where
  id : String
  name : String
  labels : EnvMap

/-- How a deploy command ends: no container is left running, or one runs under this id
and passed its health check or not. -/
inductive DeployEnd where
  | notRunning
  | unhealthy (id : String)
  | healthy (id : String)

def DeployEnd.container : DeployEnd → Option String
  | .notRunning => none
  | .unhealthy id => some id
  | .healthy id => some id

def DeployEnd.isHealthy : DeployEnd → Bool
  | .healthy _ => true
  | _ => false

/-- A server as its agent manages it. -/
structure Node where
  containers : List Container := []
  dir : DynamicDir := fun _ => none

/-- The containers after a message; `docker stop` and `docker rm` take a name or an id. -/
def Node.containersAfter (ended : DeployCommand → DeployEnd) (node : Node) :
    ControlMessage → List Container
  | .deployCommand cmd =>
    ((ended cmd).container.map fun id => ⟨id, cmd.containerName, cmd.labels⟩).toList ++
      node.containers
  | .stopContainer cmd =>
    node.containers.filter fun c => c.name ≠ cmd.containerName && c.id ≠ cmd.containerName
  | .trafficRoute _ => node.containers
  | .execCommand _ => node.containers

def Node.handle (ended : DeployCommand → DeployEnd) (node : Node) (msg : ControlMessage) : Node where
  containers := node.containersAfter ended msg
  dir := Agent.handle (fun cmd => (ended cmd).isHealthy) node.dir msg

/-! ## The platform -/

/-- Everything at once: the site, the servers by their agents, and the commands that were
sent to agents and are not handled yet. -/
structure Platform where
  site : Site
  nodes : String → Node
  pending : List (String × ControlMessage) := []

namespace Platform

variable (ended : String → DeployCommand → DeployEnd)

def world (p : Platform) : World := p.site.1

def connected (p : Platform) (agentID : String) : Bool :=
  (p.world.agents.find? agentID).any fun state => state.stream = .live

/-- The connected agents have handled the commands sent to them, in order. -/
def settled (p : Platform) : Platform :=
  { p with
    nodes := fun agentID =>
      if p.connected agentID then
        ((p.pending.filter fun m => m.1 = agentID).map Prod.snd).foldl
          (Node.handle (ended agentID)) (p.nodes agentID)
      else p.nodes agentID
    pending := p.pending.filter fun m => !p.connected m.1 }

theorem settled_nodes_of_quiet {p : Platform} (quiet : p.pending = []) :
    (p.settled ended).nodes = p.nodes := by
  funext agentID
  unfold settled
  simp [quiet]

/-- `Delete` has run; what it sent is on its way. -/
def deleted (p : Platform) (dns : DnsConfig) (answers : Bool) (appID : UUID) : Platform :=
  { p with
    site := (delete dns answers appID).out p.site
    pending := p.pending ++
      ((delete dns answers appID).out p.site).1.sent.drop p.world.sent.length }

end Platform

/-! ## What may be left -/

section Left

variable (w : World) (appID : UUID)

/-- The container was started for the app. -/
def RunsFor (c : Container) : Prop := label c.labels "nixway.app_id" = appID.text

instance (c : Container) : Decidable (RunsFor appID c) := inferInstanceAs (Decidable (_ = _))

/-- The URL is of a replica of the app: its container on the node's network, or the host
port it has on the mesh. -/
def LeadsTo (url : String) : Prop :=
  (∃ d ∈ w.deployments.rows, d.appID = appID ∧ ∃ app ∈ w.getApp appID,
    ("http://" ++ containerName app.slug d.id ++ ":").toList <+: url.toList) ∨
  ∃ t ∈ w.targets.rows, w.deploymentOf appID t.deploymentID = true ∧
    ∃ address ∈ t.bindAddress, ∃ port ∈ t.hostPort, url = httpURL address port

/-- The file routes to the app. -/
def RoutesTo (cfg : DynamicConfig) : Prop := ∃ url ∈ cfg.urls, LeadsTo w appID url

/-- The reservation was taken for a target of the app. -/
def TakenFor (a : ServerPortAllocation) : Prop := a.deploymentTargetID.any (w.targetOf appID) = true

instance (a : ServerPortAllocation) : Decidable (TakenFor w appID a) :=
  inferInstanceAs (Decidable (_ = true))

end Left

/-- Nothing of the app of the store `before` is left: no container on a connected server,
no file that routes to it, no reservation that is not released, no record of a platform
domain. -/
structure LeavesNothing (before after : Platform) (appID : UUID) : Prop where
  containers : ∀ agentID, after.connected agentID = true →
    ∀ c ∈ (after.nodes agentID).containers, ¬ RunsFor appID c
  files : ∀ agentID file, ∀ cfg ∈ (after.nodes agentID).dir file, ¬ RoutesTo before.world appID cfg
  ports : ∀ row ∈ before.world.ports.zip after.world.ports,
    TakenFor before.world appID row.1 → row.2.releasedAt ≠ none
  records : ∀ d ∈ before.world.deployments, d.appID = appID →
    after.site.2.named d.platformDomain = []

/-- The name of the record the store has rows for. -/
def domainOf (dns : DnsConfig) (w : World) (appID : UUID) : Option String :=
  if dns.enabled ∧ dns.baseDomain ≠ "" then do
    let app ← w.getApp appID
    let project ← w.getProject app.projectID
    let team ← w.getTeamByID project.teamID
    some (generateDomain app.slug project.slug team.slug dns.baseDomain)
  else none

/-- Everything of the app has been torn down before, but for one record of the name that
`Delete` reconstructs from the rows, with a provider that answers. -/
structure TornDown (ended : String → DeployCommand → DeployEnd) (dns : DnsConfig) (answers : Bool)
    (p : Platform) (appID : UUID) : Prop where
  containers : ∀ agentID, p.connected agentID = true →
    ∀ c ∈ ((p.settled ended).nodes agentID).containers, ¬ RunsFor appID c
  files : ∀ agentID file, ∀ cfg ∈ ((p.settled ended).nodes agentID).dir file,
    ¬ RoutesTo p.world appID cfg
  ports : ∀ a ∈ p.world.ports, TakenFor p.world appID a → a.releasedAt ≠ none
  records : ∀ d ∈ p.world.deployments, d.appID = appID →
    (p.site.2.named d.platformDomain).length ≤
      (if answers ∧ domainOf dns p.world appID = some d.platformDomain then 1 else 0)

/-! ## What Delete does -/

theorem generateDomain_ne (appSlug projectSlug teamSlug baseDomain : String) :
    generateDomain appSlug projectSlug teamSlug baseDomain ≠ "" := by
  intro empty
  have shorter := congrArg String.length empty
  simp only [generateDomain, String.length_append, String.length_empty] at shorter
  have dash : "-".length = 1 := rfl
  omega

/-- The record's name is read off the rows, and nothing is written. -/
theorem run_reconstructDomain (dns : DnsConfig) (appID : UUID) (s : Site) :
    (reconstructDomain dns appID).run s = (s, (domainOf dns s.1 appID).getD "") := by
  unfold reconstructDomain domainOf
  split
  · simp only [Option.bind_eq_bind]
    rw [Prog.run_query_bind]
    cases s.1.getApp appID with
    | none => rfl
    | some app =>
      dsimp only
      rw [Prog.run_query_bind, Option.bind_some]
      cases s.1.getProject app.projectID with
      | none => rfl
      | some project =>
        dsimp only
        rw [Prog.run_query_bind, Option.bind_some]
        cases s.1.getTeamByID project.teamID with
        | none => rfl
        | some team => rfl
  · rfl

theorem domainOf_ne {dns : DnsConfig} {w : World} {appID : UUID} {name : String}
    (found : domainOf dns w appID = some name) : name ≠ "" := by
  unfold domainOf at found
  split at found
  · simp only [Option.bind_eq_bind, Option.bind_eq_some_iff, Option.some.injEq] at found
    obtain ⟨app, -, project, -, team, -, rfl⟩ := found
    exact generateDomain_ne _ _ _ _
  · cases found

/-- A delete that succeeds is the one statement, and the deletion of one record. -/
theorem delete_run {dns : DnsConfig} {answers : Bool} {appID : UUID} {s : Site}
    (ok : (delete dns answers appID).result s = .ok ()) :
    (s.1.deleteApp appID).2 = .ok () ∧
      ((delete dns answers appID).out s).1 = (s.1.deleteApp appID).1 ∧
      ∀ name, ((delete dns answers appID).out s).2.named name =
        if answers ∧ domainOf dns s.1 appID = some name then (s.2.named name).tail
        else s.2.named name := by
  unfold Prog.result delete at ok
  unfold Prog.out delete
  rw [Prog.run_bind, run_reconstructDomain, Prog.run_atomic_bind] at ok ⊢
  dsimp only at ok ⊢
  cases done : (s.1.deleteApp appID).2 with
  | error err =>
    rw [done] at ok
    cases ok
  | ok _ =>
    dsimp only
    refine ⟨rfl, ?_⟩
    cases found : domainOf dns s.1 appID with
    | none =>
      rw [if_neg fun asks => asks.1 rfl]
      exact ⟨rfl, fun name => (if_neg fun h => nomatch h.2).symm⟩
    | some domain =>
      cases answers with
      | false =>
        rw [if_neg fun asks => nomatch asks.2]
        exact ⟨rfl, fun name => (if_neg fun h => nomatch h.1).symm⟩
      | true =>
        have asks : (some domain).getD "" ≠ "" ∧ true = true := ⟨domainOf_ne found, rfl⟩
        rw [if_pos asks, Prog.run_bind, Prog.run_onSnd]
        refine ⟨rfl, fun name => ?_⟩
        by_cases same : domain = name
        · subst same
          rw [if_pos ⟨rfl, rfl⟩]
          exact Zone.named_deleteRecord s.2 domain
        · rw [if_neg fun h => same (Option.some.inj h.2)]
          exact Zone.named_deleteRecord_ne s.2 (Ne.symm same)

/-- A successful `DELETE FROM apps` touches the reservations only where they lose their
target, and neither agents nor messages. -/
theorem deleteApp_frame {w : World} {appID : UUID} (done : (w.deleteApp appID).2 = .ok ()) :
    (w.deleteApp appID).1.sent = w.sent ∧ (w.deleteApp appID).1.agents = w.agents ∧
      (w.deleteApp appID).1.ports = w.ports.map fun a =>
        if TakenFor w appID a then { a with deploymentTargetID := none } else a := by
  rw [World.deleteApp, if_neg (by rw [World.deleteApp_ok done]; exact Bool.false_ne_true)]
  exact ⟨rfl, rfl, rfl⟩

theorem tail_or_self_eq_nil {α : Type} (l : List α) (cond : Prop) [Decidable cond] :
    (if cond then l.tail else l) = [] ↔ l.length ≤ if cond then 1 else 0 := by
  split
  · rw [← List.length_eq_zero_iff, List.length_tail]
    omega
  · rw [Nat.le_zero, List.length_eq_zero_iff]

/-- **When deleting an app leaves nothing behind.**  For every platform, every history of
deployments its rows are the result of and every delete that succeeds: once the connected
agents have handled everything sent to them, nothing of the app is left exactly when it
had been torn down before, one DNS record apart. -/
theorem delete_leaves_nothing_iff (ended : String → DeployCommand → DeployEnd) (dns : DnsConfig)
    (answers : Bool) (p : Platform) (appID : UUID)
    (ok : (delete dns answers appID).result p.site = .ok ()) :
    LeavesNothing p ((p.deleted dns answers appID).settled ended) appID ↔
      TornDown ended dns answers p appID := by
  obtain ⟨done, rows, records⟩ := delete_run ok
  obtain ⟨sent, agents, ports⟩ := deleteApp_frame done
  -- the same agents are connected, and nothing new is on its way
  have same : (p.deleted dns answers appID).connected = p.connected := by
    funext agentID
    show (((delete dns answers appID).out p.site).1.agents.find? agentID).any _ = _
    rw [rows, agents]
    rfl
  have connected : ((p.deleted dns answers appID).settled ended).connected = p.connected := same
  have nodes : ((p.deleted dns answers appID).settled ended).nodes = (p.settled ended).nodes := by
    have quiet : (p.deleted dns answers appID).pending = p.pending := by
      show p.pending ++ _ = p.pending
      rw [rows, sent]
      simp [Platform.world]
    unfold Platform.settled
    rw [quiet, same]
    rfl
  -- a reservation keeps its release
  have reserved : ((p.deleted dns answers appID).settled ended).world.ports = p.world.ports.map
      fun a => if TakenFor p.world appID a then { a with deploymentTargetID := none } else a := by
    show ((delete dns answers appID).out p.site).1.ports = _
    rw [rows, ports]
    rfl
  have released : (∀ row ∈ p.world.ports.zip
        ((p.deleted dns answers appID).settled ended).world.ports,
        TakenFor p.world appID row.1 → row.2.releasedAt ≠ none) ↔
      ∀ a ∈ p.world.ports, TakenFor p.world appID a → a.releasedAt ≠ none := by
    rw [reserved, ← List.map_prod_left_eq_zip, List.forall_mem_map]
    refine forall₃_congr fun a _ taken => ?_
    rw [if_pos taken]
  have zone : ∀ name, ((p.deleted dns answers appID).settled ended).site.2.named name = [] ↔
      (p.site.2.named name).length ≤
        if answers ∧ domainOf dns p.world appID = some name then 1 else 0 := by
    intro name
    show ((delete dns answers appID).out p.site).2.named name = [] ↔ _
    rw [records name, tail_or_self_eq_nil]
    rfl
  constructor
  · rintro ⟨containers, files, left, named⟩
    rw [nodes, connected] at containers
    rw [nodes] at files
    exact ⟨containers, files, released.mp left, fun d member own => (zone _).mp (named d member own)⟩
  · rintro ⟨containers, files, left, named⟩
    rw [← connected, ← nodes] at containers
    rw [← nodes] at files
    exact ⟨containers, files, released.mpr left, fun d member own => (zone _).mpr (named d member own)⟩

section Shop

def web : App := { id := 20, projectID := 10, name := "web", slug := "web" }
def shopProject : Project := ⟨10, 11, 12, "shop", "shop"⟩
def webBuild : Store.Build := { id := 30, imageTag := "web:1", appID := 20 }
def webDeployment : Deployment := { id := 1, appID := 20, environmentID := 40, buildID := 30 }
def webTarget : DeploymentTarget := { id := 81, deploymentID := 1, serverID := 71 }
def cloudflare : DnsConfig := { enabled := true, baseDomain := "apps.test" }

/-- One deployment of the app on the worker of a cluster with an edge server. -/
def shop : World :=
  { teams := .single ⟨11, "acme"⟩
    projects := ⟨[shopProject], by decide⟩
    apps := ⟨[web], by decide⟩
    builds := ⟨[webBuild], by decide⟩
    servers := ⟨[{ id := 70, teamID := 11, clusterID := some 12, role := .edge },
      { id := 71, teamID := 11, clusterID := some 12, agentID := some (UUID.text 71),
        createdAt := 2 }], by decide⟩
    deployments := ⟨[webDeployment], by decide⟩
    targets := ⟨[webTarget], by decide⟩
    agents := .single { agentID := UUID.text 71 } }

/-- Its dispatch has taken a port and sent the command. -/
def dispatched : World :=
  (Deploy.dispatchDeploy cloudflare webDeployment webTarget webBuild web shopProject
    { serverID := 71, wireguardIp := "10.0.0.2" }).out shop

def dispatchedPlatform : Platform where
  site := (dispatched, {})
  nodes := fun _ => {}
  pending := dispatched.sent

/-- The container of the deleted app runs, and its port is taken. -/
theorem deleted_app_runs_on :
    (delete cloudflare true 20).result dispatchedPlatform.site = .ok () ∧
      ¬ LeavesNothing dispatchedPlatform
          ((dispatchedPlatform.deleted cloudflare true 20).settled fun _ _ => .healthy "c1") 20 := by
  refine ⟨by decide +kernel, fun left => ?_⟩
  exact absurd (left.containers (UUID.text 71) (by decide +kernel)) (by decide +kernel)

/-- The deployment is stopped, its port released; the record of the app is still there. -/
def stoppedPlatform : Platform where
  site :=
    ({ shop with
        deployments := ⟨[{ webDeployment with platformDomain := "web-shop-acme.apps.test" }], by decide⟩
        targets := ⟨[{ webTarget with status := .stopped, hostPort := some 30000 }], by decide⟩
        ports := [⟨71, 30000, some 81, some 5⟩] },
      { records := ⟨[⟨0, "web-shop-acme.apps.test", "10.0.0.2", false⟩], by decide⟩, nextID := 1 })
  nodes := fun _ => {}

theorem stopped_app_leaves_nothing :
    LeavesNothing stoppedPlatform
      ((stoppedPlatform.deleted cloudflare true 20).settled fun _ _ => .notRunning) 20 := by
  refine (delete_leaves_nothing_iff (fun _ _ => .notRunning) cloudflare true stoppedPlatform 20
    (by decide +kernel)).mpr ⟨?_, ?_, ?_, ?_⟩
  · intro agentID _ c mem
    rw [Platform.settled_nodes_of_quiet _ rfl] at mem
    cases mem
  · intro agentID file cfg found
    rw [Platform.settled_nodes_of_quiet _ rfl] at found
    cases found
  · decide +kernel
  · show ∀ d ∈ stoppedPlatform.world.deployments.rows, _
    decide +kernel

end Shop

end Nixway.Apps
