/-
# Deploy.Sync -- what SyncTrafficRoute sends

`syncTrafficRoute` reads the route's backends and hands one command to each agent that
routes for it.  Run alone it changes nothing but `sent`, and `syncMessages` is exactly
what it appends there (`syncTrafficRoute_run`).  Which backends the commands mention is
`mem_pushed_iff`: those the sync lists that have a replica an agent can be told about.
-/
import Nixway.Deploy.Traffic

namespace Nixway.Deploy

open Nixway.Theory Nixway.Store
open Nixway.Theory.Prog (query exec atomic forEach)

set_option autoImplicit false

/-! ## Sends -/

def live (w : World) (agentID : String) : Bool :=
  (w.agents.find? agentID).any fun state => state.stream = .live

/-- What of a message to the agent is handed over. -/
def handed (w : World) (agentID : String) (msg : ControlMessage) :
    List (String × ControlMessage) :=
  if live w agentID then [(agentID, msg)] else []

theorem sendToAgent_out (agentID : String) (msg : ControlMessage) (w : World) :
    (sendToAgent agentID msg w).1 = { w with sent := w.sent ++ handed w agentID msg } := by
  unfold sendToAgent handed live
  match w.agents.find? agentID with
  | none => simp
  | some state =>
    match here : state.stream with
    | .missing => simp [here]
    | .broken error => simp [here]
    | .live => simp [here]

theorem sendBestEffort_out (agentID : String) (msg : ControlMessage) (w : World) :
    ((sendBestEffort agentID msg).run w).1 =
      { w with sent := w.sent ++ handed w agentID msg } :=
  sendToAgent_out agentID msg w

theorem run_forEach_sends {ι : Type} {body : ι → Prog World Unit}
    {out : World → ι → List (String × ControlMessage)}
    (each : ∀ x w, ((body x).run w).1 = { w with sent := w.sent ++ out w x })
    (stable : ∀ x w sent, out { w with sent := sent } x = out w x) (xs : List ι) (w : World) :
    ((forEach xs body).run w).1 = { w with sent := w.sent ++ xs.flatMap (out w) } := by
  induction xs generalizing w with
  | nil => simp
  | cons x xs ih =>
    rw [Prog.run_forEach_cons, each, ih]
    have same : out { w with sent := w.sent ++ out w x } = out w := by
      funext y
      exact stable y w _
    simp [same]

/-! ## The groups -/

def edgeGroup (w : World) (app : App) (backend : TrafficBackend) : Option TrafficBackendGroup :=
  let urls := edgeURLs (w.listDeploymentTargets backend.deploymentID)
  if urls = [] then none
  else some ⟨trafficServiceName app.slug backend.label backend.deploymentID, backend.weight, urls⟩

theorem edgeGroups_run (app : App) (backends : List TrafficBackend) (w : World) :
    (edgeGroups app backends).run w = (w, backends.filterMap (edgeGroup w app)) := by
  induction backends with
  | nil => rfl
  | cons backend rest ih =>
    rw [edgeGroups, Prog.run_query_bind, Prog.run_bind, ih]
    by_cases none : edgeURLs (w.listDeploymentTargets backend.deploymentID) = []
    · simp [edgeGroup, none]
    · simp [edgeGroup, none]

def agentOf (w : World) (teamID : UUID) (target : DeploymentTarget) : Option String :=
  (w.getServerByID target.serverID teamID).bind Server.agentID

def addTarget (w : World) (app : App) (teamID : UUID) (backend : TrafficBackend)
    (acc : List ServerGroups) (target : DeploymentTarget) : List ServerGroups :=
  if target.status = .healthy then
    match agentOf w teamID target with
    | none => acc
    | some agentID => addGroup target.serverID agentID (localGroup app backend) acc
  else acc

def addBackend (w : World) (app : App) (teamID : UUID) (acc : List ServerGroups)
    (backend : TrafficBackend) : List ServerGroups :=
  (w.listDeploymentTargets backend.deploymentID).foldl (addTarget w app teamID backend) acc

theorem localTargets_run (app : App) (teamID : UUID) (backend : TrafficBackend)
    (targets : List DeploymentTarget) (acc : List ServerGroups) (w : World) :
    (localTargets app teamID backend targets acc).run w =
      (w, targets.foldl (addTarget w app teamID backend) acc) := by
  induction targets generalizing acc with
  | nil => rfl
  | cons target rest ih =>
    rw [localTargets, List.foldl_cons, addTarget]
    split
    · rw [Prog.run_query_bind]
      match found : agentOf w teamID target with
      | none =>
        rw [agentOf] at found
        rw [found]
        exact ih acc
      | some agentID =>
        rw [agentOf] at found
        rw [found]
        exact ih _
    · exact ih acc

theorem localGroups_run (app : App) (teamID : UUID) (backends : List TrafficBackend)
    (acc : List ServerGroups) (w : World) :
    (localGroups app teamID backends acc).run w =
      (w, backends.foldl (addBackend w app teamID) acc) := by
  induction backends generalizing acc with
  | nil => rfl
  | cons backend rest ih =>
    rw [localGroups, Prog.run_query_bind, Prog.run_bind, localTargets_run, ih]
    rfl

/-! ## The messages -/

def edgeMessages (w : World) (cmd : TrafficRouteCommand) (edge : Server) :
    List (String × ControlMessage) :=
  match edge.agentID with
  | none => []
  | some agentID => handed w agentID (.trafficRoute cmd)

def localMessages (w : World) (app : App) (domains : List String) (entry : ServerGroups) :
    List (String × ControlMessage) :=
  if entry.agentID = "" then []
  else handed w entry.agentID
    (.trafficRoute { appSlug := app.slug, domains := domains, groups := entry.groups })

def syncMessages (w : World) (route : TrafficRoute) (app : App) (project : Project) :
    List (String × ControlMessage) :=
  let backends := w.listTrafficBackendsForSync route.id
  let edgeServers := w.listEdgeServersByCluster project.clusterID
  if edgeServers ≠ [] then
    let groups := backends.filterMap (edgeGroup w app)
    if groups = [] then []
    else edgeServers.flatMap (edgeMessages w
      { appSlug := app.slug, domains := trafficDomains app route, groups := groups })
  else
    (backends.foldl (addBackend w app project.teamID) []).flatMap
      (localMessages w app (trafficDomains app route))

theorem edgeLoop_out (cmd : TrafficRouteCommand) (edges : List Server) (w : World) :
    ((forEach edges fun edge =>
        match edge.agentID with
        | none => (return : Prog World Unit)
        | some agentID => sendBestEffort agentID (.trafficRoute cmd)).run w).1 =
      { w with sent := w.sent ++ edges.flatMap (edgeMessages w cmd) } := by
  apply run_forEach_sends
  · intro edge w
    unfold edgeMessages
    cases edge.agentID with
    | none => simp
    | some agentID => exact sendBestEffort_out agentID _ w
  · intro edge w sent
    rfl

theorem localLoop_out (app : App) (domains : List String) (entries : List ServerGroups)
    (w : World) :
    ((forEach entries fun entry =>
        if entry.agentID = "" then (return : Prog World Unit)
        else sendBestEffort entry.agentID (.trafficRoute
          { appSlug := app.slug, domains := domains, groups := entry.groups })).run w).1 =
      { w with sent := w.sent ++ entries.flatMap (localMessages w app domains) } := by
  apply run_forEach_sends
  · intro entry w
    unfold localMessages
    split
    · simp
    · exact sendBestEffort_out entry.agentID _ w
  · intro entry w sent
    rfl

/-- **What a sync does**: it sends its messages and returns no error. -/
theorem syncTrafficRoute_run {w : World} {routeID : UUID} {route : TrafficRoute} {app : App}
    {project : Project} (routed : w.getTrafficRoute routeID = some route)
    (ofApp : w.getApp route.appID = some app) (ofProject : w.getProject app.projectID = some project) :
    (syncTrafficRoute routeID).run w =
      ({ w with sent := w.sent ++ syncMessages w route app project }, .ok ()) := by
  unfold syncTrafficRoute pushRoute syncMessages
  rw [Prog.run_query_bind, routed]
  dsimp only
  rw [Prog.run_query_bind, ofApp]
  dsimp only
  rw [Prog.run_query_bind, ofProject]
  dsimp only
  rw [Prog.run_query_bind]
  by_cases none : w.listTrafficBackendsForSync route.id = []
  · simp [none]
  · rw [if_neg none, Prog.run_query_bind]
    by_cases edges : w.listEdgeServersByCluster project.clusterID = []
    · simp only [edges, ne_eq, not_true_eq_false, if_false]
      rw [Prog.run_bind, localGroups_run, Prog.run_bind, localLoop_out]
      rfl
    · simp only [ne_eq, edges, not_false_eq_true, if_true]
      rw [Prog.run_bind, edgeGroups_run]
      by_cases empty : (w.listTrafficBackendsForSync route.id).filterMap (edgeGroup w app) = []
      · simp [empty]
      · simp only [empty, if_false]
        rw [Prog.run_bind]
        exact congrArg (fun v => (v, Except.ok ())) (edgeLoop_out _ _ w)

/-- A sync fails only when the route, its app or the app's project is missing. -/
theorem syncTrafficRoute_eq_ok {w : World} {routeID : UUID}
    (synced : ((syncTrafficRoute routeID).run w).2 = .ok ()) :
    ∃ route app project, w.getTrafficRoute routeID = some route ∧
      w.getApp route.appID = some app ∧ w.getProject app.projectID = some project := by
  unfold syncTrafficRoute at synced
  rw [Prog.run_query_bind] at synced
  match routed : w.getTrafficRoute routeID with
  | none => rw [routed] at synced; cases synced
  | some route =>
    rw [routed] at synced
    dsimp only at synced
    rw [Prog.run_query_bind] at synced
    match ofApp : w.getApp route.appID with
    | none => rw [ofApp] at synced; cases synced
    | some app =>
      rw [ofApp] at synced
      dsimp only at synced
      rw [Prog.run_query_bind] at synced
      match ofProject : w.getProject app.projectID with
      | none => rw [ofProject] at synced; cases synced
      | some project => exact ⟨route, app, project, rfl, ofApp, ofProject⟩

/-! ## Which backends are pushed -/

/-- The name and weight of every group in the messages. -/
def pushed (sent : List (String × ControlMessage)) : List (String × Int) :=
  sent.flatMap fun m =>
    match m.2 with
    | .trafficRoute cmd => cmd.groups.map fun g => (g.name, g.weight)
    | _ => []

/-- Some agent is told about the backend, should the sync list it: an edge agent that
is connected, or the agent of a server with a healthy replica. -/
def Reaches (w : World) (project : Project) (backend : TrafficBackend) : Prop :=
  if w.listEdgeServersByCluster project.clusterID ≠ [] then
    edgeURLs (w.listDeploymentTargets backend.deploymentID) ≠ [] ∧
      ∃ edge ∈ w.listEdgeServersByCluster project.clusterID, ∃ agentID ∈ edge.agentID, live w agentID
  else
    ∃ target ∈ w.listDeploymentTargets backend.deploymentID, target.status = .healthy ∧
      ∃ agentID ∈ agentOf w project.teamID target, agentID ≠ "" ∧ live w agentID

instance (w : World) (project : Project) (backend : TrafficBackend) :
    Decidable (Reaches w project backend) := by
  unfold Reaches
  infer_instance

/-- What a group says of its backend. -/
def groupOf (app : App) (backend : TrafficBackend) : String × Int :=
  (trafficServiceName app.slug backend.label backend.deploymentID, backend.weight)

theorem mem_pushed {sent : List (String × ControlMessage)} {pair : String × Int} :
    pair ∈ pushed sent ↔
      ∃ agentID cmd, (agentID, ControlMessage.trafficRoute cmd) ∈ sent ∧
        ∃ g ∈ cmd.groups, (g.name, g.weight) = pair := by
  rw [pushed, List.mem_flatMap]
  constructor
  · rintro ⟨⟨agentID, msg⟩, member, inside⟩
    cases msg with
    | trafficRoute cmd => exact ⟨agentID, cmd, member, List.mem_map.mp inside⟩
    | _ => cases inside
  · rintro ⟨agentID, cmd, member, inside⟩
    exact ⟨_, member, List.mem_map.mpr inside⟩

section Local

variable {w : World} {teamID : UUID}

/-- The entries have a group for the server. -/
def HasGroup (serverID : UUID) (g : TrafficBackendGroup) (entries : List ServerGroups) : Prop :=
  ∃ entry ∈ entries, entry.serverID = serverID ∧ g ∈ entry.groups

theorem hasGroup_addGroup {serverID server : UUID} {agentID : String} {g h : TrafficBackendGroup}
    {entries : List ServerGroups} :
    HasGroup serverID g (addGroup server agentID h entries) ↔
      HasGroup serverID g entries ∨ serverID = server ∧ g = h := by
  induction entries with
  | nil => simp [addGroup, HasGroup, eq_comm]
  | cons entry rest ih =>
    unfold addGroup
    split
    · next here =>
      subst here
      simp only [HasGroup, List.mem_cons, exists_eq_or_imp, List.mem_append,
        List.not_mem_nil, or_false, @eq_comm _ serverID entry.serverID]
      rw [and_or_left, or_right_comm]
    · next other =>
      simp only [HasGroup, List.mem_cons, exists_eq_or_imp] at ih ⊢
      rw [ih, or_assoc]

/-- The agent of an entry is the agent of its server. -/
def AgentsKnown (w : World) (teamID : UUID) (entries : List ServerGroups) : Prop :=
  ∀ entry ∈ entries,
    (w.getServerByID entry.serverID teamID).bind Server.agentID = some entry.agentID

theorem agentsKnown_nil (w : World) (teamID : UUID) : AgentsKnown w teamID [] := by
  intro entry member
  cases member

theorem agentsKnown_addGroup {server : UUID} {agentID : String} {g : TrafficBackendGroup}
    (known : (w.getServerByID server teamID).bind Server.agentID = some agentID)
    {entries : List ServerGroups} (agreed : AgentsKnown w teamID entries) :
    AgentsKnown w teamID (addGroup server agentID g entries) := by
  induction entries with
  | nil =>
    intro entry member
    rw [List.mem_singleton.mp member]
    exact known
  | cons first rest ih =>
    have tail : AgentsKnown w teamID rest := fun e mem => agreed e (List.mem_cons_of_mem first mem)
    unfold addGroup
    split
    · intro entry member
      rcases List.mem_cons.mp member with rfl | later
      · exact known
      · exact tail entry later
    · intro entry member
      rcases List.mem_cons.mp member with rfl | later
      · exact agreed entry List.mem_cons_self
      · exact ih tail entry later

/-- The target puts the group of its backend on its server. -/
def Hosts (w : World) (teamID : UUID) (serverID : UUID) (target : DeploymentTarget) : Prop :=
  target.serverID = serverID ∧ target.status = .healthy ∧ (agentOf w teamID target).isSome

theorem addTarget_spec (app : App) (backend : TrafficBackend) (target : DeploymentTarget)
    {entries : List ServerGroups} (agreed : AgentsKnown w teamID entries) :
    AgentsKnown w teamID (addTarget w app teamID backend entries target) ∧
      ∀ serverID g, HasGroup serverID g (addTarget w app teamID backend entries target) ↔
        HasGroup serverID g entries ∨
          Hosts w teamID serverID target ∧ g = localGroup app backend := by
  unfold addTarget Hosts
  split
  · next healthy =>
    match found : agentOf w teamID target with
    | none => exact ⟨agreed, by simp⟩
    | some agentID =>
      refine ⟨agentsKnown_addGroup found agreed, fun serverID g => ?_⟩
      rw [hasGroup_addGroup]
      simp [healthy, eq_comm]
  · next unhealthy => exact ⟨agreed, by simp [unhealthy]⟩

theorem addTargets_spec (app : App) (backend : TrafficBackend) (targets : List DeploymentTarget)
    {entries : List ServerGroups} (agreed : AgentsKnown w teamID entries) :
    AgentsKnown w teamID (targets.foldl (addTarget w app teamID backend) entries) ∧
      ∀ serverID g, HasGroup serverID g (targets.foldl (addTarget w app teamID backend) entries) ↔
        HasGroup serverID g entries ∨
          (∃ target ∈ targets, Hosts w teamID serverID target) ∧ g = localGroup app backend := by
  induction targets generalizing entries with
  | nil => exact ⟨agreed, by simp⟩
  | cons target rest ih =>
    obtain ⟨agreed', groups⟩ := addTarget_spec app backend target agreed
    obtain ⟨final, all⟩ := ih agreed'
    refine ⟨final, fun serverID g => ?_⟩
    rw [List.foldl_cons, all, groups]
    simp only [List.mem_cons, exists_eq_or_imp]
    rw [or_assoc, or_and_right]

theorem addBackends_spec (app : App) (backends : List TrafficBackend) {entries : List ServerGroups}
    (agreed : AgentsKnown w teamID entries) :
    AgentsKnown w teamID (backends.foldl (addBackend w app teamID) entries) ∧
      ∀ serverID g, HasGroup serverID g (backends.foldl (addBackend w app teamID) entries) ↔
        HasGroup serverID g entries ∨
          ∃ backend ∈ backends,
            (∃ target ∈ w.listDeploymentTargets backend.deploymentID,
              Hosts w teamID serverID target) ∧ g = localGroup app backend := by
  induction backends generalizing entries with
  | nil => exact ⟨agreed, by simp⟩
  | cons backend rest ih =>
    obtain ⟨agreed', groups⟩ := addTargets_spec app backend
      (w.listDeploymentTargets backend.deploymentID) agreed
    obtain ⟨final, all⟩ := ih agreed'
    refine ⟨final, fun serverID g => ?_⟩
    rw [List.foldl_cons, addBackend, all, groups]
    simp only [List.mem_cons, exists_eq_or_imp]
    rw [or_assoc]

end Local

theorem mem_handed {w : World} {agentID : String} {msg : ControlMessage}
    {m : String × ControlMessage} :
    m ∈ handed w agentID msg ↔ live w agentID ∧ m = (agentID, msg) := by
  unfold handed
  split <;> simp_all

theorem edgeGroup_eq_some {w : World} {app : App} {backend : TrafficBackend}
    {g : TrafficBackendGroup} :
    edgeGroup w app backend = some g ↔
      edgeURLs (w.listDeploymentTargets backend.deploymentID) ≠ [] ∧
        g = ⟨trafficServiceName app.slug backend.label backend.deploymentID, backend.weight,
          edgeURLs (w.listDeploymentTargets backend.deploymentID)⟩ := by
  unfold edgeGroup
  by_cases none : edgeURLs (w.listDeploymentTargets backend.deploymentID) = []
  · simp [none]
  · simp [none, eq_comm]

theorem mem_edgeMessages {w : World} {cmd : TrafficRouteCommand} {edge : Server}
    {m : String × ControlMessage} :
    m ∈ edgeMessages w cmd edge ↔
      ∃ agentID ∈ edge.agentID, live w agentID ∧ m = (agentID, .trafficRoute cmd) := by
  unfold edgeMessages
  cases edge.agentID with
  | none => simp
  | some agentID => simp [mem_handed]

theorem mem_localMessages {w : World} {app : App} {domains : List String} {entry : ServerGroups}
    {m : String × ControlMessage} :
    m ∈ localMessages w app domains entry ↔
      entry.agentID ≠ "" ∧ live w entry.agentID ∧ m = (entry.agentID, .trafficRoute
        { appSlug := app.slug, domains := domains, groups := entry.groups }) := by
  unfold localMessages
  split
  · next empty => simp [empty]
  · next named => simp [mem_handed, named]

section Pushed

variable {w : World} {route : TrafficRoute} {app : App} {project : Project} {pair : String × Int}

/-- The edge path: one command for all edge agents. -/
theorem mem_pushed_edge {edges : List Server} {backends : List TrafficBackend}
    {domains : List String} :
    pair ∈ pushed (edges.flatMap (edgeMessages w
        { appSlug := app.slug, domains := domains, groups := backends.filterMap (edgeGroup w app) })) ↔
      ∃ backend ∈ backends,
        (edgeURLs (w.listDeploymentTargets backend.deploymentID) ≠ [] ∧
          ∃ edge ∈ edges, ∃ agentID ∈ edge.agentID, live w agentID) ∧
        pair = groupOf app backend := by
  simp only [mem_pushed, List.mem_flatMap, mem_edgeMessages]
  constructor
  · rintro ⟨agentID, cmd, ⟨edge, member, agentID', known, alive, same⟩, g, inside, named⟩
    cases same
    obtain ⟨backend, listed, group⟩ := List.mem_filterMap.mp inside
    obtain ⟨urls, rfl⟩ := edgeGroup_eq_some.mp group
    exact ⟨backend, listed, ⟨urls, edge, member, agentID, known, alive⟩, named.symm⟩
  · rintro ⟨backend, listed, ⟨urls, edge, member, agentID, known, alive⟩, rfl⟩
    exact ⟨agentID, _, ⟨edge, member, agentID, known, alive, rfl⟩, _,
      List.mem_filterMap.mpr ⟨backend, listed, edgeGroup_eq_some.mpr ⟨urls, rfl⟩⟩, rfl⟩

/-- The node-local path: one command for each server with a replica. -/
theorem mem_pushed_local {backends : List TrafficBackend} {domains : List String} :
    pair ∈ pushed ((backends.foldl (addBackend w app project.teamID) []).flatMap
        (localMessages w app domains)) ↔
      ∃ backend ∈ backends,
        (∃ target ∈ w.listDeploymentTargets backend.deploymentID, target.status = .healthy ∧
          ∃ agentID ∈ agentOf w project.teamID target, agentID ≠ "" ∧ live w agentID) ∧
        pair = groupOf app backend := by
  obtain ⟨agreed, groups⟩ := addBackends_spec app backends (agentsKnown_nil w project.teamID)
  simp only [mem_pushed, List.mem_flatMap, mem_localMessages]
  constructor
  · rintro ⟨agentID, cmd, ⟨entry, member, named, alive, same⟩, g, inside, called⟩
    cases same
    obtain ⟨_, impossible, -⟩ | ⟨backend, listed, ⟨target, ofBackend, here, healthy, -⟩, rfl⟩ :=
      (groups entry.serverID g).mp ⟨entry, member, rfl, inside⟩
    · cases impossible
    · have known : agentOf w project.teamID target = some entry.agentID := by
        rw [agentOf, here]
        exact agreed entry member
      exact ⟨backend, listed, ⟨target, ofBackend, healthy, entry.agentID, known, named, alive⟩,
        called.symm⟩
  · rintro ⟨backend, listed, ⟨target, ofBackend, healthy, agentID, known, named, alive⟩, rfl⟩
    have hosted : Hosts w project.teamID target.serverID target :=
      ⟨rfl, healthy, Option.isSome_of_mem known⟩
    obtain ⟨entry, member, here, inside⟩ := (groups target.serverID (localGroup app backend)).mpr
      (.inr ⟨backend, listed, ⟨target, ofBackend, hosted⟩, rfl⟩)
    obtain rfl : agentID = entry.agentID := by
      have same := agreed entry member
      rw [here] at same
      exact Option.some.inj (Eq.trans (Option.mem_def.mp known).symm same)
    exact ⟨entry.agentID, _, ⟨entry, member, named, alive, rfl⟩, _, inside, rfl⟩

/-- **The backends a sync pushes**: those it lists that reach an agent. -/
theorem mem_pushed_iff :
    pair ∈ pushed (syncMessages w route app project) ↔
      ∃ backend ∈ w.listTrafficBackendsForSync route.id,
        Reaches w project backend ∧ pair = groupOf app backend := by
  unfold syncMessages Reaches
  dsimp only
  split
  · split
    · next empty =>
      -- no listed backend has an exposed replica
      constructor
      · intro member
        cases member
      · rintro ⟨backend, listed, ⟨urls, -⟩, -⟩
        have none := List.filterMap_eq_nil_iff.mp empty backend listed
        rw [edgeGroup_eq_some.mpr ⟨urls, rfl⟩] at none
        cases none
    · exact mem_pushed_edge
  · exact mem_pushed_local

end Pushed

end Nixway.Deploy
