/-
# Deploy.Teardown -- which containers the delayed teardown stops

`StopSupersededContainers` lists the running replicas of the app's *healthy*
deployments, over all environments, and stops those that are not replicas of the
deployment it was started for.  A promotion has set the deployments it demoted to
'superseded' some seconds before.

A replica is `Exposed` when the teardown would get it wrong.  `teardown_exact_iff`
says that a teardown is exact just when it finds no exposed replica, and follows them
through the run: what the promotion exposes is read off the store before it, and what
is exposed later is exposed by a step.
-/
import Nixway.Deploy.Promotion
import Nixway.Theory.Rely

namespace Nixway.Deploy

open Nixway.Theory Nixway.Store
open Nixway.Theory.Prog (query exec atomic forEach)

set_option autoImplicit false

/-! ## The messages of the teardown -/

/-- Every agent that a server names takes messages. -/
def Connected (w : World) : Prop :=
  ∀ s ∈ w.servers.rows, ∀ agentID ∈ s.agentID,
    ∃ state ∈ w.agents.find? agentID, state.stream = .live

def stopMessage (app : App) (deploymentID : UUID) (currentServers : List UUID)
    (row : World.ContainerRow) : Option (String × ControlMessage) :=
  if row.deploymentID = deploymentID then none
  else row.containerID.bind fun containerID => row.agentID.map fun agentID =>
    (agentID, .stopContainer (stopCommand app currentServers row containerID))

/-- The StopContainer commands handed to agents between two stores. -/
def stopCommands (before after : World) : List (String × StopContainerCommand) :=
  (after.sent.drop before.sent.length).filterMap fun message =>
    match message.2 with
    | .stopContainer cmd => some (message.1, cmd)
    | _ => none

section Messages

variable {w : World} (app : App) (deploymentID : UUID) (currentServers : List UUID)

theorem sendToAgent_live {agentID : String} {msg : ControlMessage}
    (live : ∃ state ∈ w.agents.find? agentID, state.stream = .live) :
    sendToAgent agentID msg w = ({ w with sent := w.sent ++ [(agentID, msg)] }, .ok ()) := by
  obtain ⟨state, found, live⟩ := live
  rw [Option.mem_def] at found
  simp only [sendToAgent, found, live]

theorem stopContainer_sent {row : World.ContainerRow}
    (live : ∀ agentID ∈ row.agentID, ∃ state ∈ w.agents.find? agentID, state.stream = .live) :
    ((stopContainer app deploymentID currentServers row).out w).sent =
        w.sent ++ (stopMessage app deploymentID currentServers row).toList ∧
      ((stopContainer app deploymentID currentServers row).out w).agents = w.agents := by
  unfold Prog.out stopContainer stopMessage
  by_cases own : row.deploymentID = deploymentID
  · simp [own]
  · simp only [own, if_false]
    cases container : row.containerID with
    | none => simp
    | some containerID =>
      cases agent : row.agentID with
      | none => simp
      | some agentID =>
        simp only [Prog.run_atomic_bind, sendToAgent_live (live agentID agent)]
        exact ⟨rfl, rfl⟩

theorem stopContainers_sent (rows : List World.ContainerRow)
    (live : ∀ row ∈ rows, ∀ agentID ∈ row.agentID,
      ∃ state ∈ w.agents.find? agentID, state.stream = .live) :
    ((forEach rows (stopContainer app deploymentID currentServers)).out w).sent =
      w.sent ++ rows.filterMap (stopMessage app deploymentID currentServers) := by
  induction rows generalizing w with
  | nil => simp [Prog.out]
  | cons row rows ih =>
    obtain ⟨sent, agents⟩ :=
      stopContainer_sent app deploymentID currentServers (live row List.mem_cons_self)
    rw [Prog.out, Prog.run_forEach_cons]
    have rest := ih (w := (stopContainer app deploymentID currentServers row).out w) (by
      rw [agents]
      exact fun row member => live row (List.mem_cons_of_mem _ member))
    rw [Prog.out, Prog.out] at rest
    rw [rest, ← Prog.out, sent, List.append_assoc]
    congr 1
    rw [List.filterMap_cons]
    cases stopMessage app deploymentID currentServers row <;> rfl

end Messages

/-! ## Running replicas -/

/-- The target is a running replica: healthy, with a container, on a server with an
agent. -/
structure Running (w : World) (t : DeploymentTarget) (d : Deployment)
    (agentID containerID : String) : Prop where
  target : t ∈ w.targets
  healthy : t.status = .healthy
  container : t.containerID = some containerID
  deployment : w.getDeployment t.deploymentID = some d
  server : ∃ s, w.servers.find? t.serverID = some s ∧ s.agentID = some agentID

/-- Docker gives a container one id, so two running replicas on one agent with one
container are the same replica. -/
def OneContainer (w : World) : Prop :=
  ∀ t d t' d' agentID containerID, Running w t d agentID containerID →
    Running w t' d' agentID containerID → t = t'

/-- The teardown is exact: every command it sends stops a replica of a deployment of
the environment that is not serving, and every running replica of a demoted
deployment is sent a command. -/
def TeardownExact (deploymentID envID : UUID) (demoted : List UUID) (w : World) : Prop :=
  (∀ m ∈ stopCommands w ((stopSupersededContainers deploymentID).out w),
    ∃ t d, Running w t d m.1 m.2.containerName ∧ d.environmentID = envID ∧ ¬ w.Serving d.id) ∧
  ∀ t d agentID containerID, Running w t d agentID containerID → d.id ∈ demoted →
    ∃ m ∈ stopCommands w ((stopSupersededContainers deploymentID).out w),
      m.1 = agentID ∧ m.2.containerName = containerID

section Listing

variable {w : World} {deploymentID : UUID}

theorem stop_ok (runs : (stopSupersededContainers deploymentID).result w = .ok ()) :
    ∃ current app, w.getDeployment deploymentID = some current ∧
      w.getApp current.appID = some app ∧
      (stopSupersededContainers deploymentID).out w =
        (forEach (w.listHealthyContainersByApp current.appID) (stopContainer app deploymentID
          ((w.listDeploymentTargets deploymentID).map DeploymentTarget.serverID))).out w := by
  rw [Prog.result, stopSupersededContainers, Prog.run_query_bind] at runs
  cases row : w.getDeployment deploymentID with
  | none =>
    rw [row] at runs
    cases runs
  | some current =>
    simp only [row, Prog.run_query_bind] at runs
    cases owner : w.getApp current.appID with
    | none =>
      rw [owner] at runs
      cases runs
    | some app =>
      refine ⟨current, app, rfl, owner, ?_⟩
      simp only [Prog.out, stopSupersededContainers, Prog.run_query_bind, row, owner]
      rw [Prog.run_bind]
      rfl

/-- The listing holds a row for each running replica of the app's healthy deployments. -/
theorem mem_listHealthyContainers {appID : UUID} {row : World.ContainerRow} {agentID containerID : String}
    (agent : row.agentID = some agentID) (container : row.containerID = some containerID)
    (listed : row ∈ w.listHealthyContainersByApp appID) :
    ∃ t d, Running w t d agentID containerID ∧ d.appID = appID ∧ d.status = .healthy ∧
      d.id = row.deploymentID := by
  simp only [World.listHealthyContainersByApp, List.mem_insertionSort, List.mem_filterMap] at listed
  obtain ⟨t, member, made⟩ := listed
  unfold World.containerRow at made
  split at made
  · rename_i d s foundDeployment foundServer
    split at made
    · rename_i fits
      cases made
      exact ⟨t, d, ⟨member, fits.2.2.1, container, foundDeployment, s, foundServer, agent⟩,
        fits.1, fits.2.1, rfl⟩
    · cases made
  · cases made

theorem Running.listed {t : DeploymentTarget} {d : Deployment} {agentID containerID : String}
    (running : Running w t d agentID containerID) (healthy : d.status = .healthy) :
    ∃ row ∈ w.listHealthyContainersByApp d.appID, row.agentID = some agentID ∧
      row.containerID = some containerID ∧ row.deploymentID = d.id := by
  obtain ⟨s, foundServer, agent⟩ := running.server
  refine ⟨⟨t.id, d.id, t.containerID, t.serverID, s.agentID, d.createdAt⟩, ?_, agent,
    running.container, rfl⟩
  simp only [World.listHealthyContainersByApp, List.mem_insertionSort, List.mem_filterMap]
  refine ⟨t, running.target, ?_⟩
  have found : w.deployments.find? t.deploymentID = some d := running.deployment
  simp [World.containerRow, found, foundServer, healthy, running.healthy, running.container]

/-- **What the teardown sends.**  A command for each running replica of the other
healthy deployments of the app, in whatever environment. -/
theorem mem_stopCommands {current : Deployment} (connected : Connected w)
    (row : w.getDeployment deploymentID = some current)
    (runs : (stopSupersededContainers deploymentID).result w = .ok ()) {agentID containerID : String} :
    (∃ m ∈ stopCommands w ((stopSupersededContainers deploymentID).out w),
        m.1 = agentID ∧ m.2.containerName = containerID) ↔
      ∃ t d, Running w t d agentID containerID ∧ d.appID = current.appID ∧ d.status = .healthy ∧
        d.id ≠ deploymentID := by
  obtain ⟨found, app, here, -, out⟩ := stop_ok runs
  obtain rfl : current = found := Option.some.inj (row.symm.trans here)
  generalize (w.listDeploymentTargets deploymentID).map DeploymentTarget.serverID = servers at out
  have live : ∀ row ∈ w.listHealthyContainersByApp current.appID, ∀ agentID ∈ row.agentID,
      ∃ state ∈ w.agents.find? agentID, state.stream = .live := by
    intro row listed agentID agent
    simp only [World.listHealthyContainersByApp, List.mem_insertionSort, List.mem_filterMap] at listed
    obtain ⟨t, -, made⟩ := listed
    unfold World.containerRow at made
    split at made
    · rename_i d s foundDeployment foundServer
      split at made
      · cases made
        exact connected s (Table.mem_of_find? foundServer) agentID agent
      · cases made
    · cases made
  rw [stopCommands, out, stopContainers_sent app deploymentID _ _ live, List.drop_left]
  simp only [List.mem_filterMap]
  constructor
  · rintro ⟨m, ⟨message, ⟨row, listed, made⟩, command⟩, rfl, rfl⟩
    unfold stopMessage at made
    split at made
    · cases made
    · rename_i other
      obtain ⟨containerID, container, made⟩ := Option.bind_eq_some_iff.mp made
      obtain ⟨agentID, agent, rfl⟩ := Option.map_eq_some_iff.mp made
      cases command
      obtain ⟨t, d, running, ofApp, healthy, same⟩ := mem_listHealthyContainers agent container listed
      exact ⟨t, d, running, ofApp, healthy, by rw [same]; exact other⟩
  · rintro ⟨t, d, running, ofApp, healthy, other⟩
    obtain ⟨row, listed, agent, container, same⟩ := running.listed healthy
    rw [ofApp] at listed
    refine ⟨(agentID, stopCommand app servers row containerID),
      ⟨(agentID, .stopContainer (stopCommand app servers row containerID)), ⟨row, listed, ?_⟩, rfl⟩,
      rfl, rfl⟩
    rw [stopMessage, if_neg (by rw [same]; exact other), container, agent]
    rfl

end Listing

/-! ## Exposed replicas -/

/-- The teardown gets the replica wrong: it stops it, although the replica is outside the
environment or routed; or leaves it alone, although its deployment was demoted. -/
def Exposed (current : Deployment) (demoted : List UUID) (w : World) (t : DeploymentTarget) : Prop :=
  ∃ d agentID containerID, Running w t d agentID containerID ∧
    (d.appID = current.appID ∧ d.status = .healthy ∧ d.id ≠ current.id ∧
        (d.environmentID ≠ current.environmentID ∨ w.Routed d.id) ∨
      d.id ∈ demoted ∧ ¬ (d.appID = current.appID ∧ d.status = .healthy))

def Unexposed (current : Deployment) (demoted : List UUID) (w : World) : Prop :=
  ∀ t ∈ w.targets.rows, ¬ Exposed current demoted w t

/-- A step that leaves a replica exposed found one exposed. -/
def ExposesNone (current : Deployment) (demoted : List UUID) (s t : World) : Prop :=
  ∀ replica ∈ t.targets.rows, Exposed current demoted t replica →
    ∃ before ∈ s.targets.rows, Exposed current demoted s before

/-- A teardown for the deployment can start: it finds its rows, and every agent takes
messages. -/
structure TeardownReady (current : Deployment) (w : World) : Prop where
  row : ∃ now, w.getDeployment current.id = some now ∧ now.appID = current.appID
  runs : (stopSupersededContainers current.id).result w = .ok ()
  connected : Connected w
  unique : OneContainer w

section Decisions

variable (current : Deployment) (demoted : List UUID) (w : World)

instance (t : DeploymentTarget) : Decidable (Exposed current demoted w t) :=
  decidable_of_iff (t ∈ w.targets.rows ∧ t.status = .healthy ∧ t.containerID.isSome ∧
      ∃ d ∈ w.getDeployment t.deploymentID,
        (∃ s ∈ w.servers.find? t.serverID, s.agentID.isSome) ∧
        (d.appID = current.appID ∧ d.status = .healthy ∧ d.id ≠ current.id ∧
            (d.environmentID ≠ current.environmentID ∨ w.Routed d.id) ∨
          d.id ∈ demoted ∧ ¬ (d.appID = current.appID ∧ d.status = .healthy))) <| by
    constructor
    · rintro ⟨target, healthy, container, d, row, ⟨s, server, agent⟩, wrong⟩
      obtain ⟨containerID, container⟩ := Option.isSome_iff_exists.mp container
      obtain ⟨agentID, agent⟩ := Option.isSome_iff_exists.mp agent
      exact ⟨d, agentID, containerID, ⟨target, healthy, container, row, s, server, agent⟩, wrong⟩
    · rintro ⟨d, agentID, containerID, ⟨target, healthy, container, row, s, server, agent⟩, wrong⟩
      refine ⟨target, healthy, ?_, d, row, ⟨s, server, ?_⟩, wrong⟩
      · rw [container]
        rfl
      · rw [agent]
        rfl

instance : Decidable (Unexposed current demoted w) := inferInstanceAs (Decidable (∀ _ ∈ _, ¬ _))

instance (s t : World) : Decidable (ExposesNone current demoted s t) :=
  inferInstanceAs (Decidable (∀ _ ∈ _, _ → ∃ _ ∈ _, _))

end Decisions

section Exactness

variable {w : World} {current : Deployment} {demoted : List UUID}

/-- **One teardown** is exact just when it finds no exposed replica. -/
theorem TeardownReady.exact_iff (ready : TeardownReady current w) (own : current.id ∉ demoted) :
    TeardownExact current.id current.environmentID demoted w ↔ Unexposed current demoted w := by
  obtain ⟨now, row, sameApp⟩ := ready.row
  have sends := @mem_stopCommands w current.id now ready.connected row ready.runs
  rw [sameApp] at sends
  -- the replica a container belongs to determines its deployment
  have sameDeployment : ∀ {t d t' d' agentID containerID}, Running w t d agentID containerID →
      Running w t' d' agentID containerID → d = d' := by
    intro t d t' d' agentID containerID first second
    obtain rfl := ready.unique _ _ _ _ _ _ first second
    exact Option.some.inj (first.deployment.symm.trans second.deployment)
  constructor
  · rintro ⟨spent, all⟩ t - ⟨d, agentID, containerID, running, wrong⟩
    rcases wrong with ⟨ofApp, healthy, other, used⟩ | ⟨inDemoted, down⟩
    · obtain ⟨m, sent, rfl, rfl⟩ := sends.mpr ⟨t, d, running, ofApp, healthy, other⟩
      obtain ⟨t', d', running', ofEnv, notServing⟩ := spent m sent
      obtain rfl := sameDeployment running running'
      rcases used with elsewhere | routed
      · exact elsewhere ofEnv
      · exact notServing ⟨⟨d, Table.mem_of_find? running.deployment, rfl, healthy⟩, routed⟩
    · obtain ⟨t', d', running', ofApp, healthy, -⟩ :=
        sends.mp (all t d agentID containerID running inDemoted)
      obtain rfl := sameDeployment running running'
      exact down ⟨ofApp, healthy⟩
  · intro unexposed
    refine ⟨fun m sent => ?_, fun t d agentID containerID running inDemoted => ?_⟩
    · obtain ⟨t, d, running, ofApp, healthy, other⟩ := sends.mp ⟨m, sent, rfl, rfl⟩
      have fine := unexposed t running.target
      refine ⟨t, d, running, ?_, fun serving => ?_⟩
      · by_contra elsewhere
        exact fine ⟨d, _, _, running, .inl ⟨ofApp, healthy, other, .inl elsewhere⟩⟩
      · exact fine ⟨d, _, _, running, .inl ⟨ofApp, healthy, other, .inr serving.2⟩⟩
    · have up : d.appID = current.appID ∧ d.status = .healthy := by
        by_contra down
        exact unexposed t running.target ⟨d, _, _, running, .inr ⟨inDemoted, down⟩⟩
      refine sends.mpr ⟨t, d, running, up.1, up.2, ?_⟩
      intro same
      rw [same] at inDemoted
      exact own inDemoted

/-- **One step** of a run without exposed replicas. -/
theorem Unexposed.step_iff {s t : World} (before : Unexposed current demoted s) :
    Unexposed current demoted t ↔ ExposesNone current demoted s t := by
  constructor
  · exact fun after replica member exposed => absurd exposed (after replica member)
  · intro step replica member exposed
    obtain ⟨old, there, already⟩ := step replica member exposed
    exact before old there already

end Exactness

/-! ## What the promotion exposes -/

/-- The deployments a promotion demotes: those of the other backends of its route. -/
def demotedBy (w : World) (deploymentID : UUID) : List UUID :=
  (do let deployment ← w.getDeployment deploymentID
      let app ← w.getApp deployment.appID
      let route ← w.routes.rows.find? fun r => r.appID = app.id &&
        r.environmentID = deployment.environmentID && r.domain = trafficDomain app deployment
      return (demotions deployment.id (w.listTrafficBackendsByRoute route.id)).map
        TrafficBackend.deploymentID : Option (List UUID)).getD []

/-- Before the promotion: no deployment that will be demoted has a running replica, and every other
healthy deployment of the app that has one belongs to the environment and is not routed. -/
def Clear (current : Deployment) (demoted : List UUID) (w : World) : Prop :=
  ∀ t d agentID containerID, Running w t d agentID containerID → d.id ∉ demoted ∧
    (d.appID = current.appID → d.status = .healthy → d.id ≠ current.id →
      d.environmentID = current.environmentID ∧ ¬ w.Routed d.id)

section PromotedOver

variable {w w' : World} {deploymentID routeID backendID : UUID} {current : Deployment}

theorem own_not_demoted : deploymentID ∉ demotedBy w deploymentID := by
  unfold demotedBy
  cases row : w.getDeployment deploymentID with
  | none => simp
  | some deployment =>
    have own : deployment.id = deploymentID := Table.key_of_find? row
    cases owner : w.getApp deployment.appID with
    | none => simp [owner]
    | some app =>
      simp only [Option.bind_eq_bind, Option.bind_some, owner]
      cases w.routes.rows.find? fun r => r.appID = app.id &&
          r.environmentID = deployment.environmentID && r.domain = trafficDomain app deployment with
      | none => simp
      | some route =>
        simp [demotions, own]

/-- The deployments that are demoted are those that had a backend on the route. -/
theorem mem_demotedBy {mid : World} {app : App} {route : TrafficRoute} (refs : w.References)
    (row : w.getDeployment current.id = some current) (owner : w.getApp current.appID = some app)
    (ensured : RouteEnsured app.id current.environmentID (trafficDomain app current) route w mid)
    (unique : ∀ r ∈ mid.routes, ∀ r' ∈ mid.routes, r.appID = r'.appID →
      r.environmentID = r'.environmentID → r.domain = r'.domain → r = r') {id : UUID} :
    id ∈ demotedBy w current.id ↔ PriorOn mid route.id current.id id := by
  have backends : mid.backends = w.backends := by rw [ensured.rest]
  unfold demotedBy PriorOn
  rw [backends]
  simp only [row, owner, Option.bind_eq_bind, Option.bind_some]
  cases found : w.routes.rows.find? fun r => r.appID = app.id &&
      r.environmentID = current.environmentID && r.domain = trafficDomain app current with
  | none =>
    refine iff_of_false (by simp) ?_
    rintro ⟨-, b, member, onRoute, -⟩
    -- the route is new, and no backend can have been on it
    obtain ⟨r, there⟩ := Option.isSome_iff_exists.mp (refs.backendRoute b member)
    have old : r ∈ w.routes := Table.mem_of_find? there
    have key : r.id = route.id := (Table.key_of_find? there).trans onRoute
    have same : r = route := Table.eq_of_key_eq ((ensured.routes r).mpr (.inr old))
      ((ensured.routes route).mpr (.inl rfl)) key
    have absent := List.find?_eq_none.mp found r old
    rw [same, ensured.app, ensured.environment, ensured.domain] at absent
    simp at absent
  | some r =>
    have fits := List.find?_some found
    simp only [Bool.and_eq_true, decide_eq_true_eq] at fits
    have old : r ∈ w.routes := List.mem_of_find?_eq_some found
    have same : r = route := unique r ((ensured.routes r).mpr (.inr old)) route
      ((ensured.routes route).mpr (.inl rfl)) (fits.1.1.trans ensured.app.symm)
      (fits.1.2.trans ensured.environment.symm) (fits.2.trans ensured.domain.symm)
    subst same
    simp only [Option.bind_some, Option.getD_some, List.mem_map, Option.pure_def,
      mem_demotions refs]
    constructor
    · rintro ⟨b, ⟨member, onRoute, other⟩, rfl⟩
      exact ⟨other, b, member, onRoute, rfl⟩
    · rintro ⟨other, b, member, onRoute, rfl⟩
      exact ⟨b, ⟨member, onRoute, other⟩, rfl⟩

/-- A promotion leaves the replicas, supersedes the deployments it demotes, and routes no other one
than its own. -/
structure PromotedOver (current : Deployment) (demoted : List UUID) (w w' : World) : Prop where
  deployments : ∀ id, w'.getDeployment id = (w.getDeployment id).map fun d =>
    if id ∈ demoted then superseded d else d
  targets : w'.targets = w.targets
  servers : w'.servers = w.servers
  routed : ∀ id, id ∉ demoted → id ≠ current.id → (w'.Routed id ↔ w.Routed id)

theorem ensureTraffic_references (refs : w.References) (id routeID backendID : UUID) :
    World.References ((ensureTrafficForDeployment id routeID backendID).out w) :=
  (ensureTrafficForDeployment_every references_effects id routeID backendID).run_preserves refs

theorem promoted_current (refs : w.References) (row : w.getDeployment current.id = some current)
    (ok : (ensureTrafficForDeployment current.id routeID backendID).result w = .ok ()) :
    PromotedOver current (demotedBy w current.id) w
      ((ensureTrafficForDeployment current.id routeID backendID).out w) := by
  obtain ⟨deployment, app, route, new, mid, found, owner, ensured, promoted⟩ := ensure_ok refs ok
  obtain rfl : current = deployment := Option.some.inj (row.symm.trans found)
  have after := ensureTraffic_references refs current.id routeID backendID
  have unique := after.uniqueRoute
  rw [promoted.routes] at unique
  have prior := @mem_demotedBy w current mid app route refs row owner ensured unique
  have backends : mid.backends = w.backends := by rw [ensured.rest]
  refine ⟨fun id => ?_, ?_, ?_, fun id spared other => ?_⟩
  · have rows := promoted.deployments id
    rw [show mid.deployments = w.deployments by rw [ensured.rest]] at rows
    rw [World.getDeployment, rows, World.getDeployment]
    congr 1
    funext d
    exact if_congr prior.symm rfl rfl
  · rw [promoted.targets, ensured.rest]
  · rw [promoted.servers, ensured.rest]
  · have away : ∀ b ∈ w.backends, b.deploymentID = id → b.routeID ≠ route.id := by
      intro b member own onRoute
      exact spared (prior.mpr ⟨other, b, by rw [backends]; exact member, onRoute, own⟩)
    constructor
    · rintro ⟨b, member, own, active, weight⟩
      obtain rfl | ⟨old, there, -, rfl⟩ := (promoted.backends b).mp member
      · exact absurd (own.symm.trans promoted.deployment) other
      · rw [backends] at there
        split at own
        · next onRoute => exact absurd onRoute (away old there own)
        · next offRoute =>
          rw [if_neg offRoute] at active weight
          exact ⟨old, there, own, active, weight⟩
    · rintro ⟨b, member, own, active, weight⟩
      have offRoute := away b member own
      refine ⟨b, (promoted.backends b).mpr (.inr ⟨b, ?_, fun on => offRoute on.1, ?_⟩), own, active,
        weight⟩
      · rw [backends]
        exact member
      · rw [if_neg offRoute]

theorem PromotedOver.running {demoted : List UUID} (promoted : PromotedOver current demoted w w')
    {t : DeploymentTarget} {d : Deployment} {agentID containerID : String} :
    Running w' t d agentID containerID ↔ ∃ old, Running w t old agentID containerID ∧
      d = if old.id ∈ demoted then superseded old else old := by
  constructor
  · rintro ⟨target, healthy, container, row, server⟩
    rw [promoted.deployments] at row
    obtain ⟨old, found, rfl⟩ := Option.map_eq_some_iff.mp row
    rw [promoted.targets] at target
    rw [promoted.servers] at server
    refine ⟨old, ⟨target, healthy, container, found, server⟩, ?_⟩
    rw [show old.id = t.deploymentID from Table.key_of_find? found]
  · rintro ⟨old, ⟨target, healthy, container, found, server⟩, rfl⟩
    refine ⟨?_, healthy, container, ?_, ?_⟩
    · rw [promoted.targets]
      exact target
    · rw [promoted.deployments, found, Option.map_some,
        show old.id = t.deploymentID from Table.key_of_find? found]
    · rw [promoted.servers]
      exact server

/-- **What the promotion exposes** is read off the store before it. -/
theorem PromotedOver.unexposed_iff {demoted : List UUID} (promoted : PromotedOver current demoted w w') :
    Unexposed current demoted w' ↔ Clear current demoted w := by
  constructor
  · intro unexposed t d agentID containerID running
    have member : t ∈ w'.targets := by
      rw [promoted.targets]
      exact running.target
    have fine := unexposed t member
    have moved := promoted.running.mpr ⟨d, running, rfl⟩
    have spared : d.id ∉ demoted := by
      intro inDemoted
      rw [if_pos inDemoted] at moved
      exact fine ⟨_, _, _, moved, .inr ⟨inDemoted, fun up => by cases up.2⟩⟩
    rw [if_neg spared] at moved
    refine ⟨spared, fun ofApp healthy other => ⟨?_, fun routed => ?_⟩⟩
    · by_contra elsewhere
      exact fine ⟨d, _, _, moved, .inl ⟨ofApp, healthy, other, .inl elsewhere⟩⟩
    · have still := (promoted.routed d.id spared other).mpr routed
      exact fine ⟨d, _, _, moved, .inl ⟨ofApp, healthy, other, .inr still⟩⟩
  · rintro clear t - ⟨d, agentID, containerID, running, wrong⟩
    obtain ⟨old, before, rfl⟩ := promoted.running.mp running
    obtain ⟨spared, fine⟩ := clear t old agentID containerID before
    rw [if_neg spared] at wrong
    rcases wrong with ⟨ofApp, healthy, other, used⟩ | ⟨inDemoted, -⟩
    · obtain ⟨ofEnv, unrouted⟩ := fine ofApp healthy other
      rcases used with elsewhere | routed
      · exact elsewhere ofEnv
      · exact unrouted ((promoted.routed old.id spared other).mp routed)
    · exact spared inDemoted

end PromotedOver

/-! ## Runs -/

/-- A promotion and everything up to the start of its teardown: the promotion runs, and
then any programs take any steps in any order. -/
structure Teardown where
  before : World
  deploymentID : UUID
  routeID : UUID
  backendID : UUID
  others : List (Prog World Unit)
  spawn : Spawn World := Pool.noSpawn
  schedule : List Nat

namespace Teardown

def promotion (run : Teardown) : Prog World (Except String Unit) :=
  ensureTrafficForDeployment run.deploymentID run.routeID run.backendID

def promoted (run : Teardown) : Pool World := ⟨run.promotion.out run.before, run.others⟩

/-- The store behind some of the steps. -/
def storeAfter (run : Teardown) (steps : List Nat) : World := (run.promoted.run run.spawn steps).store

/-- The store the teardown finds. -/
def store (run : Teardown) : World := run.storeAfter run.schedule

def demoted (run : Teardown) : List UUID := demotedBy run.before run.deploymentID

end Teardown

/-- **The teardown is exact exactly when** the store it finds has no exposed replica.  It is exact
wherever in the run it starts exactly when nothing but the deployment itself is in the way before
the promotion, and no step of the run exposes a replica. -/
theorem teardown_exact_iff (run : Teardown) {current : Deployment} (refs : run.before.References)
    (row : run.before.getDeployment run.deploymentID = some current)
    (ok : run.promotion.result run.before = .ok ())
    (ready : ∀ earlier, earlier <+: run.schedule → TeardownReady current (run.storeAfter earlier)) :
    (TeardownExact run.deploymentID current.environmentID run.demoted run.store ↔
      Unexposed current run.demoted run.store) ∧
    ((∀ earlier, earlier <+: run.schedule → TeardownExact run.deploymentID current.environmentID
        run.demoted (run.storeAfter earlier)) ↔
      Clear current run.demoted run.before ∧
        run.promoted.Along run.spawn (ExposesNone current run.demoted) run.schedule) := by
  have key : current.id = run.deploymentID := Table.key_of_find? row
  obtain ⟨before, deploymentID, routeID, backendID, others, spawn, schedule⟩ := run
  dsimp only at key refs row ok ready ⊢
  subst key
  have own : current.id ∉ demotedBy before current.id := own_not_demoted
  have exactAt := fun earlier front => (ready earlier front).exact_iff own
  have promoted := promoted_current refs row ok
  refine ⟨exactAt schedule List.prefix_rfl, (forall₂_congr exactAt).trans ?_⟩
  refine (Pool.throughout_iff (I := Unexposed current (demotedBy before current.id))
    (fun _ _ unexposed => unexposed.step_iff) _ schedule).trans ?_
  exact and_congr_left fun _ => promoted.unexposed_iff

/-! ## Two environments -/

/-- Two running replicas with one container are the same replica. -/
theorem oneContainer_of_apart {w : World} (apart : ∀ t ∈ w.targets.rows, ∀ t' ∈ w.targets.rows,
    t.containerID.isSome → t.containerID = t'.containerID → t.id = t'.id) : OneContainer w := by
  intro t d t' d' agentID containerID first second
  refine Table.eq_of_key_eq first.target second.target (apart t first.target t' second.target ?_ ?_)
  · rw [first.container]
    rfl
  · rw [first.container, second.container]

/-- Deployments 1 and 2 of environment 40 and 3 of environment 41, all healthy, each
with one replica on the same server. -/
def twoEnvironments : World :=
  { projects := .single shopOfTeam
    apps := .single webApp
    builds := .single builtWeb
    servers := .single { id := 70, teamID := 11, agentID := some "agent-a" }
    agents := .single { agentID := "agent-a" }
    deployments := ⟨[(1, 40), (2, 40), (3, 41)].map fun n =>
      { id := n.1, appID := 20, environmentID := n.2, buildID := 30, createdAt := n.1.toNat,
        status := .healthy, platformDomain := "web-shop-team.example.org" }, by decide⟩
    targets := ⟨[(81, 1, "c1"), (82, 2, "c2"), (83, 3, "c3")].map fun n =>
      { id := n.1, deploymentID := n.2.1, serverID := 70, containerID := some n.2.2,
        status := .healthy }, by decide⟩ }

/-- Deployments 1 and 3 are promoted in their environments, then 2 replaces 1. -/
def replacement : Teardown where
  before := (ensureTrafficForDeployment 3 53 63).out ((ensureTrafficForDeployment 1 51 61).out
    twoEnvironments)
  deploymentID := 2
  routeID := 52
  backendID := 62
  others := []
  schedule := []

/-- The teardown stops the container of the serving deployment of the other environment,
and leaves the container of the demoted deployment running. -/
theorem teardown_hits_other_environment :
    replacement.promotion.result replacement.before = .ok () ∧
      (stopSupersededContainers 2).result replacement.store = .ok () ∧
      replacement.demoted = [1] ∧
      (stopCommands replacement.store ((stopSupersededContainers 2).out replacement.store)).map
        (fun m => (m.1, m.2.containerName)) = [("agent-a", "c3")] ∧
      ¬ TeardownExact 2 40 replacement.demoted replacement.store := by
  have sent : (stopCommands replacement.store ((stopSupersededContainers 2).out
      replacement.store)).map (fun m => (m.1, m.2.containerName)) = [("agent-a", "c3")] := by
    decide +kernel
  refine ⟨by decide, by decide +kernel, by decide +kernel, sent, fun exactly => ?_⟩
  have missed : Running replacement.store
      { id := 81, deploymentID := 1, serverID := 70, containerID := some "c1", status := .healthy }
      { id := 1, appID := 20, environmentID := 40, buildID := 30, createdAt := 1,
        status := .superseded, platformDomain := "web-shop-team.example.org" } "agent-a" "c1" := by
    refine ⟨?_, rfl, rfl, by decide +kernel, ⟨{ id := 70, teamID := 11, agentID := some "agent-a" },
      by decide +kernel, rfl⟩⟩
    show _ ∈ replacement.store.targets.rows
    decide +kernel
  obtain ⟨m, member, agent, container⟩ := exactly.2 _ _ _ _ missed (by decide +kernel)
  have listed := List.mem_map_of_mem (f := fun m : String × StopContainerCommand =>
    (m.1, m.2.containerName)) member
  rw [sent, agent, container] at listed
  revert listed
  decide

/-- Deployments 1 and 2 of environment 40 are healthy and 4 is on its way, each with one replica;
that of deployment 1 runs or has stopped. -/
def oneEnvironment (first : TargetStatus) : World :=
  { twoEnvironments with
    deployments := ⟨[(1, .healthy), (2, .healthy), (4, .deploying)].map fun n =>
      { id := n.1, appID := 20, environmentID := 40, buildID := 30, createdAt := n.1.toNat,
        status := n.2, platformDomain := "web-shop-team.example.org" }, by simp⟩
    targets := ⟨[(81, 1, "c1", first), (82, 2, "c2", .healthy), (84, 4, "c4", .healthy)].map fun n =>
      { id := n.1, deploymentID := n.2.1, serverID := 70, containerID := some n.2.2.1,
        status := n.2.2.2 }, by simp⟩ }

/-- Deployment 2 replaces 1; in the wait, late reports complete some deployments. -/
def lateReports (first : TargetStatus) (completed : List UUID) : Teardown where
  before := (ensureTrafficForDeployment 1 51 61).out (oneEnvironment first)
  deploymentID := 2
  routeID := 52
  backendID := 62
  others := completed.map fun id => exec fun w => w.completeDeployment id .healthy none
  schedule := List.range completed.length

theorem oneEnvironment_references (first : TargetStatus) : (oneEnvironment first).References := by
  constructor
  · cases first <;> decide
  · exact fun b none => by cases none
  · exact fun b none => by cases none
  · cases first <;> decide
  · cases first <;> decide
  · exact fun b none => by cases none
  · exact fun r none => by cases none

theorem lateReports_references {first : TargetStatus} {completed : List UUID} :
    (lateReports first completed).before.References := by
  dsimp only [lateReports]
  exact ensureTraffic_references (oneEnvironment_references first) 1 51 61

/-- The row of deployment 2. -/
def second : Deployment :=
  { id := 2, appID := 20, environmentID := 40, buildID := 30, createdAt := 2, status := .healthy
    platformDomain := "web-shop-team.example.org" }

theorem ready_of_apart {current : Deployment} {w : World}
    (row : ∃ now ∈ w.getDeployment current.id, now.appID = current.appID)
    (runs : (stopSupersededContainers current.id).result w = .ok ())
    (connected : ∀ s ∈ w.servers.rows, ∀ agentID ∈ s.agentID,
      ∃ state ∈ w.agents.find? agentID, state.stream = .live)
    (apart : ∀ t ∈ w.targets.rows, ∀ t' ∈ w.targets.rows, t.containerID.isSome →
      t.containerID = t'.containerID → t.id = t'.id) : TeardownReady current w :=
  ⟨row, runs, connected, oneContainer_of_apart apart⟩

theorem clear_of_rows {current : Deployment} {demoted : List UUID} {w : World}
    (rows : ∀ t ∈ w.targets.rows, t.status = .healthy → ∀ d ∈ w.getDeployment t.deploymentID,
      d.id ∉ demoted ∧ (d.appID = current.appID → d.status = .healthy → d.id ≠ current.id →
        d.environmentID = current.environmentID ∧ ¬ w.Routed d.id)) : Clear current demoted w :=
  fun t d _ _ running => rows t running.target running.healthy d running.deployment

/-- Where the demoted deployment has come up again, its replica is stopped, and that of deployment 4
with it; where its replica had stopped before, no teardown in the run is wrong. -/
theorem teardown_exact_after_reports :
    ((lateReports .healthy [1, 4]).demoted = [1] ∧
      (stopCommands (lateReports .healthy [1, 4]).store
        ((stopSupersededContainers 2).out (lateReports .healthy [1, 4]).store)).map
          (fun m => (m.1, m.2.containerName)) = [("agent-a", "c4"), ("agent-a", "c1")] ∧
      TeardownExact 2 40 (lateReports .healthy [1, 4]).demoted (lateReports .healthy [1, 4]).store) ∧
    ∀ earlier, earlier <+: (lateReports .stopped [4]).schedule →
      TeardownExact 2 40 (lateReports .stopped [4]).demoted
        ((lateReports .stopped [4]).storeAfter earlier) := by
  have again : ∀ earlier, earlier <+: (lateReports .healthy [1, 4]).schedule →
      TeardownReady second ((lateReports .healthy [1, 4]).storeAfter earlier) := by
    refine forall_prefix_cons.mpr ⟨?_, forall_prefix_cons.mpr ⟨?_, forall_prefix_nil.mpr ?_⟩⟩
    all_goals refine ready_of_apart ?_ ?_ ?_ ?_
    all_goals decide +kernel
  have quiet : ∀ earlier, earlier <+: (lateReports .stopped [4]).schedule →
      TeardownReady second ((lateReports .stopped [4]).storeAfter earlier) := by
    refine forall_prefix_cons.mpr ⟨?_, forall_prefix_nil.mpr ?_⟩
    all_goals refine ready_of_apart ?_ ?_ ?_ ?_
    all_goals decide +kernel
  have row : ∀ first completed, (first = .healthy ∨ first = .stopped) →
      (lateReports first completed).before.getDeployment 2 = some second := by
    rintro first completed (rfl | rfl)
    · exact (by decide +kernel : ((ensureTrafficForDeployment 1 51 61).out
        (oneEnvironment .healthy)).getDeployment 2 = some second)
    · exact (by decide +kernel : ((ensureTrafficForDeployment 1 51 61).out
        (oneEnvironment .stopped)).getDeployment 2 = some second)
  refine ⟨⟨by decide +kernel, by decide +kernel, ?_⟩, ?_⟩
  · exact (teardown_exact_iff (lateReports .healthy [1, 4]) lateReports_references
      (row _ _ (.inl rfl)) (by decide +kernel) again).1.mpr (by decide +kernel)
  · exact (teardown_exact_iff (lateReports .stopped [4]) lateReports_references
      (row _ _ (.inr rfl)) (by decide +kernel) quiet).2.mpr
        ⟨clear_of_rows (by decide +kernel), by decide +kernel⟩

end Nixway.Deploy
