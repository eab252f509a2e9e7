/-
# Deploy.Ports -- host ports and the targets they belong to

On clusters with edge servers a dispatch goroutine takes a host port for its target before
it sends the command.  The only statement that gives ports back is the one of
`StopSupersededContainers`, after it has marked a target 'stopped'; a target that fails
keeps its port.

The programs run beside each other: deploys with their dispatch goroutines, the handling
of the agents' reports, promotions and teardowns.  The taken ports of a server are always
distinct.  No port is leaked in a run in which nothing but a teardown fails or stops a
target that holds one (`ports_track_live_targets`).
-/
import Nixway.Deploy.Promotion
import Nixway.Deploy.Rollout
import Nixway.Theory.Rely

namespace Nixway.Deploy

open Nixway.Theory Nixway.Store
open Nixway.Theory.Prog (query exec atomic forEach ignore)

set_option autoImplicit false

/-! ## The programs -/

inductive Activity where
  | deploy (launch : Launch)
  | reports (outs : List DeployOutput)
  | promote (deploymentID routeID backendID : UUID)
  | teardown (deploymentID : UUID)
  | reconnect (agents : Table ConnState)

/-- A program that is running: a dispatch goroutine or the handling of a stream at a control
point, the rest of a teardown, or the rest of one of the others. -/
inductive Thread where
  | dispatch (job : Job) (point : Dispatch)
  | report (point : Control)
  | teardown (rest : Prog World Unit)
  | other (rest : Prog World Unit)

def Activity.thread : Activity → Thread
  | .deploy launch => .other (ignore (launchDeploy launch))
  | .reports outs => .report (.receive outs)
  | .promote deploymentID routeID backendID =>
    .other (ignore (ensureTrafficForDeployment deploymentID routeID backendID))
  | .teardown deploymentID => .teardown (ignore (stopSupersededContainers deploymentID))
  | .reconnect agents => .other (exec fun w => { w with agents := agents })

namespace Thread

def code (dns : DnsConfig) : Thread → Prog World Unit
  | .dispatch job point => point.code dns job
  | .report point => point.code
  | .teardown rest => rest
  | .other rest => rest

def act (dns : DnsConfig) : Thread → Option ((World → World) × (World → Thread))
  | .dispatch job point =>
    (point.act dns job).map fun move => (move.1, fun w => .dispatch job (move.2 w))
  | .report point => point.act.map fun move => (move.1, fun w => .report (move.2 w))
  | .teardown (.step effect next) => some (effect, fun w => .teardown (next w))
  | .other (.step effect next) => some (effect, fun w => .other (next w))
  | .teardown (.done _) => none
  | .other (.done _) => none

/-- The dispatch goroutines a step starts. -/
def spawn (before after : World) : List Thread :=
  (after.started.drop before.started.length).filterMap fun
    | .dispatchDeploy deployment target build app project member =>
      some (.dispatch ⟨deployment, target, build, app, project, member⟩ .online)
    | _ => none

end Thread

def portFlow (dns : DnsConfig) : Flow World Thread := ⟨Thread.act dns⟩

theorem portFlow_presents (dns : DnsConfig) : (portFlow dns).Presents (Thread.code dns) where
  halted k here := by
    cases k with
    | dispatch job point =>
      exact (Dispatch.presents dns job).halted point (Option.map_eq_none_iff.mp here)
    | report point => exact reportFlow_presents.halted point (Option.map_eq_none_iff.mp here)
    | teardown rest =>
      cases rest with
      | done a => rfl
      | step effect next => cases here
    | other rest =>
      cases rest with
      | done a => rfl
      | step effect next => cases here
  moves k effect next here := by
    cases k with
    | dispatch job point =>
      obtain ⟨⟨effect', next'⟩, edge, same⟩ := Option.map_eq_some_iff.mp here
      cases same
      exact (Dispatch.presents dns job).moves point effect' next' edge
    | report point =>
      obtain ⟨⟨effect', next'⟩, edge, same⟩ := Option.map_eq_some_iff.mp here
      cases same
      exact reportFlow_presents.moves point effect' next' edge
    | teardown rest =>
      cases rest with
      | done a => cases here
      | step effect' next' => cases here; rfl
    | other rest =>
      cases rest with
      | done a => cases here
      | step effect' next' => cases here; rfl

/-- **The threads run the code**: a schedule of the programs reaches the programs of the
threads the same schedule reaches. -/
theorem portFlow_run (dns : DnsConfig) (c : World × List Thread) (schedule : List Nat) :
    (Flow.pool (Thread.code dns) c).run
        (fun before after => (Thread.spawn before after).map (Thread.code dns)) schedule =
      Flow.pool (Thread.code dns) ((portFlow dns).run Thread.spawn c schedule) :=
  Flow.run_coded (portFlow_presents dns) Thread.spawn c schedule

/-! ## The property -/

/-- The target has failed or is stopped. -/
def dead (t : DeploymentTarget) : Bool := t.status = .failed || t.status = .stopped

/-- Every port that is not released belongs to a target that is neither failed nor stopped. -/
def NoLeak (w : World) : Prop :=
  ∀ a ∈ w.ports, a.releasedAt = none →
    ∃ t ∈ w.targets.rows, some t.id = a.deploymentTargetID ∧ dead t = false

instance (w : World) : Decidable (NoLeak w) := inferInstanceAs (Decidable (∀ _ ∈ _, _ → _))

/-- No two of them share the server and the port. -/
def PortsUnique (w : World) : Prop :=
  ((w.ports.filter fun a => a.releasedAt.isNone).map fun a => (a.serverID, a.port)).Nodup

instance (w : World) : Decidable (PortsUnique w) := inferInstanceAs (Decidable (List.Nodup _))

/-- The target has a port that is not released. -/
def HoldsPort (w : World) (targetID : UUID) : Prop :=
  ∃ a ∈ w.ports, a.releasedAt = none ∧ a.deploymentTargetID = some targetID

instance (w : World) (targetID : UUID) : Decidable (HoldsPort w targetID) :=
  inferInstanceAs (Decidable (∃ _ ∈ _, _))

/-- The target is there, failed or stopped. -/
def IsDead (w : World) (targetID : UUID) : Prop :=
  ∃ t ∈ w.targets.rows, t.id = targetID ∧ dead t = true

instance (w : World) (targetID : UUID) : Decidable (IsDead w targetID) :=
  inferInstanceAs (Decidable (∃ _ ∈ _, _))

/-- The target that the next statement marks failed or stopped, teardowns apart. -/
def Thread.kills : Thread → Option UUID
  | .dispatch job (.fail _) => some job.target.id
  | .report (.record out targetID _) =>
    if out.phase = "failed" ∨ out.phase = "stopped" then some targetID else none
  | _ => none

/-- The target that the next statement takes a port for. -/
def Thread.takes : Thread → Option UUID
  | .dispatch job (.allocate _) => some job.target.id
  | _ => none

/-- The next statement loses no port: it fails or stops no target that holds one, and it
takes none for a target that is dead already. -/
def Spares (w : World) (thread : Thread) : Prop :=
  (∀ id ∈ thread.kills, ¬ HoldsPort w id) ∧ ∀ id ∈ thread.takes, ¬ IsDead w id

instance (w : World) (thread : Thread) : Decidable (Spares w thread) :=
  have := Option.decidableForallMem (p := fun id => ¬ HoldsPort w id) thread.kills
  have := Option.decidableForallMem (p := fun id => ¬ IsDead w id) thread.takes
  instDecidableAnd

/-- The thread picked spares the ports. -/
def SparesAt (c : World × List Thread) (i : Nat) : Prop := ∀ thread ∈ c.2[i]?, Spares c.1 thread

instance (c : World × List Thread) (i : Nat) : Decidable (SparesAt c i) :=
  inferInstanceAs (Decidable (∀ _ ∈ _, _))

/-! ## What the programs do to ports and targets -/

def HasTarget (w : World) (id : UUID) : Prop := ∃ t ∈ w.targets, t.id = id

/-- No target disappears. -/
def Persists (w w' : World) : Prop := ∀ id, HasTarget w id → HasTarget w' id

theorem Persists.refl (w : World) : Persists w w := fun _ here => here

theorem Persists.trans {u v w : World} (first : Persists u v) (second : Persists v w) :
    Persists u w := fun id here => second id (first id here)

def Placed (w : World) : Goroutine → Prop
  | .dispatchDeploy _ target _ _ _ _ => HasTarget w target.id
  | _ => True

/-- A step of a program that is no teardown: it takes a port only for a target that is there. -/
structure Gentle (w w' : World) : Prop where
  targets : Persists w w'
  ports : ∀ a ∈ w'.ports, a.releasedAt = none → a ∈ w.ports ∨ ∃ id ∈ a.deploymentTargetID, HasTarget w id
  unique : PortsUnique w → PortsUnique w'
  started : ∃ new, w'.started = w.started ++ new ∧ ∀ g ∈ new, Placed w g

/-- A step that loses no port: a dead target that holds one was dead and held it before. -/
def Spared (w w' : World) : Prop :=
  ∀ a ∈ w'.ports, a.releasedAt = none → ∀ t ∈ w'.targets, some t.id = a.deploymentTargetID →
    dead t = true → a ∈ w.ports ∧ IsDead w t.id

/-- A step of a program that never loses one. -/
structure Mild (w w' : World) : Prop extends Gentle w w' where
  spared : Spared w w'

section Steps

variable {w w' : World}

theorem Gentle.of_ports (targets : Persists w w') (ports : w'.ports = w.ports)
    (started : w'.started = w.started) : Gentle w w' where
  targets := targets
  ports := by
    intro a here _
    rw [ports] at here
    exact .inl here
  unique := by
    intro unique
    rwa [PortsUnique, ports]
  started := ⟨[], by rw [started, List.append_nil], by simp⟩

theorem Persists.of_targets (same : w'.targets = w.targets) : Persists w w' := by
  intro id here
  rwa [HasTarget, same]

theorem Spared.of_targets (targets : w'.targets = w.targets) (ports : w'.ports = w.ports) :
    Spared w w' := by
  intro a member _ t found _ gone
  rw [ports] at member
  rw [targets] at found
  exact ⟨member, t, found, rfl, gone⟩

theorem Mild.of_frame (targets : w'.targets = w.targets) (ports : w'.ports = w.ports)
    (started : w'.started = w.started) : Mild w w' :=
  ⟨.of_ports (.of_targets targets) ports started, .of_targets targets ports⟩

theorem Mild.refl (w : World) : Mild w w := .of_frame rfl rfl rfl

theorem Mild.send (w : World) (agentID : String) (msg : ControlMessage) :
    Mild w (sendToAgent agentID msg w).1 := by
  obtain ⟨err, failed⟩ | sent := sendToAgent_cases agentID msg w
  · rw [failed]
    exact .refl w
  · rw [sent]
    exact .of_frame rfl rfl rfl

theorem Mild.start (w : World) {g : Goroutine} (placed : Placed w g) :
    Mild w { w with started := w.started ++ [g] } := by
  have frame : Mild w w := .refl w
  refine { frame with started := ⟨[g], rfl, ?_⟩ }
  intro g' member
  rw [List.mem_singleton.mp member]
  exact placed

theorem mem_update_target (w : World) (id : UUID) (f : DeploymentTarget → DeploymentTarget)
    (keeps : ∀ t, Keyed.key (f t) = Keyed.key t) {t : DeploymentTarget} (here : t ∈ w.targets) :
    ∃ t' ∈ w.targets.update id f keeps, t'.id = t.id ∧ (t.id = id ∨ t' = t) := by
  refine ⟨_, (Table.mem_update keeps).mpr ⟨t, here, rfl⟩, ?_⟩
  split
  · next same => exact ⟨keeps t, .inl same⟩
  · exact ⟨rfl, .inr rfl⟩

theorem persists_update (w : World) (id : UUID) (f : DeploymentTarget → DeploymentTarget)
    (keeps : ∀ t, Keyed.key (f t) = Keyed.key t) :
    Persists w { w with targets := w.targets.update id f keeps } := by
  rintro id' ⟨t, here, rfl⟩
  obtain ⟨t', found, same, -⟩ := mem_update_target w id f keeps here
  exact ⟨t', found, same⟩

theorem spared_update (w : World) (id : UUID) (f : DeploymentTarget → DeploymentTarget)
    (keeps : ∀ t, Keyed.key (f t) = Keyed.key t)
    (spares : ∀ t, dead (f t) = true → dead t = true ∨ ¬ HoldsPort w id) :
    Spared w { w with targets := w.targets.update id f keeps } := by
  intro a member live t found named gone
  refine ⟨member, ?_⟩
  obtain ⟨t, old, rfl⟩ := (Table.mem_update keeps).mp found
  by_cases same : Keyed.key t = id
  · rw [if_pos same] at named gone ⊢
    have sameID : (f t).id = t.id := keeps t
    rcases spares t gone with before | free
    · exact ⟨t, old, sameID.symm, before⟩
    · have own : a.deploymentTargetID = some id :=
        named.symm.trans (congrArg some (sameID.trans same))
      exact absurd ⟨a, member, live, own⟩ free
  · rw [if_neg same] at named gone ⊢
    exact ⟨t, old, rfl, gone⟩

theorem mem_updateDeploymentTargetStatus (arg : World.TargetStatusParams) {t : DeploymentTarget}
    (here : t ∈ w.targets) :
    ∃ t' ∈ (w.updateDeploymentTargetStatus arg).targets,
      t'.id = t.id ∧ (t.id = arg.id ∨ t' = t) := by
  unfold World.updateDeploymentTargetStatus
  split
  · exact ⟨t, here, rfl, .inr rfl⟩
  · exact mem_update_target w _ _ (by intro; rfl) here

theorem persists_updateTarget (w : World) (arg : World.TargetStatusParams) :
    Persists w (w.updateDeploymentTargetStatus arg) := by
  rintro id ⟨t, here, rfl⟩
  obtain ⟨t', found, same, -⟩ := mem_updateDeploymentTargetStatus arg here
  exact ⟨t', found, same⟩

theorem Gentle.updateTarget (w : World) (arg : World.TargetStatusParams) :
    Gentle w (w.updateDeploymentTargetStatus arg) := by
  refine .of_ports (persists_updateTarget w arg) ?_ ?_
  · unfold World.updateDeploymentTargetStatus
    split
    · rfl
    · rfl
  · unfold World.updateDeploymentTargetStatus
    split
    · rfl
    · rfl

/-- The two texts that kill a target. -/
theorem dead_text {text : String} {status : TargetStatus}
    (parsed : TargetStatus.ofText text = some status)
    (kills : status = .failed ∨ status = .stopped) : text = "failed" ∨ text = "stopped" := by
  unfold TargetStatus.ofText at parsed
  split at parsed <;> cases parsed <;> simp at kills ⊢

theorem Spared.updateTarget {arg : World.TargetStatusParams}
    (spares : arg.status = "failed" ∨ arg.status = "stopped" → ¬ HoldsPort w arg.id) :
    Spared w (w.updateDeploymentTargetStatus arg) := by
  unfold World.updateDeploymentTargetStatus
  split
  · exact .of_targets rfl rfl
  · next status parsed =>
    refine spared_update w _ _ _ fun t gone => .inr (spares (dead_text parsed ?_))
    simpa [dead] using gone

theorem Gentle.allocate (w : World) (serverID : UUID) {targetID : UUID}
    (here : HasTarget w targetID) : Gentle w (w.allocateServerPort serverID targetID).1 := by
  unfold World.allocateServerPort
  split
  · next port found =>
    have free : w.portTaken serverID port = false := by simpa using List.find?_some found
    refine ⟨.refl w, ?_, ?_, ⟨[], by simp, by simp⟩⟩
    · intro a member _
      rcases List.mem_cons.mp member with rfl | old
      · exact .inr ⟨targetID, rfl, here⟩
      · exact .inl old
    · intro unique
      show (List.map _ (List.filter _ (_ :: w.ports))).Nodup
      rw [List.filter_cons_of_pos rfl, List.map_cons, List.nodup_cons]
      refine ⟨?_, unique⟩
      intro shared
      obtain ⟨a, member, same⟩ := List.mem_map.mp shared
      obtain ⟨stored, unreleased⟩ := List.mem_filter.mp member
      obtain ⟨sameServer, samePort⟩ := Prod.mk.inj same
      have taken : w.portTaken serverID port = true := by
        refine List.any_eq_true.mpr ⟨a, stored, ?_⟩
        simp [sameServer, samePort, unreleased]
      rw [free] at taken
      cases taken
  · exact (Mild.refl w).toGentle

theorem Spared.allocate {targetID : UUID} (serverID : UUID) (alive : ¬ IsDead w targetID) :
    Spared w (w.allocateServerPort serverID targetID).1 := by
  unfold World.allocateServerPort
  split
  · intro a member _ t found named gone
    rcases List.mem_cons.mp member with rfl | old
    · exact absurd ⟨t, found, Option.some.inj named, gone⟩ alive
    · exact ⟨old, t, found, rfl, gone⟩
  · exact (Mild.refl w).spared

end Steps

/-! ## Dispatch goroutines and reports -/

section Points

variable {w : World} {effect : World → World}

theorem dispatch_step {dns : DnsConfig} {job : Job} {point : Dispatch}
    {next : World → Dispatch} (edge : point.act dns job = some (effect, next))
    (here : HasTarget w job.target.id) :
    Gentle w (effect w) ∧ (Spares w (.dispatch job point) → Spared w (effect w)) := by
  have mild : Mild w (effect w) →
      Gentle w (effect w) ∧ (Spares w (.dispatch job point) → Spared w (effect w)) :=
    fun mild => ⟨mild.toGentle, fun _ => mild.spared⟩
  cases point with
  | halt => cases edge
  | online => cases edge; exact mild (.refl w)
  | readTeam => cases edge; exact mild (.refl w)
  | readServer team => cases edge; exact mild (.refl w)
  | readEdges team srv => cases edge; exact mild (.refl w)
  | domain platform edgeEnabled => cases edge; exact mild (.of_frame rfl rfl rfl)
  | assign entry rest platform edgeEnabled => cases edge; exact mild (.of_frame rfl rfl rfl)
  | allocate platform =>
    simp only [Dispatch.act, Option.some.injEq, Prod.mk.injEq] at edge
    obtain ⟨rfl, -⟩ := edge
    exact ⟨.allocate w _ here, fun spares => .allocate _ (spares.2 _ rfl)⟩
  | bind platform port =>
    cases edge
    refine mild ⟨.of_ports (persists_update w _ _ _) rfl rfl, ?_⟩
    exact spared_update w _ _ _ fun t gone => .inl gone
  | send platform labels => cases edge; exact mild (.send w _ _)
  | fail msg =>
    cases edge
    exact ⟨.updateTarget w _, fun spares => .updateTarget fun _ => spares.1 _ rfl⟩

theorem report_step {point : Control} {next : World → Control}
    (edge : point.act = some (effect, next)) :
    Gentle w (effect w) ∧ (Spares w (.report point) → Spared w (effect w)) := by
  have mild : Mild w (effect w) →
      Gentle w (effect w) ∧ (Spares w (.report point) → Spared w (effect w)) :=
    fun mild => ⟨mild.toGentle, fun _ => mild.spared⟩
  cases point with
  | receive outs =>
    cases outs with
    | nil => cases edge
    | cons out rest => cases edge; exact mild (.refl w)
  | record out targetID rest =>
    cases edge
    refine ⟨.updateTarget w _, fun spares => .updateTarget fun kills => spares.1 targetID ?_⟩
    have phase : out.phase = "failed" ∨ out.phase = "stopped" := kills
    show (if _ then _ else _) = _
    rw [if_pos phase]
  | increment deployID rest => cases edge; exact mild (.of_frame rfl rfl rfl)
  | check deployID rest => cases edge; exact mild (.refl w)
  | complete deployID rest => cases edge; exact mild (.of_frame rfl rfl rfl)
  | promote deployID rest => cases edge; exact mild (.start w trivial)
  | fail deployID error rest => cases edge; exact mild (.of_frame rfl rfl rfl)

end Points

/-! ## Deploys and promotions -/

section Programs

variable {w : World}

theorem mild_safe {α : Type} {p : Prog World α}
    (every : p.Every fun effect => ∀ w, Mild w (effect w)) :
    p.Safe Persists Mild (fun _ _ => True) w :=
  Prog.Safe.of_known (I := fun _ => True) (fun _ _ _ _ => trivial) (fun _ _ _ _ => trivial)
    (every.mono fun _ step w _ => step w) trivial

theorem mild_ensureTrafficRoute (w : World) (id appID environmentID : UUID) (domain : String) :
    Mild w (w.ensureTrafficRoute id appID environmentID domain).1 := by
  unfold World.ensureTrafficRoute
  split
  · exact .refl w
  · dsimp only
    split
    · exact .of_frame rfl rfl rfl
    · exact .refl w

theorem mild_upsertTrafficBackend (w : World) (id routeID deploymentID : UUID) (label : String)
    (weight : Int) (status : BackendStatus) :
    Mild w (w.upsertTrafficBackend id routeID deploymentID label weight status).1 := by
  unfold World.upsertTrafficBackend
  split
  · exact .of_frame rfl rfl rfl
  · split
    · exact .refl w
    · dsimp only
      split
      · exact .of_frame rfl rfl rfl
      · exact .refl w

theorem mild_updateTrafficBackendWeight (w : World) (id routeID : UUID) (weight : Int) :
    Mild w (w.updateTrafficBackendWeight id routeID weight).1 := by
  unfold World.updateTrafficBackendWeight
  split
  · split
    · exact .of_frame rfl rfl rfl
    · exact .refl w
  · exact .refl w

theorem mild_setTrafficBackendStatus (w : World) (id routeID : UUID) (status : BackendStatus) :
    Mild w (w.setTrafficBackendStatus id routeID status).1 := by
  unfold World.setTrafficBackendStatus
  split
  · exact .of_frame rfl rfl rfl
  · exact .refl w

theorem mild_effects : PromotionEffects fun effect => ∀ w : World, Mild w (effect w) where
  reads := .refl
  sends agentID msg w := .send w agentID msg
  records event w := .of_frame rfl rfl rfl
  starts g follows w := by
    refine .start w ?_
    cases g with
    | dispatchDeploy deployment target build app project member => cases follows
    | _ => trivial
  routes id appID environmentID domain w := mild_ensureTrafficRoute w id appID environmentID domain
  upserts id routeID deploymentID label weight status w :=
    mild_upsertTrafficBackend w id routeID deploymentID label weight status
  weights id routeID weight w := mild_updateTrafficBackendWeight w id routeID weight
  statuses id routeID status w := mild_setTrafficBackendStatus w id routeID status
  supersedes id w := .of_frame rfl rfl rfl

theorem createDeploymentTarget_mild (w : World) (id deploymentID serverID : UUID) :
    Mild w (w.createDeploymentTarget id deploymentID serverID).1 ∧
      ∀ t, (w.createDeploymentTarget id deploymentID serverID).2 = some t →
        HasTarget (w.createDeploymentTarget id deploymentID serverID).1 t.id := by
  unfold World.createDeploymentTarget
  dsimp only
  split
  · exact ⟨.refl w, fun t made => by cases made⟩
  · split
    · next targets inserted =>
      refine ⟨⟨.of_ports ?_ rfl rfl, ?_⟩, ?_⟩
      · rintro id' ⟨t, old, rfl⟩
        exact ⟨t, (Table.mem_insert? inserted).mpr (.inr old), rfl⟩
      · intro a member _ t found named gone
        rcases (Table.mem_insert? inserted).mp found with rfl | old
        · cases gone
        · exact ⟨member, t, old, rfl, gone⟩
      · intro t made
        cases made
        exact ⟨_, (Table.mem_insert? inserted).mpr (.inl rfl), rfl⟩
    · exact ⟨.refl w, fun t made => by cases made⟩

theorem launchTargets_mild (launch : Launch) (deployment : Deployment)
    (scheduled : List (UUID × ScheduledTarget)) :
    (launchTargets launch deployment scheduled).Safe Persists Mild (fun _ _ => True) w := by
  induction scheduled generalizing w with
  | nil =>
    exact mild_safe (Prog.Every.bind ((Prog.every_exec _).mpr fun w => .of_frame rfl rfl rfl)
      fun _ => trivial)
  | cons head rest ih =>
    refine Prog.Safe.bind_atomic (fun t _ => (createDeploymentTarget_mild t _ _ _).1) ?_
    intro t _
    have made := (createDeploymentTarget_mild t head.1 deployment.id head.2.member.serverID).2
    split
    · next target created =>
      refine Prog.Safe.bind_exec (fun u moved => .start u ?_) fun u moved => ih
      exact moved _ (made target created)
    · exact fun u _ => trivial

theorem deploy_mild (launch : Launch) :
    (launchDeploy launch).Safe Persists Mild (fun _ _ => True) w := by
  refine Prog.Safe.bind_atomic (fun t _ => ?_) fun t _ => ?_
  · unfold createLaunched World.createDeployment
    dsimp only
    cases t.deployments.insert? _ with
    | none => exact .refl t
    | some deployments => exact .of_frame rfl rfl rfl
  · split
    · exact launchTargets_mild launch _ _
    · exact fun u _ => trivial

theorem ignore_safe {α : Type} {p : Prog World α}
    (safe : p.Safe Persists Mild (fun _ _ => True) w) :
    (ignore p).Safe Persists Mild (fun _ _ => True) w :=
  Prog.Safe.bind .refl safe fun _ _ _ _ _ => trivial

end Programs

/-! ## Teardowns -/

/-- The rest of a teardown: whenever it stops a target, its next statement gives the
target's ports back. -/
inductive Tears {α : Type} : Prog World α → Prop where
  | done (a : α) : Tears (.done a)
  | quiet {effect : World → World} {next : World → Prog World α}
      (same : ∀ w, (effect w).ports = w.ports ∧ (effect w).targets = w.targets ∧
        (effect w).started = w.started)
      (rest : ∀ w, Tears (next w)) : Tears (.step effect next)
  | stop {id : UUID} {next after : World → Prog World α}
      (releases : ∀ w, next w = .step (fun w => w.releasePortsByDeploymentTarget id) after)
      (rest : ∀ w, Tears (after w)) :
      Tears (.step (fun w => w.updateDeploymentTargetStatus
        { id := id, status := "stopped", stoppedAt := some w.now }) next)
  | release {id : UUID} {next : World → Prog World α} (rest : ∀ w, Tears (next w)) :
      Tears (.step (fun w => w.releasePortsByDeploymentTarget id) next)

section Tears

variable {α β : Type}

theorem Tears.bind {p : Prog World α} {f : α → Prog World β} (first : Tears p)
    (rest : ∀ a, Tears (f a)) : Tears (p >>= f) := by
  induction first with
  | done a => exact rest a
  | quiet same _ ih => exact .quiet same ih
  | stop releases _ ih =>
    refine .stop (fun w => ?_) ih
    rw [releases w]
    rfl
  | release _ ih => exact .release ih

theorem Tears.query {f : World → α} {next : α → Prog World β} (rest : ∀ a, Tears (next a)) :
    Tears (query f >>= next) :=
  .quiet (fun _ => ⟨rfl, rfl, rfl⟩) fun w => rest (f w)

theorem Tears.send {agentID : String} {msg : ControlMessage}
    {next : Except String Unit → Prog World β} (rest : ∀ answer, Tears (next answer)) :
    Tears (atomic (sendToAgent agentID msg) >>= next) := by
  refine .quiet (fun w => ?_) fun w => rest _
  obtain ⟨err, failed⟩ | sent := sendToAgent_cases agentID msg w
  · rw [failed]
    exact ⟨rfl, rfl, rfl⟩
  · rw [sent]
    exact ⟨rfl, rfl, rfl⟩

theorem Tears.forEach {ι : Type} {body : ι → Prog World Unit} (xs : List ι)
    (each : ∀ x, Tears (body x)) : Tears (forEach xs body) := by
  induction xs with
  | nil => exact .done _
  | cons x xs ih => exact (each x).bind fun _ => ih

theorem stopContainer_tears (app : App) (deploymentID : UUID) (currentServers : List UUID)
    (container : World.ContainerRow) :
    Tears (stopContainer app deploymentID currentServers container) := by
  unfold stopContainer
  split
  · exact .done _
  · split
    · split
      · refine Tears.send fun answer => ?_
        cases answer with
        | error err => exact .done _
        | ok _ => exact .stop (fun _ => rfl) fun _ => .done _
      · exact .done _
    · exact .done _

theorem teardown_tears (deploymentID : UUID) :
    Tears (ignore (stopSupersededContainers deploymentID)) := by
  refine Tears.bind ?_ fun _ => .done _
  refine Tears.query fun current => ?_
  split
  · refine Tears.query fun app => ?_
    split
    · refine Tears.query fun targets => Tears.query fun containers => ?_
      exact (Tears.forEach containers (stopContainer_tears _ _ _)).bind fun _ => .done _
    · exact .done _
  · exact .done _

end Tears

/-! ## Runs -/

/-- The thread does what its kind does. -/
def ThreadOk (w : World) : Thread → Prop
  | .dispatch job _ => HasTarget w job.target.id
  | .report _ => True
  | .teardown rest => Tears rest
  | .other rest => rest.Safe Persists Mild (fun _ _ => True) w

theorem thread_ok (w : World) (activity : Activity) : ThreadOk w activity.thread := by
  cases activity with
  | deploy launch => exact ignore_safe (deploy_mild launch)
  | reports outs => trivial
  | promote deploymentID routeID backendID =>
    exact ignore_safe (mild_safe (ensureTrafficForDeployment_every mild_effects _ _ _))
  | teardown deploymentID => exact teardown_tears deploymentID
  | reconnect agents => exact mild_safe ((Prog.every_exec _).mpr fun w => .of_frame rfl rfl rfl)

theorem ThreadOk.persists {w w' : World} {thread : Thread} (ok : ThreadOk w thread)
    (moved : Persists w w') : ThreadOk w' thread := by
  cases thread with
  | dispatch job point => exact moved _ ok
  | report point => trivial
  | teardown rest => exact ok
  | other rest => exact Prog.Safe.stable ok moved Persists.trans

theorem spawned_ok {w w' : World} (gentle : Gentle w w') :
    ∀ thread ∈ Thread.spawn w w', ThreadOk w' thread := by
  obtain ⟨new, started, placed⟩ := gentle.started
  intro thread member
  obtain ⟨g, inside, made⟩ := List.mem_filterMap.mp member
  rw [started, List.drop_left] at inside
  have here := placed g inside
  cases g with
  | dispatchDeploy deployment target build app project server =>
    cases made
    exact gentle.targets _ here
  | _ => cases made

/-! ## Unique ports -/

theorem ports_release (w : World) (id : UUID) {a : ServerPortAllocation}
    (member : a ∈ (w.releasePortsByDeploymentTarget id).ports) (live : a.releasedAt = none) :
    a ∈ w.ports ∧ a.deploymentTargetID ≠ some id := by
  obtain ⟨old, before, rfl⟩ := List.mem_map.mp member
  by_cases released : old.deploymentTargetID = some id ∧ old.releasedAt = none
  · rw [if_pos released] at live
    cases live
  · rw [if_neg released] at live ⊢
    exact ⟨before, fun same => released ⟨same, live⟩⟩

theorem live_sublist {f : ServerPortAllocation → ServerPortAllocation}
    (keeps : ∀ a, (f a).releasedAt = none → f a = a) (ports : List ServerPortAllocation) :
    List.Sublist ((ports.map f).filter fun a => a.releasedAt.isNone)
      (ports.filter fun a => a.releasedAt.isNone) := by
  induction ports with
  | nil => exact List.Sublist.slnil
  | cons a rest ih =>
    rw [List.map_cons]
    by_cases live : (f a).releasedAt = none
    · have same := keeps a live
      rw [same] at live ⊢
      rw [List.filter_cons_of_pos (by simp [live]), List.filter_cons_of_pos (by simp [live])]
      exact ih.cons_cons a
    · rw [List.filter_cons_of_neg (by simpa using live)]
      exact ih.trans (List.Sublist.filter _ (List.sublist_cons_self a rest))

theorem portsUnique_release (w : World) (id : UUID) (unique : PortsUnique w) :
    PortsUnique (w.releasePortsByDeploymentTarget id) := by
  refine List.Nodup.sublist ((live_sublist (fun a live => ?_) w.ports).map _) unique
  by_cases released : a.deploymentTargetID = some id ∧ a.releasedAt = none
  · rw [if_pos released] at live
    cases live
  · rw [if_neg released]

/-- What a step of a teardown does: it leaves ports and targets alone, it stops a target
whose ports it releases next, or it releases them. -/
theorem Tears.step {effect : World → World} {next : World → Prog World Unit}
    (tears : Tears (.step effect next)) (w : World) :
    Tears (next w) ∧ (effect w).started = w.started ∧ Persists w (effect w) ∧
      (PortsUnique w → PortsUnique (effect w)) := by
  cases tears with
  | quiet same rest =>
    obtain ⟨ports, targets, started⟩ := same w
    refine ⟨rest w, started, .of_targets targets, fun unique => ?_⟩
    rwa [PortsUnique, ports]
  | stop releases rest =>
    rw [releases w]
    refine ⟨.release rest, ?_, persists_updateTarget w _, fun unique => unique⟩
    rfl
  | release rest => exact ⟨rest w, rfl, .refl w, portsUnique_release w _⟩

/-- Every thread does what its kind does, and the taken ports are distinct. -/
def Orderly (c : World × List Thread) : Prop :=
  (∀ thread ∈ c.2, ThreadOk c.1 thread) ∧ PortsUnique c.1

theorem gentle_step {dns : DnsConfig} {w : World} {thread : Thread} {effect : World → World}
    {next : World → Thread} (ok : ThreadOk w thread)
    (edge : thread.act dns = some (effect, next)) (other : ∀ rest, thread ≠ .teardown rest) :
    Gentle w (effect w) ∧ (Spares w thread → Spared w (effect w)) ∧
      ThreadOk (effect w) (next w) := by
  cases thread with
  | dispatch job point =>
    obtain ⟨⟨effect', next'⟩, moves, same⟩ := Option.map_eq_some_iff.mp edge
    cases same
    obtain ⟨gentle, spared⟩ := dispatch_step moves ok
    exact ⟨gentle, spared, gentle.targets _ ok⟩
  | report point =>
    obtain ⟨⟨effect', next'⟩, moves, same⟩ := Option.map_eq_some_iff.mp edge
    cases same
    obtain ⟨gentle, spared⟩ := report_step moves
    exact ⟨gentle, spared, trivial⟩
  | teardown rest => exact absurd rfl (other rest)
  | other rest =>
    cases rest with
    | done a => cases edge
    | step effect' next' =>
      cases edge
      obtain ⟨mild, after⟩ := ok w (.refl w)
      exact ⟨mild.toGentle, fun _ => mild.spared, after⟩

/-- **Every step of every run keeps the taken ports distinct.** -/
theorem Orderly.step {dns : DnsConfig} {c : World × List Thread} (orderly : Orderly c) (i : Nat) :
    Orderly ((portFlow dns).advance Thread.spawn c i) := by
  obtain ⟨ok, unique⟩ := orderly
  obtain same | ⟨thread, effect, next, here, edge, moved⟩ :=
    Flow.advance_cases (portFlow dns) Thread.spawn c i
  · rw [same]
    exact ⟨ok, unique⟩
  · have old := ok thread (List.mem_of_getElem? here)
    rw [moved]
    by_cases tearing : ∃ rest, thread = .teardown rest
    · obtain ⟨rest, rfl⟩ := tearing
      cases rest with
      | done a => cases edge
      | step effect' next' =>
        cases edge
        obtain ⟨after, started, persists, kept⟩ := Tears.step old c.1
        refine ⟨fun thread member => ?_, kept unique⟩
        have quiet : Thread.spawn c.1 (effect c.1) = [] := by simp [Thread.spawn, started]
        rw [quiet, List.append_nil] at member
        rcases List.mem_or_eq_of_mem_set member with stays | rfl
        · exact (ok thread stays).persists persists
        · exact after
    · obtain ⟨gentle, -, after⟩ := gentle_step old edge (not_exists.mp tearing)
      refine ⟨fun thread member => ?_, gentle.unique unique⟩
      rcases List.mem_append.mp member with kept | spawned
      · rcases List.mem_or_eq_of_mem_set kept with stays | rfl
        · exact (ok thread stays).persists gentle.targets
        · exact after
      · exact spawned_ok gentle thread spawned

/-! ## No leak -/

/-- The thread is a teardown that gives the ports of the target back next. -/
def Releases (id : UUID) (thread : Thread) : Prop :=
  ∃ next, thread = .teardown (.step (fun w => w.releasePortsByDeploymentTarget id) next)

/-- Every live port is of a target that is there, and alive unless a teardown is about to
release its ports. -/
def Covered (c : World × List Thread) : Prop :=
  ∀ a ∈ c.1.ports, a.releasedAt = none → ∃ t ∈ c.1.targets, some t.id = a.deploymentTargetID ∧
    (dead t = false ∨ ∃ thread ∈ c.2, Releases t.id thread)

theorem releases_stays {threads spawned : List Thread} {i : Nat} {thread after : Thread} {id : UUID}
    (here : threads[i]? = some thread) (other : ¬ Releases id thread)
    (pending : ∃ thread ∈ threads, Releases id thread) :
    ∃ thread ∈ threads.set i after ++ spawned, Releases id thread := by
  obtain ⟨waiting, member, releases⟩ := pending
  refine ⟨waiting, List.mem_append_left _ ?_, releases⟩
  rcases mem_set_or_eq here member after with rfl | stays
  · exact absurd releases other
  · exact stays

/-- A statement that leaves a port of the target live is not the release of its ports. -/
theorem not_releases {w : World} {effect : World → World} {next : World → Prog World Unit}
    {a : ServerPortAllocation} {id : UUID} (member : a ∈ (effect w).ports)
    (live : a.releasedAt = none) (named : some id = a.deploymentTargetID) :
    ¬ Releases id (.teardown (.step effect next)) := by
  rintro ⟨next', same⟩
  obtain ⟨rfl, -⟩ := Prog.step.inj (Thread.teardown.inj same)
  exact (ports_release w id member live).2 named.symm

/-- A step of a teardown keeps every port covered. -/
theorem Covered.tear {c : World × List Thread} {i : Nat} {effect : World → World}
    {next : World → Prog World Unit} {spawned : List Thread} (covered : Covered c)
    (here : c.2[i]? = some (.teardown (.step effect next)))
    (tears : Tears (.step effect next)) :
    Covered (effect c.1, c.2.set i (.teardown (next c.1)) ++ spawned) := by
  intro a member live
  have quiet : ∀ id, some id = a.deploymentTargetID →
      ¬ Releases id (.teardown (.step effect next)) := fun _ => not_releases member live
  cases tears with
  | @release id _ rest =>
    obtain ⟨before, -⟩ := ports_release c.1 id member live
    obtain ⟨t, found, named, cover⟩ := covered a before live
    exact ⟨t, found, named, cover.imp_right (releases_stays here (quiet _ named))⟩
  | quiet same rest =>
    obtain ⟨ports, targets, -⟩ := same c.1
    rw [ports] at member
    obtain ⟨t, found, named, cover⟩ := covered a member live
    refine ⟨t, ?_, named, cover.imp_right (releases_stays here (quiet _ named))⟩
    show t ∈ (effect c.1).targets
    rwa [targets]
  | @stop id _ after releases rest =>
    obtain ⟨t, found, named, cover⟩ := covered a member live
    obtain ⟨t', found', sameID, stopped | rfl⟩ := mem_updateDeploymentTargetStatus _ found
    · refine ⟨t', found', (congrArg some sameID).trans named, .inr ?_⟩
      refine ⟨.teardown (next c.1), List.mem_append_left _ (mem_set_new here _), after, ?_⟩
      rw [releases c.1, sameID, stopped]
    · exact ⟨t', found', named, cover.imp_right (releases_stays here (quiet _ named))⟩

/-- A step that loses no port keeps every port covered. -/
theorem Covered.spare {c : World × List Thread} {i : Nat} {effect : World → World}
    {thread after : Thread} {spawned : List Thread} (covered : Covered c)
    (here : c.2[i]? = some thread) (other : ∀ rest, thread ≠ .teardown rest)
    (gentle : Gentle c.1 (effect c.1)) (spared : Spared c.1 (effect c.1)) :
    Covered (effect c.1, c.2.set i after ++ spawned) := by
  intro a member live
  have present : ∃ id, some id = a.deploymentTargetID ∧ HasTarget (effect c.1) id := by
    rcases gentle.ports a member live with before | ⟨id, named, target⟩
    · obtain ⟨t, found, named, -⟩ := covered a before live
      exact ⟨t.id, named, gentle.targets _ ⟨t, found, rfl⟩⟩
    · exact ⟨id, named.symm, gentle.targets _ target⟩
  obtain ⟨_, named, t, found, rfl⟩ := present
  refine ⟨t, found, named, ?_⟩
  by_cases gone : dead t = true
  · -- it was dead before, so a teardown was about to release its ports
    obtain ⟨before, old, stored, sameID, oldGone⟩ := spared a member live t found named gone
    obtain ⟨t', found', named', cover⟩ := covered a before live
    obtain rfl : t' = old :=
      Table.eq_of_key_eq found' stored
        (Option.some.inj (named'.trans (named.symm.trans (congrArg some sameID.symm))))
    have pending := cover.resolve_left (by rw [oldGone]; exact Bool.noConfusion)
    rw [sameID] at pending
    exact .inr (releases_stays here (fun ⟨_, same⟩ => other _ same) pending)
  · exact .inl (Bool.not_eq_true _ ▸ gone)

theorem Covered.step {dns : DnsConfig} {c : World × List Thread} {i : Nat} (orderly : Orderly c)
    (spares : SparesAt c i) (covered : Covered c) :
    Covered ((portFlow dns).advance Thread.spawn c i) := by
  obtain same | ⟨thread, effect, next, here, edge, moved⟩ :=
    Flow.advance_cases (portFlow dns) Thread.spawn c i
  · rw [same]
    exact covered
  · have ok := orderly.1 thread (List.mem_of_getElem? here)
    rw [moved]
    by_cases tearing : ∃ rest, thread = .teardown rest
    · obtain ⟨rest, rfl⟩ := tearing
      cases rest with
      | done a => cases edge
      | step effect' next' =>
        cases edge
        exact covered.tear here ok
    · have other := not_exists.mp tearing
      obtain ⟨gentle, spared, -⟩ := gentle_step ok edge other
      exact covered.spare here other gentle (spared (spares thread here))

/-- When nothing runs any more, what is covered is not leaked. -/
theorem Covered.noLeak {dns : DnsConfig} {c : World × List Thread} (covered : Covered c)
    (quiescent : ∀ thread ∈ c.2, thread.act dns = none) : NoLeak c.1 := by
  intro a member live
  obtain ⟨t, found, named, cover⟩ := covered a member live
  refine ⟨t, found, named, cover.resolve_right ?_⟩
  rintro ⟨thread, running, next, rfl⟩
  cases quiescent _ running

/-- **Ports track live targets.**  For every number of deploys, streams of reports,
promotions, teardowns and changes of the connected agents and every interleaving of their
statements, the taken ports of a server are distinct; and if no goroutine of the run fails
a target that holds a port or takes one for a dead target, and no report of a failed or
stopped container is recorded for a target that holds one, then whenever all the programs
are done every port that is not released belongs to a target that is neither failed nor
stopped. -/
theorem ports_track_live_targets (dns : DnsConfig) (w : World) (activities : List Activity)
    (schedule : List Nat) (start : NoLeak w) (unique : PortsUnique w) :
    PortsUnique
        ((portFlow dns).run Thread.spawn (w, activities.map Activity.thread) schedule).1 ∧
      ((portFlow dns).Along Thread.spawn SparesAt (w, activities.map Activity.thread) schedule →
        (∀ thread ∈
            ((portFlow dns).run Thread.spawn (w, activities.map Activity.thread) schedule).2,
          thread.act dns = none) →
        NoLeak ((portFlow dns).run Thread.spawn (w, activities.map Activity.thread) schedule).1) := by
  have orderly : Orderly (w, activities.map Activity.thread) := by
    refine ⟨fun thread member => ?_, unique⟩
    obtain ⟨activity, -, rfl⟩ := List.mem_map.mp member
    exact thread_ok w activity
  have covered : Covered (w, activities.map Activity.thread) := by
    intro a member live
    obtain ⟨t, found, named, alive⟩ := start a member live
    exact ⟨t, found, named, .inl alive⟩
  constructor
  · exact (Flow.run_invariant (I := Orderly) (fun c i orderly => orderly.step i) orderly
      schedule).2
  · intro spares quiescent
    have kept := Flow.Along.invariant (I := fun c => Orderly c ∧ Covered c)
      (fun c i spares both => ⟨both.1.step i, both.2.step both.1 spares⟩) spares
      ⟨orderly, covered⟩
    exact kept.2.noLeak quiescent

section EdgeCluster

/-- A cluster with an edge server: the web app runs in deployment 2, and deployment 1 still
has a container with the first port of the worker. -/
def edgeCluster : World :=
  { teams := .single ⟨11, "acme"⟩
    projects := .single shopOfTeam
    apps := .single webApp
    builds := .single builtWeb
    servers := ⟨[{ id := 70, teamID := 11, clusterID := some 12, role := .edge },
      { id := 71, teamID := 11, clusterID := some 12, agentID := some (UUID.text 71),
        createdAt := 1 }], by decide⟩
    deployments := ⟨[{ id := 2, appID := 20, environmentID := 40, buildID := 30, status := .healthy },
      { id := 1, appID := 20, environmentID := 40, buildID := 30, status := .healthy }], by decide⟩
    targets := ⟨[{ id := 82, deploymentID := 2, serverID := 71, status := .healthy },
      { id := 81, deploymentID := 1, serverID := 71, status := .healthy,
        containerID := some "web-1" }], by decide⟩
    ports := [⟨71, 30000, some 81, none⟩]
    agents := .single { agentID := UUID.text 71 } }

def edgeLaunch : Launch :=
  { deploymentID := 3
    environmentID := 40
    build := builtWeb
    app := webApp
    project := shopOfTeam
    targets := [(83, ⟨{ serverID := 71 }, ""⟩)] }

/-- The old container is stopped, a new replica is deployed and becomes healthy. -/
def edgeActivities : List Activity :=
  [.teardown 2, .deploy edgeLaunch,
   .reports [⟨some 3, some 83, "healthy", "web-3", true, true, ""⟩]]

def edgeSchedule : List Nat :=
  List.replicate 7 0 ++ List.replicate 4 1 ++ List.replicate 26 3 ++ List.replicate 6 2

theorem edgeCluster_settles :
    ((portFlow {}).run Thread.spawn (edgeCluster, edgeActivities.map Activity.thread)
        edgeSchedule).1.ports = [⟨71, 30000, some 83, none⟩, ⟨71, 30000, some 81, some 0⟩] ∧
      PortsUnique ((portFlow {}).run Thread.spawn
        (edgeCluster, edgeActivities.map Activity.thread) edgeSchedule).1 ∧
      NoLeak ((portFlow {}).run Thread.spawn
        (edgeCluster, edgeActivities.map Activity.thread) edgeSchedule).1 := by
  obtain ⟨unique, settles⟩ := ports_track_live_targets {} edgeCluster edgeActivities edgeSchedule
    (by decide +kernel) (by decide +kernel)
  exact ⟨by decide +kernel, unique, settles (by decide +kernel) (by decide +kernel)⟩

/-- A new replica is deployed, and its agent reports that it failed. -/
def failedReplica : List Activity :=
  [.deploy edgeLaunch, .reports [⟨some 3, some 83, "failed", "", true, false, "exited"⟩]]

def failedSchedule : List Nat :=
  List.replicate 4 0 ++ List.replicate 26 2 ++ List.replicate 3 1

/-- The failed target keeps its port when nothing runs any more. -/
theorem failed_target_keeps_port :
    NoLeak edgeCluster ∧ PortsUnique edgeCluster ∧
      (∀ thread ∈ ((portFlow {}).run Thread.spawn
        (edgeCluster, failedReplica.map Activity.thread) failedSchedule).2,
          thread.act {} = none) ∧
      ¬ NoLeak ((portFlow {}).run Thread.spawn
        (edgeCluster, failedReplica.map Activity.thread) failedSchedule).1 := by
  exact ⟨by decide +kernel, by decide +kernel, by decide +kernel, by decide +kernel⟩

end EdgeCluster

end Nixway.Deploy
