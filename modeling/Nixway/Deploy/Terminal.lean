/-
# Deploy.Terminal -- a terminal deployment stays terminal, unless it is closed late

`TriggerDeploy` starts its dispatch goroutines before its closing write of
'deploying', so an agent's report may be handled before that write.  In every run
of a rollout the status and the error of a deployment that is 'healthy' or
'failed' last exactly when the closing write never finds such a row.

The error is safe from the completions for a counting reason (`Budget`): a
replica is counted, failed or still to come, and the counter can only reach the
desired replicas when no target failed.
-/
import Nixway.Deploy.Rollout

namespace Nixway.Deploy

open Nixway.Theory Nixway.Store
open Nixway.Theory.Prog (query exec atomic forEach)

set_option autoImplicit false

/-! ## What the agents send -/

/-- Each target's agent sends messages about that target of the deployment, and
only the last of them can be a finished one. -/
structure AgentReplies (deployID : UUID) (replies : UUID → List DeployOutput) : Prop where
  about : ∀ targetID, ∀ out ∈ replies targetID,
    out.deployID = some deployID ∧ out.targetID = some targetID
  ordered : ∀ targetID, ∀ out ∈ (replies targetID).dropLast, out.finished = false

theorem pending_of_ordered {deployID : UUID} (outs : List DeployOutput)
    (about : ∀ out ∈ outs, out.deployID = some deployID ∧ out.targetID.isSome)
    (ordered : ∀ out ∈ outs.dropLast, out.finished = false) :
    Pending deployID (reportedOutcome outs) outs := by
  induction outs with
  | nil => exact .silent
  | cons out rest ih =>
    obtain ⟨ofDeploy, ofTarget⟩ := about out List.mem_cons_self
    cases rest with
    | nil =>
      cases finished : out.finished with
      | true =>
        have outcome : reportedOutcome [out] = some out.success := by
          simp [reportedOutcome, finished]
        rw [outcome]
        exact .last ofDeploy ofTarget finished
      | false =>
        have outcome : reportedOutcome [out] = none := by simp [reportedOutcome, finished]
        rw [outcome]
        exact .phase ofDeploy ofTarget finished .silent
    | cons next rest =>
      have same : reportedOutcome (out :: next :: rest) = reportedOutcome (next :: rest) := by
        simp only [reportedOutcome, List.getLast?_cons_cons]
      rw [same]
      refine .phase ofDeploy ofTarget (ordered out (by simp)) (ih ?_ ?_)
      · exact fun o member => about o (List.mem_cons_of_mem out member)
      · intro o member
        apply ordered o
        rw [List.dropLast_cons_cons]
        exact List.mem_cons_of_mem out member

theorem AgentReplies.pending {deployID : UUID} {replies : UUID → List DeployOutput}
    (shaped : AgentReplies deployID replies) (targetID : UUID) :
    Pending deployID (reportedOutcome (replies targetID)) (replies targetID) := by
  refine pending_of_ordered _ (fun out member => ?_) (shaped.ordered targetID)
  obtain ⟨ofDeploy, ofTarget⟩ := shaped.about targetID out member
  exact ⟨ofDeploy, by rw [ofTarget]; rfl⟩

/-! ## What a dispatch leaves alone -/

/-- Two rows agree on status, error and counters. -/
structure Alike (d d' : Deployment) : Prop where
  status : d'.status = d.status
  error : d'.error = d.error
  desired : d'.replicasDesired = d.replicasDesired
  ready : d'.replicasReady = d.replicasReady

theorem Alike.refl (d : Deployment) : Alike d d := ⟨rfl, rfl, rfl, rfl⟩

/-- A goroutine that may still send its command. -/
def Dispatch.weight : Dispatch → Nat
  | .fail _ | .halt => 0
  | _ => 1

theorem Dispatch.weight_afterEnv (job : Job) (entries : EnvMap) (platform : String)
    (edgeEnabled : Bool) : (Dispatch.afterEnv job entries platform edgeEnabled).weight = 1 := by
  unfold Dispatch.afterEnv
  cases entries with
  | nil => cases edgeEnabled <;> rfl
  | cons entry rest => rfl

/-- A dispatch step sends nothing, or it is the one that hands over the command of
its target; the deployment's row stays alike either way. -/
structure DispatchStep (job : Job) (deployID : UUID) (point point' : Dispatch) (w w' : World) :
    Prop where
  row : ∀ d, w.getDeployment deployID = some d →
    ∃ d', w'.getDeployment deployID = some d' ∧ Alike d d'
  started : w'.started = w.started
  sent : w'.sent = w.sent ∧ point'.weight ≤ point.weight ∨
    point.weight = 1 ∧ point' = .halt ∧
      ∃ agentID cmd, w'.sent = w.sent ++ [(agentID, .deployCommand cmd)] ∧
        cmd.targetID = job.target.id

theorem DispatchStep.read (job : Job) (deployID : UUID) {point point' : Dispatch} (w : World)
    (weight : point'.weight ≤ point.weight) : DispatchStep job deployID point point' w w :=
  ⟨fun d found => ⟨d, found, .refl d⟩, rfl, .inl ⟨rfl, weight⟩⟩

theorem Dispatch.step_spec {dns : DnsConfig} {job : Job} {point : Dispatch}
    {effect : World → World} {next : World → Dispatch}
    (edge : point.act dns job = some (effect, next)) (deployID : UUID) (w : World) :
    DispatchStep job deployID point (next w) w (effect w) := by
  cases point with
  | online =>
    cases edge
    refine .read job deployID w ?_
    simp only [Dispatch.weight]
    split <;> simp
  | readTeam => cases edge; exact .read job deployID w (Nat.le_refl 1)
  | readServer team => cases edge; exact .read job deployID w (Nat.le_refl 1)
  | readEdges team srv => cases edge; exact .read job deployID w (Nat.le_refl 1)
  | domain platform edgeEnabled =>
    cases edge
    beta_reduce
    refine ⟨fun d found => ?_, rfl, .inl ⟨rfl, by rw [Dispatch.weight_afterEnv]; rfl⟩⟩
    by_cases here : deployID = job.deployment.id
    · subst here
      refine ⟨{ d with platformDomain := platform }, ?_, rfl, rfl, rfl, rfl⟩
      rw [World.getDeployment, World.setDeploymentPlatformDomain, Table.find?_update_self]
      exact congrArg _ found
    · refine ⟨d, ?_, .refl d⟩
      rw [World.getDeployment, World.setDeploymentPlatformDomain, Table.find?_update_ne here]
      exact found
  | assign entry rest platform edgeEnabled =>
    cases edge
    exact ⟨fun d found => ⟨d, found, .refl d⟩, rfl,
      .inl ⟨rfl, by rw [Dispatch.weight_afterEnv]; rfl⟩⟩
  | allocate platform =>
    simp only [Dispatch.act, Option.some.injEq, Prod.mk.injEq] at edge
    obtain ⟨rfl, rfl⟩ := edge
    beta_reduce
    obtain full | ⟨port, allocated⟩ := w.allocateServerPort_cases job.member.serverID job.target.id
    · rw [full]
      exact .read job deployID w (Nat.zero_le 1)
    · rw [allocated]
      exact ⟨fun d found => ⟨d, found, .refl d⟩, rfl, .inl ⟨rfl, Nat.le_refl 1⟩⟩
  | bind platform port =>
    cases edge
    exact ⟨fun d found => ⟨d, found, .refl d⟩, rfl, .inl ⟨rfl, Nat.le_refl 1⟩⟩
  | send platform labels =>
    cases edge
    beta_reduce
    obtain ⟨err, failed⟩ | sent := sendToAgent_cases job.member.serverID.text
      (Dispatch.message job platform labels w) w
    · rw [failed]
      exact .read job deployID w (Nat.zero_le 1)
    · rw [sent]
      exact ⟨fun d found => ⟨d, found, .refl d⟩, rfl, .inr ⟨rfl, rfl, _, _, rfl, rfl⟩⟩
  | fail msg =>
    cases edge
    refine ⟨fun d found => ⟨d, ?_, .refl d⟩, ?_, .inl ⟨?_, Nat.le_refl 0⟩⟩
    · rw [(sameRow_updateTarget deployID w _).deployment]
      exact found
    · exact (sameRow_updateTarget deployID w _).started
    · unfold World.updateDeploymentTargetStatus
      split <;> rfl
  | halt => cases edge

/-! ## The budget of a rollout -/

namespace Site

def weight : Site → Nat
  | .loop _ todo => todo.length
  | .start _ _ _ rest => rest.length + 1
  | .returned => 0
  | .dispatch _ point => point.weight
  | .report _ point => if point.stage.pastIncrement then 0 else 1

/-- The control points of the rollout of one deployment. -/
def Fits (rollout : Rollout) (deployment : Deployment) : Site → Prop
  | .loop d _ => d = deployment
  | .start d _ _ _ => d = deployment
  | .returned => True
  | .dispatch _ _ => True
  | .report targetID point => Deploy.Fits deployment.id (rollout.outcome targetID) point

/-- The thread of `TriggerDeploy`. -/
def IsLoop : Site → Prop
  | .loop _ _ | .start _ _ _ _ => True
  | _ => False

/-- A handler about to complete the deployment. -/
def Completing : Site → Prop
  | .report _ point => point.stage = .complete
  | _ => False

end Site

/-- The replicas all threads may still bring. -/
def remaining (ts : List Site) : Nat := (ts.map Site.weight).sum

theorem remaining_set {ts : List Site} {i : Nat} {k : Site} (here : ts[i]? = some k) (k' : Site)
    (spawned : List Site) :
    remaining (ts.set i k' ++ spawned) + k.weight =
      remaining ts + k'.weight + remaining spawned :=
  sum_map_set_append Site.weight here k' spawned

/-- A deployment that is 'healthy' or 'failed'. -/
def Terminal (d : Deployment) : Prop := d.status = .healthy ∨ d.status = .failed

instance (d : Deployment) : Decidable (Terminal d) := inferInstanceAs (Decidable (_ ∨ _))

/-- The invariant of a rollout, with the row `d` of its deployment. -/
structure Budget (rollout : Rollout) (deployment : Deployment) (w : World) (d : Deployment)
    (ts : List Site) : Prop where
  found : w.getDeployment deployment.id = some d
  desired : d.replicasDesired = rollout.replicas
  within : d.replicasReady + remaining ts ≤ rollout.replicas
  erring : d.error ≠ none → d.replicasReady + remaining ts < rollout.replicas
  completing : ∀ s ∈ ts, s.Completing → (rollout.replicas : Int) ≤ d.replicasReady
  fits : ∀ s ∈ ts, s.Fits rollout deployment
  loop : ∀ j s, ts[j]? = some s → s.IsLoop → j = 0

/-- What a step other than the closing write keeps of a row. -/
structure Lasting (d d' : Deployment) : Prop where
  terminal : Terminal d → Terminal d'
  error : d.error ≠ none → d'.error ≠ none

theorem Alike.lasting {d d' : Deployment} (alike : Alike d d') : Lasting d d' where
  terminal h := by rw [Terminal, alike.status]; exact h
  error h := by rw [alike.error]; exact h

section Budget

variable {rollout : Rollout} {deployment : Deployment} {w w' : World} {d d' : Deployment}
  {ts : List Site} {i : Nat} {k k' : Site} {spawned : List Site}

/-- The threads of a step: none of them is the loop or completes at once. -/
structure Spawned (rollout : Rollout) (deployment : Deployment) (spawned : List Site) :
    Prop where
  fits : ∀ s ∈ spawned, s.Fits rollout deployment
  fresh : ∀ s ∈ spawned, ¬ s.IsLoop ∧ ¬ s.Completing

theorem Spawned.nil (deployment : Deployment) : Spawned rollout deployment [] :=
  ⟨by simp, by simp⟩

/-- One step within the budget: what the moved thread, the new threads and the
counter gain together is covered by what the thread held. -/
theorem Budget.move (budget : Budget rollout deployment w d ts) (here : ts[i]? = some k)
    (new : Spawned rollout deployment spawned) (found : w'.getDeployment deployment.id = some d')
    (desired : d'.replicasDesired = d.replicasDesired) (grows : d.replicasReady ≤ d'.replicasReady)
    (covered : d'.replicasReady + k'.weight + remaining spawned ≤ d.replicasReady + k.weight)
    (error : d'.error ≠ none → d.error ≠ none ∨
      d'.replicasReady + k'.weight + remaining spawned < d.replicasReady + k.weight)
    (completing : k'.Completing → (rollout.replicas : Int) ≤ d'.replicasReady)
    (fits : k'.Fits rollout deployment) (loop : k'.IsLoop → k.IsLoop) :
    Budget rollout deployment w' d' (ts.set i k' ++ spawned) := by
  have sum := remaining_set here k' spawned
  have within := budget.within
  refine
    { found := found
      desired := desired.trans budget.desired
      within := by omega
      erring := ?_
      completing := ?_
      fits := ?_
      loop := ?_ }
  · intro recorded
    rcases error recorded with before | strict
    · have := budget.erring before
      omega
    · omega
  · intro s member completes
    rcases List.mem_append.mp member with inside | fresh
    · rcases List.mem_or_eq_of_mem_set inside with stays | rfl
      · have := budget.completing s stays completes
        omega
      · exact completing completes
    · exact absurd completes (new.fresh s fresh).2
  · intro s member
    rcases List.mem_append.mp member with inside | fresh
    · rcases List.mem_or_eq_of_mem_set inside with stays | rfl
      · exact budget.fits s stays
      · exact fits
    · exact new.fits s fresh
  · intro j s atJ isLoop
    by_cases inside : j < (ts.set i k').length
    · rw [List.getElem?_append_left inside] at atJ
      by_cases same : i = j
      · subst same
        rw [List.getElem?_set_self (by simpa using inside)] at atJ
        cases atJ
        exact budget.loop i k here (loop isLoop)
      · rw [List.getElem?_set_ne same] at atJ
        exact budget.loop j s atJ isLoop
    · rw [List.getElem?_append_right (by omega)] at atJ
      exact absurd isLoop (new.fresh s (List.mem_of_getElem? atJ)).1

theorem Site.spawn_none (started : w'.started = w.started) (sent : w'.sent = w.sent) :
    Site.spawn rollout w w' = [] := by
  simp [Site.spawn, started, sent]

theorem Site.spawn_started {g : Goroutine} (started : w'.started = w.started ++ [g])
    (sent : w'.sent = w.sent) : Site.spawn rollout w w' = Site.ofGoroutine g := by
  simp [Site.spawn, started, sent]

theorem Site.spawn_sent {m : String × ControlMessage} (started : w'.started = w.started)
    (sent : w'.sent = w.sent ++ [m]) : Site.spawn rollout w w' = Site.ofMessage rollout m := by
  simp [Site.spawn, started, sent]

theorem Budget.close (budget : Budget rollout deployment w d ts)
    (here : ts[i]? = some (.loop deployment [])) :
    Budget rollout deployment
      (w.updateDeploymentStatus deployment.id .deploying (some w.now) none)
      { d with status := .deploying, startedAt := d.startedAt.or (some w.now), error := none }
      (ts.set i .returned ++ Site.spawn rollout w
        (w.updateDeploymentStatus deployment.id .deploying (some w.now) none)) := by
  have quiet : Site.spawn rollout w
      (w.updateDeploymentStatus deployment.id .deploying (some w.now) none) = [] :=
    Site.spawn_none rfl rfl
  rw [quiet]
  refine budget.move here (.nil deployment) ?_ rfl (le_refl _) ?_ ?_ ?_ trivial ?_
  · rw [World.getDeployment, World.updateDeploymentStatus, Table.find?_update_self]
    exact congrArg _ budget.found
  · simp [Site.weight, remaining]
  · simp
  · exact False.elim
  · exact False.elim

theorem Budget.insertTarget (budget : Budget rollout deployment w d ts) {targetID : UUID}
    {scheduled : ScheduledTarget} {rest : List (UUID × ScheduledTarget)}
    (here : ts[i]? = some (.loop deployment ((targetID, scheduled) :: rest)))
    {effect : World → World} {next : World → Site}
    (edge : Site.act rollout (.loop deployment ((targetID, scheduled) :: rest)) =
      some (effect, next)) :
    Budget rollout deployment (effect w) d
      (ts.set i (next w) ++ Site.spawn rollout w (effect w)) := by
  cases edge
  beta_reduce
  obtain failed | ⟨target, rows, created⟩ :
      w.createDeploymentTarget targetID deployment.id scheduled.member.serverID = (w, none) ∨
        ∃ target rows, w.createDeploymentTarget targetID deployment.id scheduled.member.serverID =
          ({ w with targets := rows }, some target) := by
    unfold World.createDeploymentTarget
    simp only
    split
    · exact .inl rfl
    · split
      · exact .inr ⟨_, _, rfl⟩
      · exact .inl rfl
  · rw [failed, Site.spawn_none rfl rfl]
    refine budget.move here (.nil deployment) budget.found rfl (le_refl _) ?_ .inl ?_ trivial ?_
    · simp [Site.weight, remaining]
      omega
    · exact False.elim
    · exact False.elim
  · have quiet : Site.spawn rollout w { w with targets := rows } = [] := Site.spawn_none rfl rfl
    rw [created, quiet]
    refine budget.move here (.nil deployment) budget.found rfl (le_refl _) ?_ .inl ?_ rfl ?_
    · simp [Site.weight, remaining]
    · exact False.elim
    · exact fun _ => trivial

/-- The `go` statement of the loop hands one replica over to its goroutine. -/
theorem Budget.startDispatch (budget : Budget rollout deployment w d ts)
    {target : DeploymentTarget} {scheduled : ScheduledTarget}
    {rest : List (UUID × ScheduledTarget)}
    (here : ts[i]? = some (.start deployment target scheduled rest)) {w' : World}
    (now : w' = { w with started :=
      w.started ++ [Site.goroutine rollout deployment target scheduled] }) :
    Budget rollout deployment w' d
      (ts.set i (.loop deployment rest) ++ Site.spawn rollout w w') := by
  have handed : Site.spawn rollout w w' =
      Site.ofGoroutine (Site.goroutine rollout deployment target scheduled) :=
    Site.spawn_started (by rw [now]) (by rw [now])
  rw [handed]
  subst now
  refine budget.move here ⟨?_, ?_⟩ budget.found rfl (le_refl _) ?_ .inl ?_ rfl ?_
  · intro s member
    simp only [Site.goroutine, Site.ofGoroutine, List.mem_singleton] at member
    subst member
    trivial
  · intro s member
    simp only [Site.goroutine, Site.ofGoroutine, List.mem_singleton] at member
    subst member
    exact ⟨id, id⟩
  · simp only [Site.weight, remaining, Site.goroutine, Site.ofGoroutine, Dispatch.weight,
      List.map_cons, List.map_nil, List.sum_cons, List.sum_nil]
    omega
  · exact False.elim
  · exact fun _ => trivial

theorem Budget.dispatchStep (shaped : AgentReplies deployment.id rollout.replies)
    (budget : Budget rollout deployment w d ts) {job : Job} {point point' : Dispatch}
    (here : ts[i]? = some (.dispatch job point))
    (step : DispatchStep job deployment.id point point' w w') :
    ∃ d', Alike d d' ∧ Budget rollout deployment w' d'
      (ts.set i (.dispatch job point') ++ Site.spawn rollout w w') := by
  obtain ⟨d', found, alike⟩ := step.row d budget.found
  have sameReady := alike.ready
  have sameError : d'.error ≠ none → d.error ≠ none := by
    rw [alike.error]
    exact id
  refine ⟨d', alike, ?_⟩
  rcases step.sent with ⟨sent, lighter⟩ | ⟨heavy, halt, agentID, cmd, sent, ofTarget⟩
  · rw [Site.spawn_none step.started sent]
    refine budget.move here (.nil deployment) found alike.desired (by omega) ?_
      (fun recorded => .inl (sameError recorded)) False.elim trivial False.elim
    simp only [Site.weight, remaining, List.map_nil, List.sum_nil]
    omega
  · subst halt
    rw [Site.spawn_sent step.started sent]
    have pending := shaped.pending cmd.targetID
    refine budget.move here ⟨?_, ?_⟩ found alike.desired (by omega) ?_
      (fun recorded => .inl (sameError recorded)) False.elim trivial False.elim
    · intro s member
      simp only [Site.ofMessage, List.mem_singleton] at member
      subst member
      exact .inr pending
    · intro s member
      simp only [Site.ofMessage, List.mem_singleton] at member
      subst member
      refine ⟨id, ?_⟩
      rcases pending.stage_receive with ⟨stage, -⟩ | stage <;> simp [Site.Completing, stage]
    · simp only [Site.weight, remaining, Site.ofMessage, List.map_cons, List.map_nil,
        List.sum_cons, List.sum_nil]
      rw [heavy]
      split <;> simp [Dispatch.weight] <;> omega

/-- A handler's step.  Completing the deployment clears no error, since with an
error recorded the counter cannot have reached the desired replicas. -/
theorem Budget.reportStep (budget : Budget rollout deployment w d ts) {targetID : UUID}
    {point point' : Control} (here : ts[i]? = some (.report targetID point))
    (fits : Fits deployment.id (rollout.outcome targetID) point') (sent : w'.sent = w.sent)
    (move : Move deployment.id (rollout.outcome targetID) w w' point.stage point'.stage) :
    ∃ d', Lasting d d' ∧ Budget rollout deployment w' d'
      (ts.set i (.report targetID point') ++ Site.spawn rollout w w') := by
  have quiet : SameRow deployment.id w w' → (point.stage.pastIncrement = true →
      point'.stage.pastIncrement = true) →
      (point'.stage = .complete → (rollout.replicas : Int) ≤ d.replicasReady) →
      ∃ d', Lasting d d' ∧ Budget rollout deployment w' d'
        (ts.set i (.report targetID point') ++ Site.spawn rollout w w') := by
    intro same kept completing
    refine ⟨d, (Alike.refl d).lasting, ?_⟩
    rw [Site.spawn_none same.started sent]
    refine budget.move here (.nil deployment) (by rw [same.deployment]; exact budget.found) rfl
      (le_refl _) ?_ .inl completing fits False.elim
    simp only [Site.weight, remaining, List.map_nil, List.sum_nil]
    cases before : point.stage.pastIncrement with
    | false =>
      rw [if_neg Bool.false_ne_true]
      split <;> omega
    | true => simp [kept before]
  have within := budget.within
  generalize leaves : point.stage = s at move
  generalize enters : point'.stage = s' at move
  rw [leaves, enters] at quiet
  cases move with
  | listen same => exact quiet same id (fun h => nomatch h)
  | claimed pending same => exact quiet same (fun _ => rfl) (fun h => nomatch h)
  | silent never same => exact quiet same (fun _ => rfl) (fun h => nomatch h)
  | succeed ok same => exact quiet same id (fun h => nomatch h)
  | abort bad same => exact quiet same id (fun h => nomatch h)
  | enough ok same ready =>
    obtain ⟨d', found, ready⟩ := ready
    obtain rfl : d = d' := Option.some.inj (budget.found.symm.trans found)
    refine quiet same id fun _ => ?_
    rw [← budget.desired]
    exact ready
  | wait ok same short => exact quiet same id (fun h => nomatch h)
  | count ok now =>
    rw [Site.spawn_none (by rw [now]; rfl) sent]
    subst now
    refine ⟨{ d with replicasReady := d.replicasReady + 1 }, ⟨id, id⟩, ?_⟩
    refine budget.move here (.nil deployment) (find_increment budget.found) rfl (by simp only; omega) ?_ .inl
      (fun completes => ?_) fits False.elim
    · simp [Site.weight, leaves, enters, Stage.pastIncrement, remaining]
    · simp [Site.Completing, enters] at completes
  | finish ok now =>
    rw [Site.spawn_none (by rw [now]; rfl) sent]
    subst now
    have reached : (rollout.replicas : Int) ≤ d.replicasReady :=
      budget.completing _ (List.mem_of_getElem? here) leaves
    have clean : d.error = none := by
      by_contra recorded
      have := budget.erring recorded
      omega
    refine ⟨{ d with status := .healthy, completedAt := some w.now, error := none },
      ⟨fun _ => .inl rfl, fun recorded => absurd clean recorded⟩, ?_⟩
    refine budget.move here (.nil deployment) (find_complete budget.found .healthy none) rfl
      (le_refl _) ?_ (fun recorded => absurd rfl recorded) (fun completes => ?_) fits False.elim
    · simp [Site.weight, leaves, enters, Stage.pastIncrement, remaining]
    · simp [Site.Completing, enters] at completes
  | start ok now =>
    rw [Site.spawn_started (by rw [now]) sent]
    subst now
    refine ⟨d, (Alike.refl d).lasting, ?_⟩
    refine budget.move here (.nil deployment) budget.found rfl
      (le_refl _) ?_ .inl (fun completes => ?_) fits False.elim
    · simp [Site.weight, leaves, enters, Stage.pastIncrement, remaining, Site.ofGoroutine]
    · simp [Site.Completing, enters] at completes
  | abandon bad error now =>
    rw [Site.spawn_none (by rw [now]; rfl) sent]
    subst now
    refine ⟨{ d with status := .failed, completedAt := some w.now, error := some error },
      ⟨fun _ => .inr rfl, fun _ => Option.some_ne_none error⟩, ?_⟩
    refine budget.move here (.nil deployment) (find_complete budget.found .failed (some error)) rfl
      (le_refl _) ?_ (fun _ => .inr ?_) (fun completes => ?_) fits False.elim
    · simp only [Site.weight, leaves, enters, Stage.pastIncrement, remaining, List.map_nil,
        List.sum_nil, if_true, Bool.false_eq_true, if_false]
      omega
    · simp only [Site.weight, leaves, enters, Stage.pastIncrement, remaining, List.map_nil,
        List.sum_nil, if_true, Bool.false_eq_true, if_false]
      omega
    · simp [Site.Completing, enters] at completes

theorem Control.sent_eq {point : Control} {effect : World → World} {next : World → Control}
    (edge : point.act = some (effect, next)) (w : World) : (effect w).sent = w.sent := by
  cases point with
  | receive outs =>
    cases outs with
    | nil => cases edge
    | cons out rest => cases edge; rfl
  | record out targetID rest =>
    cases edge
    simp only [World.updateDeploymentTargetStatus]
    split <;> rfl
  | _ => cases edge; rfl

/-- **One step keeps the budget.**  Every step but the closing write keeps a
terminal status and a recorded error. -/
theorem Budget.step (shaped : AgentReplies deployment.id rollout.replies)
    (budget : Budget rollout deployment w d ts) (here : ts[i]? = some k)
    {effect : World → World} {next : World → Site}
    (edge : Site.act rollout k = some (effect, next)) :
    ∃ d', Budget rollout deployment (effect w) d'
        (ts.set i (next w) ++ Site.spawn rollout w (effect w)) ∧
      (Lasting d d' ∨ k = .loop deployment []) := by
  have fits := budget.fits k (List.mem_of_getElem? here)
  cases k with
  | loop d₀ todo =>
    obtain rfl : d₀ = deployment := fits
    cases todo with
    | nil =>
      cases edge
      exact ⟨_, budget.close here, .inr rfl⟩
    | cons head rest =>
      exact ⟨d, budget.insertTarget here edge, .inl (Alike.refl d).lasting⟩
  | start d₀ target scheduled rest =>
    obtain rfl : d₀ = deployment := fits
    cases edge
    exact ⟨d, budget.startDispatch here rfl, .inl (Alike.refl d).lasting⟩
  | returned => cases edge
  | dispatch job point =>
    obtain ⟨⟨effect', next'⟩, edge', same⟩ := Option.map_eq_some_iff.mp edge
    cases same
    obtain ⟨d', alike, kept⟩ :=
      budget.dispatchStep shaped here (Dispatch.step_spec edge' deployment.id w)
    exact ⟨d', kept, .inl alike.lasting⟩
  | report targetID point =>
    obtain ⟨⟨effect', next'⟩, edge', same⟩ := Option.map_eq_some_iff.mp edge
    cases same
    obtain ⟨fits', move⟩ := Control.moves fits edge' w
    obtain ⟨d', lasting, kept⟩ :=
      budget.reportStep here fits' (Control.sent_eq edge' w) move
    exact ⟨d', kept, .inl lasting⟩

end Budget

/-! ## Runs of a rollout -/

section Runs

variable {rollout : Rollout} {deployment : Deployment} {w : World}

theorem budget_start {before : World}
    (created : createLaunched rollout.launch before = (w, some deployment)) :
    Budget rollout deployment w deployment
      [.loop deployment rollout.launch.targets] := by
  simp only [createLaunched, World.createDeployment] at created
  split at created
  · rename_i inserted
    split at inserted
    · rename_i rows fits
      cases inserted
      cases created
      refine ⟨?_, rfl, ?_, fun recorded => absurd rfl recorded, ?_, ?_, ?_⟩
      · exact (Table.find?_insert? fits rollout.launch.deploymentID).trans (if_pos rfl)
      · simp [remaining, Site.weight, Rollout.replicas]
      · intro s member completes
        rw [List.mem_singleton] at member
        subst member
        exact completes.elim
      · intro s member
        rw [List.mem_singleton] at member
        subst member
        rfl
      · intro j s atJ _
        by_contra past
        rw [List.getElem?_eq_none (by simp; omega)] at atJ
        cases atJ
    · cases inserted
  · cases created

/-- The store after the first `n` steps of a schedule. -/
def Rollout.stateAt (rollout : Rollout) (w : World) (deployment : Deployment)
    (schedule : List Nat) (n : Nat) : World :=
  ((rollout.pool w deployment).run rollout.spawn (schedule.take n)).store

/-- Once the deployment is 'healthy' or 'failed' it is never again 'deploying' or
'pending', and its recorded error is never cleared. -/
def NeverRegresses (deployID : UUID) (states : Nat → World) : Prop :=
  ∀ m n, m ≤ n → ∀ d d', (states m).getDeployment deployID = some d → Terminal d →
    (states n).getDeployment deployID = some d' →
    d'.status ≠ .deploying ∧ d'.status ≠ .pending ∧ (d.error ≠ none → d'.error ≠ none)

/-- The closing write never finds a terminal row. -/
def ClosesInTime (rollout : Rollout) (w : World) (deployment : Deployment)
    (schedule : List Nat) : Prop :=
  ∀ n, schedule[n]? = some 0 →
    Rollout.AtClose deployment ((rollout.pool w deployment).run rollout.spawn (schedule.take n)) →
    ∀ d, (rollout.stateAt w deployment schedule n).getDeployment deployment.id = some d →
      ¬ Terminal d

theorem Rollout.stateAt_eq (rollout : Rollout) (w : World) (deployment : Deployment)
    (schedule : List Nat) (n : Nat) :
    rollout.stateAt w deployment schedule n = (rollout.sites w deployment (schedule.take n)).1 := by
  rw [Rollout.stateAt, Rollout.run_eq]
  rfl

/-- The budget holds along every run. -/
theorem budget_run {before : World}
    (created : createLaunched rollout.launch before = (w, some deployment))
    (shaped : AgentReplies deployment.id rollout.replies) (schedule : List Nat) :
    ∃ d, Budget rollout deployment
      (rollout.sites w deployment schedule).1 d (rollout.sites w deployment schedule).2 := by
  refine Flow.run_invariant
    (I := fun c => ∃ d, Budget rollout deployment c.1 d c.2) ?_
    ⟨deployment, budget_start created⟩ schedule
  rintro ⟨v, ts⟩ i ⟨d, budget⟩
  obtain same | ⟨k, effect, next, here, edge, moved⟩ :=
    Flow.advance_cases (rolloutFlow rollout) (Site.spawn rollout) (v, ts) i
  · rw [same]
    exact ⟨d, budget⟩
  · rw [moved]
    obtain ⟨d', kept, -⟩ := budget.step shaped here edge
    exact ⟨d', kept⟩

theorem take_succ_of_getElem? {schedule : List Nat} {n i : Nat} (here : schedule[n]? = some i) :
    schedule.take (n + 1) = schedule.take n ++ [i] := by
  obtain ⟨bound, value⟩ := List.getElem?_eq_some_iff.mp here
  rw [List.take_succ_eq_append_getElem bound, value]

/-- One more step of a run keeps a terminal row, unless it is a late close. -/
theorem lasting_step {before : World}
    (created : createLaunched rollout.launch before = (w, some deployment))
    (shaped : AgentReplies deployment.id rollout.replies) {schedule : List Nat}
    (inTime : ClosesInTime rollout w deployment schedule) (n : Nat) {d : Deployment}
    (found : (rollout.stateAt w deployment schedule n).getDeployment deployment.id = some d)
    (terminal : Terminal d) :
    ∃ d', (rollout.stateAt w deployment schedule (n + 1)).getDeployment deployment.id = some d' ∧
      Lasting d d' := by
  cases here : schedule[n]? with
  | none =>
    have stays : schedule.take (n + 1) = schedule.take n := by
      have long := List.getElem?_eq_none_iff.mp here
      rw [List.take_of_length_le (by omega), List.take_of_length_le long]
    refine ⟨d, ?_, id, id⟩
    rw [Rollout.stateAt, stays]
    exact found
  | some i =>
    obtain ⟨d₀, budget⟩ := budget_run created shaped (schedule.take n)
    have row := found
    rw [Rollout.stateAt_eq] at row
    obtain rfl : d₀ = d := Option.some.inj (budget.found.symm.trans row)
    have advanced : rollout.sites w deployment (schedule.take (n + 1)) =
        (rolloutFlow rollout).advance (Site.spawn rollout)
          (rollout.sites w deployment (schedule.take n)) i := by
      rw [take_succ_of_getElem? here, Rollout.sites, Flow.run_append]
      rfl
    rw [Rollout.stateAt_eq, advanced]
    obtain same | ⟨k, effect, next, atI, edge, moved⟩ :=
      Flow.advance_cases (rolloutFlow rollout) (Site.spawn rollout)
        (rollout.sites w deployment (schedule.take n)) i
    · rw [same]
      exact ⟨d₀, budget.found, id, id⟩
    · obtain ⟨d', kept, lasting | closing⟩ := budget.step shaped atI edge
      · rw [moved]
        exact ⟨d', kept.found, lasting⟩
      · -- The closing write sits at position 0, so the schedule would close late.
        exfalso
        have first : i = 0 := budget.loop i k atI (by rw [closing]; trivial)
        subst first closing
        refine inTime n here ?_ d₀ found terminal
        rw [Rollout.AtClose, Rollout.run_eq]
        simp only [Flow.pool, List.getElem?_map, atI]
        rfl

theorem Lasting.trans {a b c : Deployment} (ab : Lasting a b) (bc : Lasting b c) : Lasting a c :=
  ⟨fun h => bc.terminal (ab.terminal h), fun h => bc.error (ab.error h)⟩

/-- **A terminal status lasts exactly when the rollout is closed in time.**  In
every run, for any number of targets, any interleaving and any answers of the
agents, the deployment never leaves 'healthy' or 'failed' and never loses its
error if and only if no closing write finds it terminal. -/
theorem never_regresses_iff {before : World}
    (created : createLaunched rollout.launch before = (w, some deployment))
    (shaped : AgentReplies deployment.id rollout.replies) (schedule : List Nat) :
    NeverRegresses deployment.id (rollout.stateAt w deployment schedule) ↔
      ClosesInTime rollout w deployment schedule := by
  constructor
  · intro never n here atClose d found terminal
    -- A late close turns the terminal row into a 'deploying' one.
    have after : rollout.stateAt w deployment schedule (n + 1) =
        (rollout.stateAt w deployment schedule n).updateDeploymentStatus deployment.id .deploying
          (some (rollout.stateAt w deployment schedule n).now) none := by
      rw [Rollout.stateAt, take_succ_of_getElem? here, Pool.run_concat, Pool.advance, atClose]
      rfl
    have row : (rollout.stateAt w deployment schedule (n + 1)).getDeployment deployment.id =
        some { d with
          status := .deploying
          startedAt := d.startedAt.or (some (rollout.stateAt w deployment schedule n).now)
          error := none } := by
      rw [after, World.getDeployment, World.updateDeploymentStatus, Table.find?_update_self]
      exact congrArg _ found
    exact (never n (n + 1) (Nat.le_succ n) d _ found terminal row).1 rfl
  · intro inTime m n le d d' found terminal found'
    have lasts : ∀ steps, ∃ e,
        (rollout.stateAt w deployment schedule (m + steps)).getDeployment deployment.id = some e ∧
          Lasting d e := by
      intro steps
      induction steps with
      | zero => exact ⟨d, found, id, id⟩
      | succ steps ih =>
        obtain ⟨e, foundE, lasting⟩ := ih
        obtain ⟨e', foundE', more⟩ :=
          lasting_step created shaped inTime (m + steps) foundE (lasting.terminal terminal)
        exact ⟨e', foundE', lasting.trans more⟩
    obtain ⟨e, foundE, lasting⟩ := lasts (n - m)
    rw [Nat.add_sub_cancel' le] at foundE
    obtain rfl : e = d' := Option.some.inj (foundE.symm.trans found')
    have stillTerminal := lasting.terminal terminal
    refine ⟨?_, ?_, lasting.error⟩
    · intro deploying
      simp [Terminal, deploying] at stillTerminal
    · intro pending
      simp [Terminal, pending] at stillTerminal

end Runs

section OneTarget

def oneServer : World :=
  { teams := .single ⟨11, "acme"⟩
    projects := .single shopOfTeam
    apps := .single webApp
    builds := .single builtWeb
    servers := ⟨[{ id := 71, teamID := 11 }], by decide⟩
    agents := .single { agentID := UUID.text 71 } }

def failingRollout : Rollout :=
  { launch :=
      { deploymentID := 1
        environmentID := 40
        build := builtWeb
        app := webApp
        project := shopOfTeam
        targets := [(81, ⟨{ serverID := 71 }, ""⟩)] }
    replies := fun targetID =>
      [⟨some 1, some targetID, "failed", "", true, false, "docker run failed"⟩] }

def failingDeployment : Deployment :=
  { id := 1, appID := 20, environmentID := 40, buildID := 30 }

def failingStart : World := (createLaunched failingRollout.launch oneServer).1

theorem failingStart_created :
    createLaunched failingRollout.launch oneServer = (failingStart, some failingDeployment) := rfl

theorem failingRollout_replies : AgentReplies failingDeployment.id failingRollout.replies where
  about targetID out member := by
    simp only [failingRollout, List.mem_singleton] at member
    subst member
    exact ⟨rfl, rfl⟩
  ordered targetID out member := by simp [failingRollout] at member

/-- The agent's report is handled before the closing write. -/
def lateClose : List Nat := [0, 0] ++ List.replicate 16 1 ++ [2, 2, 2] ++ [0]

/-- The deployment has failed, and then is 'deploying' again without its error. -/
theorem regresses_on_late_close :
    AgentReplies failingDeployment.id failingRollout.replies ∧
      ¬ NeverRegresses failingDeployment.id
        (failingRollout.stateAt failingStart failingDeployment lateClose) := by
  refine ⟨failingRollout_replies, fun never => ?_⟩
  have failed : ((failingRollout.stateAt failingStart failingDeployment lateClose 21).getDeployment
      1).map (fun d => (d.status, d.error)) = some (.failed, some "docker run failed") := by decide
  have again : ((failingRollout.stateAt failingStart failingDeployment lateClose 22).getDeployment
      1).map (fun d => (d.status, d.error)) = some (.deploying, none) := by decide
  obtain ⟨d, found, row⟩ := Option.map_eq_some_iff.mp failed
  obtain ⟨d', found', row'⟩ := Option.map_eq_some_iff.mp again
  have kept := never 21 22 (by decide) d d' found (.inr (congrArg Prod.fst row)) found'
  exact kept.1 (congrArg Prod.fst row')

/-- The same rollout, closed before the command is sent. -/
def promptClose : List Nat := [0, 0, 0] ++ List.replicate 16 1 ++ [2, 2, 2]

theorem promptClose_inTime :
    ClosesInTime failingRollout failingStart failingDeployment promptClose := by
  intro n here _ d found
  have early : ∀ n < 22, promptClose[n]? = some 0 →
      ∀ d ∈ (failingRollout.stateAt failingStart failingDeployment promptClose n).getDeployment 1,
        ¬ Terminal d := by decide
  have bound : n < 22 := (List.getElem?_eq_some_iff.mp here).1
  exact early n bound here d found

theorem never_regresses_on_prompt_close :
    NeverRegresses failingDeployment.id
      (failingRollout.stateAt failingStart failingDeployment promptClose) :=
  (never_regresses_iff failingStart_created failingRollout_replies promptClose).mpr
    promptClose_inTime

end OneTarget

end Nixway.Deploy
