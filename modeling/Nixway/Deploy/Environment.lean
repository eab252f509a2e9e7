/-
# Deploy.Environment -- which platform variables a command carries

The goroutines of a deploy write their platform variables into one map, and a command
is encoded from that map when it is sent.  A variable a goroutine has assigned is its
own only as long as no other goroutine assigns it: `Dispatch.relied` are the
assignments a goroutine has made and whose values its command is still to carry, and
`Undisturbed` says that a step overwrites none of them with another value.
-/
import Nixway.Deploy.Terminal

namespace Nixway.Deploy

open Nixway.Theory Nixway.Store

set_option autoImplicit false

/-! ## The map -/

def EnvMap.get (key : String) (env : EnvMap) : Option String :=
  (env.find? fun entry => entry.1 = key).map Prod.snd

theorem EnvMap.get_assign (key value other : String) (env : EnvMap) :
    EnvMap.get other (EnvMap.assign key value env) =
      if other = key then some value else EnvMap.get other env := by
  induction env with
  | nil =>
    by_cases same : other = key
    · simp [EnvMap.assign, EnvMap.get, same]
    · simp [EnvMap.assign, EnvMap.get, same, Ne.symm same]
  | cons entry rest ih =>
    unfold EnvMap.assign
    by_cases here : entry.1 = key
    · by_cases same : other = key
      · simp [EnvMap.get, here, same]
      · simp [EnvMap.get, here, same, Ne.symm same]
    · by_cases first : entry.1 = other
      · have same : other ≠ key := fun equal => here (first.trans equal)
        simp [EnvMap.get, first, same]
      · simp only [EnvMap.get, if_neg here, List.find?_cons, first, decide_false] at ih ⊢
        exact ih

/-- The deploy has a map. -/
def Mapped (w : World) (deployID : UUID) : Prop := ∃ env, (deployID, env) ∈ w.envVars

theorem envOf_assignEnv {w : World} {deployID : UUID} (mapped : Mapped w deployID)
    (key value : String) :
    envOf (assignEnv deployID key value w) deployID =
      EnvMap.assign key value (envOf w deployID) := by
  obtain ⟨env, member⟩ := mapped
  have found : (w.envVars.find? fun entry => entry.1 = deployID).isSome :=
    List.find?_isSome.mpr ⟨_, member, by simp⟩
  obtain ⟨entry, first⟩ := Option.isSome_iff_exists.mp found
  have here : entry.1 = deployID := by simpa using List.find?_some first
  have sameKey : ((fun entry : UUID × EnvMap => decide (entry.1 = deployID)) ∘
      fun entry => if entry.1 = deployID then (entry.1, EnvMap.assign key value entry.2)
        else entry) = fun entry => decide (entry.1 = deployID) := by
    funext entry
    by_cases same : entry.1 = deployID
    · simp [same]
    · simp [same]
  rw [envOf, envOf, assignEnv, List.find?_map, sameKey, first]
  simp [here]

theorem Mapped.assign {w : World} {deployID : UUID} (mapped : Mapped w deployID)
    (key value : String) : Mapped (assignEnv deployID key value w) deployID := by
  obtain ⟨env, member⟩ := mapped
  refine ⟨EnvMap.assign key value env, ?_⟩
  exact List.mem_map.mpr ⟨(deployID, env), member, by simp⟩

/-! ## What a goroutine relies on -/

def Job.platformEnv (job : Job) (platform : String) : EnvMap :=
  Deploy.platformEnv job.deployment job.build job.app job.project job.member platform

/-- The names of the platform variables. -/
def platformKeys : List String :=
  ["PORT", "PLATFORM_PUBLIC_DOMAIN", "PLATFORM_PRIVATE_IP", "PLATFORM_PRIVATE_DOMAIN",
    "CLUSTER_NAME", "PROJECT_NAME", "APP_NAME", "ENVIRONMENT", "DEPLOY_ID", "GIT_SHA"]

theorem Job.platformEnv_keys (job : Job) (platform : String) :
    (job.platformEnv platform).map Prod.fst = platformKeys := rfl

theorem platformKeys_nodup : platformKeys.Nodup := by decide

/-- The assignments of a goroutine except those to the given keys. -/
def Job.assigned (job : Job) (platform : String) (todo : EnvMap) : EnvMap :=
  (job.platformEnv platform).filter fun entry => entry.1 ∉ todo.map Prod.fst

/-- The assignments made whose values the command is still to carry. -/
def Dispatch.relied (job : Job) : Dispatch → EnvMap
  | .assign entry rest platform _ => job.assigned platform (entry :: rest)
  | .allocate platform => job.assigned platform []
  | .bind platform _ => job.assigned platform []
  | .send platform _ => job.assigned platform []
  | _ => []

theorem Dispatch.relied_afterEnv (job : Job) (todo : EnvMap) (platform : String)
    (edgeEnabled : Bool) :
    (Dispatch.afterEnv job todo platform edgeEnabled).relied job = job.assigned platform todo := by
  unfold Dispatch.afterEnv
  cases todo with
  | nil => cases edgeEnabled <;> rfl
  | cons entry rest => rfl

theorem Job.assigned_all (job : Job) (platform : String) :
    job.assigned platform (job.platformEnv platform) = [] := by
  rw [Job.assigned, List.filter_eq_nil_iff]
  intro entry member
  simpa using ⟨entry.2, member⟩

theorem Job.mem_assigned_rest {job : Job} {platform : String} {entry e : String × String}
    {rest : EnvMap} (suffix : entry :: rest <:+ job.platformEnv platform)
    (member : e ∈ job.assigned platform rest) :
    e = entry ∨ e.1 ≠ entry.1 ∧ e ∈ job.assigned platform (entry :: rest) := by
  obtain ⟨known, pending⟩ := List.mem_filter.mp member
  by_cases same : e.1 = entry.1
  · have distinct : ((job.platformEnv platform).map Prod.fst).Nodup := by
      rw [job.platformEnv_keys]
      exact platformKeys_nodup
    exact .inl (List.inj_on_of_nodup_map distinct known (suffix.subset List.mem_cons_self) same)
  · refine .inr ⟨same, List.mem_filter.mpr ⟨known, ?_⟩⟩
    simpa [same] using pending

def Site.relied : Site → EnvMap
  | .dispatch job point => point.relied job
  | _ => []

/-- The assignment a thread is about to make. -/
def Site.assigns : Site → Option (String × String)
  | .dispatch _ (.assign entry _ _ _) => some entry
  | _ => none

/-- The pick overwrites no variable that the command of another goroutine is still to
carry, unless with the same value. -/
def Undisturbed (c : World × List Site) (i : Nat) : Prop :=
  ∀ entry ∈ c.2[i]?.bind Site.assigns, ∀ other ∈ c.2.eraseIdx i, ∀ e ∈ other.relied,
    e.1 = entry.1 → e.2 = entry.2

instance (c : World × List Site) (i : Nat) : Decidable (Undisturbed c i) :=
  inferInstanceAs (Decidable (∀ entry ∈ _, _))

/-! ## The property -/

/-- The deploy commands among the messages. -/
def commandsOf (sent : List (String × ControlMessage)) : List DeployCommand :=
  sent.filterMap fun m =>
    match m.2 with
    | .deployCommand cmd => some cmd
    | _ => none

/-- **Every command carries its target's own variables**: the address of the member
its target is on, and the platform domain it is routed by. -/
def OwnEnv (launch : Launch) (sent : List (String × ControlMessage)) : Prop :=
  ∀ cmd ∈ commandsOf sent, ∀ f ∈ launch.targets, f.1 = cmd.targetID →
    EnvMap.get "PLATFORM_PRIVATE_IP" cmd.env = some f.2.member.wireguardIp ∧
      ∃ platform ∈ cmd.traefik.domains.head?,
        EnvMap.get "PLATFORM_PUBLIC_DOMAIN" cmd.env = some platform

instance (launch : Launch) (sent : List (String × ControlMessage)) :
    Decidable (OwnEnv launch sent) :=
  inferInstanceAs (Decidable (∀ _ ∈ _, _))

/-! ## The invariant -/

/-- The assignments to come are the last of the platform variables. -/
def Dispatch.Orderly (job : Job) : Dispatch → Prop
  | .assign entry rest platform _ => entry :: rest <:+ job.platformEnv platform
  | _ => True

/-- The control points of the rollout, with what their arguments are. -/
def Site.Placed (launch : Launch) (deployment : Deployment) : Site → Prop
  | .loop d todo => d = deployment ∧ ∀ f ∈ todo, f ∈ launch.targets
  | .start d target scheduled rest =>
    d = deployment ∧ (target.id, scheduled) ∈ launch.targets ∧ ∀ f ∈ rest, f ∈ launch.targets
  | .dispatch job point =>
    job.deployment = deployment ∧
      (∃ scheduled, (job.target.id, scheduled) ∈ launch.targets ∧ scheduled.member = job.member) ∧
      point.Orderly job
  | _ => True

structure Owning (launch : Launch) (deployment : Deployment) (earlier : List (String × ControlMessage))
    (c : World × List Site) : Prop where
  mapped : Mapped c.1 deployment.id
  placed : ∀ s ∈ c.2, s.Placed launch deployment
  relied : ∀ s ∈ c.2, ∀ e ∈ s.relied, EnvMap.get e.1 (envOf c.1 deployment.id) = some e.2
  sent : ∃ new, c.1.sent = earlier ++ new ∧ OwnEnv launch new

/-- Threads that have not assigned anything yet. -/
def Fresh (launch : Launch) (deployment : Deployment) (spawned : List Site) : Prop :=
  ∀ s ∈ spawned, s.Placed launch deployment ∧ s.relied = []

section Steps

variable {launch : Launch} {deployment : Deployment} {earlier : List (String × ControlMessage)}
  {w w' : World} {ts spawned : List Site} {i : Nat} {k k' : Site}

theorem Owning.move (owning : Owning launch deployment earlier (w, ts)) (here : ts[i]? = some k)
    (fresh : Fresh launch deployment spawned) (placed : k'.Placed launch deployment)
    (relied : ∀ e ∈ k'.relied, e ∈ k.relied) (env : w'.envVars = w.envVars)
    (sent : ∃ new, w'.sent = earlier ++ new ∧ OwnEnv launch new) :
    Owning launch deployment earlier (w', ts.set i k' ++ spawned) where
  mapped := by
    show ∃ env, _ ∈ w'.envVars
    rw [env]
    exact owning.mapped
  placed s member := by
    rcases List.mem_append.mp member with inside | new
    · rcases List.mem_or_eq_of_mem_set inside with stays | rfl
      · exact owning.placed s stays
      · exact placed
    · exact (fresh s new).1
  relied s member e mem := by
    have same : envOf w' deployment.id = envOf w deployment.id := by rw [envOf, envOf, env]
    show EnvMap.get e.1 (envOf w' deployment.id) = some e.2
    rw [same]
    rcases List.mem_append.mp member with inside | new
    · rcases List.mem_or_eq_of_mem_set inside with stays | rfl
      · exact owning.relied s stays e mem
      · exact owning.relied k (List.mem_of_getElem? here) e (relied e mem)
    · rw [(fresh s new).2] at mem
      cases mem
  sent := sent

/-- A thread after a step is the one that moved, or one of the others. -/
theorem mem_set_cases {s : Site} (member : s ∈ ts.set i k') : s = k' ∨ s ∈ ts.eraseIdx i := by
  obtain ⟨j, found⟩ := List.mem_iff_getElem?.mp member
  by_cases same : i = j
  · subst same
    rw [List.getElem?_set_self'] at found
    obtain ⟨-, -, rfl⟩ := Option.map_eq_some_iff.mp found
    exact .inl rfl
  · rw [List.getElem?_set_ne same] at found
    exact .inr (List.mem_eraseIdx_iff_getElem?.mpr ⟨j, Ne.symm same, found⟩)

theorem Dispatch.orderly_afterEnv {job : Job} {todo : EnvMap} {platform : String}
    (suffix : todo <:+ job.platformEnv platform) (edgeEnabled : Bool) :
    (Dispatch.afterEnv job todo platform edgeEnabled).Orderly job := by
  unfold Dispatch.afterEnv
  cases todo with
  | nil => cases edgeEnabled <;> trivial
  | cons entry rest => exact suffix

/-- An assignment, made by a goroutine that disturbs no other. -/
theorem Owning.assign (owning : Owning launch deployment earlier (w, ts)) {job : Job}
    {entry : String × String} {rest : EnvMap} {platform : String} {edgeEnabled : Bool}
    (here : ts[i]? = some (.dispatch job (.assign entry rest platform edgeEnabled)))
    (undisturbed : Undisturbed (w, ts) i) :
    Owning launch deployment earlier
      (assignEnv job.deployment.id entry.1 entry.2 w,
        ts.set i (.dispatch job (Dispatch.afterEnv job rest platform edgeEnabled))) := by
  obtain ⟨rfl, target, suffix⟩ := owning.placed _ (List.mem_of_getElem? here)
  refine ⟨owning.mapped.assign entry.1 entry.2, ?_, ?_, owning.sent⟩
  · intro s member
    rcases List.mem_or_eq_of_mem_set member with stays | rfl
    · exact owning.placed s stays
    · exact ⟨rfl, target,
        Dispatch.orderly_afterEnv ((List.suffix_cons entry rest).trans suffix) edgeEnabled⟩
  · intro s member e mem
    show EnvMap.get e.1 (envOf (assignEnv job.deployment.id entry.1 entry.2 w) _) = some e.2
    rw [envOf_assignEnv owning.mapped, EnvMap.get_assign]
    rcases mem_set_cases member with rfl | other
    · -- the goroutine that moved: its new variable, and those it had assigned before
      change e ∈ (Dispatch.afterEnv job rest platform edgeEnabled).relied job at mem
      rw [Dispatch.relied_afterEnv] at mem
      obtain rfl | ⟨otherKey, before⟩ := Job.mem_assigned_rest suffix mem
      · simp
      · rw [if_neg otherKey]
        exact owning.relied _ (List.mem_of_getElem? here) e before
    · by_cases same : e.1 = entry.1
      · have assigns : entry ∈ (w, ts).2[i]?.bind Site.assigns := by
          rw [here]
          exact rfl
        rw [if_pos same, undisturbed entry assigns s other e mem same]
      · rw [if_neg same]
        exact owning.relied s (List.mem_of_mem_eraseIdx other) e mem

theorem Owning.command (owning : Owning launch deployment earlier (w, ts)) {job : Job}
    {platform : String} {labels : EnvMap} (distinct : (launch.targets.map Prod.fst).Nodup)
    (member : .dispatch job (.send platform labels) ∈ ts) (agentID : String) :
    OwnEnv launch [(agentID, Dispatch.message job platform labels w)] := by
  obtain ⟨rfl, ⟨scheduled, targeted, placed⟩, -⟩ := owning.placed _ member
  have carries : ∀ e ∈ job.platformEnv platform,
      EnvMap.get e.1 (envOf w job.deployment.id) = some e.2 := by
    intro e mem
    exact owning.relied _ member e (List.mem_filter.mpr ⟨mem, by simp⟩)
  intro cmd sent f targeted' same
  obtain rfl : cmd = deployCommand job.deployment job.target job.build job.app platform labels
      (envOf w job.deployment.id) := by
    simpa [commandsOf, Dispatch.message] using sent
  obtain rfl : (job.target.id, scheduled) = f :=
    List.inj_on_of_nodup_map distinct targeted targeted' same.symm
  refine ⟨?_, platform, ?_, ?_⟩
  · show _ = some scheduled.member.wireguardIp
    rw [placed]
    exact carries ("PLATFORM_PRIVATE_IP", job.member.wireguardIp)
      (by simp [Job.platformEnv, platformEnv])
  · show (deployDomains job.app platform).head? = some platform
    unfold deployDomains
    split
    · split <;> rfl
    · rfl
  · exact carries ("PLATFORM_PUBLIC_DOMAIN", platform) (by simp [Job.platformEnv, platformEnv])

theorem OwnEnv.append {first rest : List (String × ControlMessage)} (left : OwnEnv launch first)
    (right : OwnEnv launch rest) : OwnEnv launch (first ++ rest) := by
  intro cmd member
  rw [commandsOf, List.filterMap_append] at member
  rcases List.mem_append.mp member with early | late
  · exact left cmd early
  · exact right cmd late

variable {rollout : Rollout}

/-- The threads that handle an agent's answers rely on nothing. -/
theorem fresh_ofMessage (m : String × ControlMessage) :
    Fresh launch deployment (Site.ofMessage rollout m) := by
  obtain ⟨agentID, msg⟩ := m
  intro s member
  cases msg with
  | deployCommand cmd =>
    simp only [Site.ofMessage, List.mem_singleton] at member
    subst member
    exact ⟨trivial, rfl⟩
  | _ => simp [Site.ofMessage] at member

theorem fresh_none (started : w'.started = w.started) (sent : w'.sent = w.sent) :
    Fresh launch deployment (Site.spawn rollout w w') := by
  rw [Site.spawn_none started sent]
  intro s member
  cases member

theorem fresh_sent {m : String × ControlMessage} (started : w'.started = w.started)
    (sent : w'.sent = w.sent ++ [m]) : Fresh launch deployment (Site.spawn rollout w w') := by
  rw [Site.spawn_sent started sent]
  exact fresh_ofMessage m

theorem fresh_started {g : Goroutine} (started : w'.started = w.started ++ [g])
    (sent : w'.sent = w.sent) (fresh : Fresh launch deployment (Site.ofGoroutine g)) :
    Fresh launch deployment (Site.spawn rollout w w') := by
  rw [Site.spawn_started started sent]
  exact fresh

/-- A dispatch step that writes no message and no variable. -/
theorem Owning.quiet (owning : Owning rollout.launch deployment earlier (w, ts)) {job : Job}
    {point point' : Dispatch} (here : ts[i]? = some (.dispatch job point))
    (orderly : point'.Orderly job) (relied : ∀ e ∈ point'.relied job, e ∈ point.relied job)
    (env : w'.envVars = w.envVars) (started : w'.started = w.started) (sent : w'.sent = w.sent) :
    Owning rollout.launch deployment earlier
      (w', ts.set i (.dispatch job point') ++ Site.spawn rollout w w') := by
  obtain ⟨ofDeploy, target, -⟩ := owning.placed _ (List.mem_of_getElem? here)
  refine owning.move here (fresh_none started sent) ⟨ofDeploy, target, orderly⟩ relied env ?_
  rw [sent]
  exact owning.sent

theorem Owning.dispatchStep (distinct : (rollout.launch.targets.map Prod.fst).Nodup)
    (owning : Owning rollout.launch deployment earlier (w, ts)) {job : Job} {point : Dispatch}
    (here : ts[i]? = some (.dispatch job point)) (undisturbed : Undisturbed (w, ts) i)
    {effect : World → World} {next : World → Dispatch}
    (edge : point.act rollout.dns job = some (effect, next)) :
    Owning rollout.launch deployment earlier
      (effect w, ts.set i (.dispatch job (next w)) ++ Site.spawn rollout w (effect w)) := by
  cases point with
  | online =>
    cases edge
    refine owning.quiet here ?_ ?_ rfl rfl rfl
    · beta_reduce
      split <;> trivial
    · beta_reduce
      split <;> simp [Dispatch.relied]
  | readTeam => cases edge; exact owning.quiet here trivial (by simp [Dispatch.relied]) rfl rfl rfl
  | readServer team =>
    cases edge; exact owning.quiet here trivial (by simp [Dispatch.relied]) rfl rfl rfl
  | readEdges team srv =>
    cases edge; exact owning.quiet here trivial (by simp [Dispatch.relied]) rfl rfl rfl
  | domain platform edgeEnabled =>
    cases edge
    refine owning.quiet here (Dispatch.orderly_afterEnv (List.suffix_refl _) edgeEnabled) ?_
      rfl rfl rfl
    beta_reduce
    rw [Dispatch.relied_afterEnv]
    intro e mem
    change e ∈ job.assigned platform (job.platformEnv platform) at mem
    rw [job.assigned_all] at mem
    cases mem
  | assign entry rest platform edgeEnabled =>
    cases edge
    have quiet : Site.spawn rollout w (assignEnv job.deployment.id entry.1 entry.2 w) = [] :=
      Site.spawn_none rfl rfl
    rw [quiet, List.append_nil]
    exact owning.assign here undisturbed
  | allocate platform =>
    simp only [Dispatch.act, Option.some.injEq, Prod.mk.injEq] at edge
    obtain ⟨rfl, rfl⟩ := edge
    beta_reduce
    obtain full | ⟨port, allocated⟩ := w.allocateServerPort_cases job.member.serverID job.target.id
    · rw [full]
      exact owning.quiet here trivial (by simp [Dispatch.relied]) rfl rfl rfl
    · rw [allocated]
      exact owning.quiet here trivial (fun e mem => mem) rfl rfl rfl
  | bind platform port =>
    cases edge
    exact owning.quiet here trivial (fun e mem => mem) rfl rfl rfl
  | send platform labels =>
    cases edge
    beta_reduce
    obtain ⟨err, failed⟩ | sent := sendToAgent_cases job.member.serverID.text
      (Dispatch.message job platform labels w) w
    · rw [failed]
      exact owning.quiet here trivial (by simp [Dispatch.relied]) rfl rfl rfl
    · rw [sent]
      obtain ⟨ofDeploy, target, -⟩ := owning.placed _ (List.mem_of_getElem? here)
      refine owning.move here (fresh_sent rfl rfl) ⟨ofDeploy, target, trivial⟩
        (by simp [Site.relied, Dispatch.relied]) rfl ?_
      obtain ⟨new, before, own⟩ := owning.sent
      refine ⟨new ++ [(job.member.serverID.text, Dispatch.message job platform labels w)], ?_,
        own.append (owning.command distinct (List.mem_of_getElem? here) _)⟩
      show w.sent ++ _ = _
      rw [← List.append_assoc]
      exact congrArg (· ++ _) before
  | fail msg =>
    cases edge
    have kept : ∀ arg, (w.updateDeploymentTargetStatus arg).envVars = w.envVars ∧
        (w.updateDeploymentTargetStatus arg).sent = w.sent := by
      intro arg
      unfold World.updateDeploymentTargetStatus
      split <;> exact ⟨rfl, rfl⟩
    exact owning.quiet here trivial (by simp [Dispatch.relied]) (kept _).1
      (sameRow_updateTarget 0 w _).started (kept _).2
  | halt => cases edge

/-- The handler of a report leaves the map alone and starts at most a promotion. -/
theorem Control.env_eq {point : Control} {effect : World → World} {next : World → Control}
    (edge : point.act = some (effect, next)) (w : World) :
    (effect w).envVars = w.envVars ∧
      ((effect w).started = w.started ∨
        ∃ id, (effect w).started = w.started ++ [.ensureTrafficForDeployment id]) := by
  cases point with
  | receive outs =>
    cases outs with
    | nil => cases edge
    | cons out rest => cases edge; exact ⟨rfl, .inl rfl⟩
  | record out targetID rest =>
    cases edge
    refine ⟨?_, .inl (sameRow_updateTarget 0 w _).started⟩
    simp only [World.updateDeploymentTargetStatus]
    split <;> rfl
  | promote deployID rest => cases edge; exact ⟨rfl, .inr ⟨deployID, rfl⟩⟩
  | _ => cases edge; exact ⟨rfl, .inl rfl⟩

theorem Owning.reportStep (owning : Owning rollout.launch deployment earlier (w, ts))
    {targetID : UUID} {point : Control} (here : ts[i]? = some (.report targetID point))
    {effect : World → World} {next : World → Control} (edge : point.act = some (effect, next)) :
    Owning rollout.launch deployment earlier
      (effect w, ts.set i (.report targetID (next w)) ++ Site.spawn rollout w (effect w)) := by
  have sent := Control.sent_eq edge w
  obtain ⟨env, started | ⟨id, started⟩⟩ := Control.env_eq edge w
  · refine owning.move here (fresh_none started sent) trivial (by simp [Site.relied]) env ?_
    rw [sent]
    exact owning.sent
  · have nothing : Fresh rollout.launch deployment
        (Site.ofGoroutine (.ensureTrafficForDeployment id)) := by
      intro s member
      cases member
    refine owning.move here (fresh_started started sent nothing) trivial (by simp [Site.relied])
      env ?_
    rw [sent]
    exact owning.sent

/-- **One step that disturbs no goroutine** keeps every variable with its owner. -/
theorem Owning.step (distinct : (rollout.launch.targets.map Prod.fst).Nodup)
    (owning : Owning rollout.launch deployment earlier (w, ts)) (here : ts[i]? = some k)
    (undisturbed : Undisturbed (w, ts) i) {effect : World → World} {next : World → Site}
    (edge : Site.act rollout k = some (effect, next)) :
    Owning rollout.launch deployment earlier
      (effect w, ts.set i (next w) ++ Site.spawn rollout w (effect w)) := by
  have placed := owning.placed k (List.mem_of_getElem? here)
  cases k with
  | loop d todo =>
    cases todo with
    | nil =>
      cases edge
      exact owning.move here (fresh_none rfl rfl) trivial (by simp [Site.relied]) rfl owning.sent
    | cons head rest =>
      obtain ⟨targetID, scheduled⟩ := head
      obtain ⟨rfl, targets⟩ := placed
      cases edge
      beta_reduce
      obtain failed | ⟨target, rows, created, named⟩ :
          w.createDeploymentTarget targetID d.id scheduled.member.serverID = (w, none) ∨
            ∃ target rows,
              w.createDeploymentTarget targetID d.id scheduled.member.serverID =
                ({ w with targets := rows }, some target) ∧ target.id = targetID := by
        unfold World.createDeploymentTarget
        simp only
        split
        · exact .inl rfl
        · split
          · exact .inr ⟨_, _, rfl, rfl⟩
          · exact .inl rfl
      · rw [failed]
        exact owning.move here (fresh_none rfl rfl) trivial (by simp [Site.relied]) rfl
          owning.sent
      · rw [created]
        refine owning.move here (fresh_none rfl rfl) ⟨rfl, ?_, ?_⟩ (by simp [Site.relied]) rfl
          owning.sent
        · rw [named]
          exact targets _ List.mem_cons_self
        · exact fun f mem => targets f (List.mem_cons_of_mem _ mem)
  | start d target scheduled rest =>
    obtain ⟨rfl, targeted, targets⟩ := placed
    cases edge
    beta_reduce
    refine owning.move here (fresh_started rfl rfl ?_) ⟨rfl, targets⟩ (by simp [Site.relied])
      rfl owning.sent
    intro s member
    simp only [Site.goroutine, Site.ofGoroutine, List.mem_singleton] at member
    subst member
    exact ⟨⟨rfl, ⟨scheduled, targeted, rfl⟩, trivial⟩, rfl⟩
  | returned => cases edge
  | dispatch job point =>
    obtain ⟨⟨effect', next'⟩, edge', same⟩ := Option.map_eq_some_iff.mp edge
    cases same
    exact owning.dispatchStep distinct here undisturbed edge'
  | report targetID point =>
    obtain ⟨⟨effect', next'⟩, edge', same⟩ := Option.map_eq_some_iff.mp edge
    cases same
    exact owning.reportStep here edge'

end Steps

/-! ## Runs -/

/-- No step of the schedule disturbs a goroutine. -/
def RunsUndisturbed (rollout : Rollout) (w : World) (deployment : Deployment)
    (schedule : List Nat) : Prop :=
  (rolloutFlow rollout).Along (Site.spawn rollout) Undisturbed
    (w, [.loop deployment rollout.launch.targets]) schedule

theorem mapped_of_created {launch : Launch} {before w : World} {deployment : Deployment}
    (created : createLaunched launch before = (w, some deployment)) :
    Mapped w deployment.id := by
  unfold createLaunched at created
  split at created
  · cases created
    exact ⟨launch.env, List.mem_cons_self⟩
  · cases created

/-- **When each target receives its own platform environment**: in every run of a deploy
in which no goroutine assigns a platform variable another value while another goroutine
has assigned it and not sent its command, every command carries the address of the
member its target is on and the platform domain computed for it. -/
theorem own_env_of_undisturbed {rollout : Rollout} {before w : World} {deployment : Deployment}
    (created : createLaunched rollout.launch before = (w, some deployment))
    (distinct : (rollout.launch.targets.map Prod.fst).Nodup) {schedule : List Nat}
    (undisturbed : RunsUndisturbed rollout w deployment schedule) :
    OwnEnv rollout.launch
      (((rollout.pool w deployment).run rollout.spawn schedule).store.sent.drop w.sent.length) := by
  have start : Owning rollout.launch deployment w.sent
      (w, [.loop deployment rollout.launch.targets]) := by
    refine ⟨mapped_of_created created, ?_, ?_, [], by simp, by simp [OwnEnv, commandsOf]⟩
    · intro s member
      rw [List.mem_singleton.mp member]
      exact ⟨rfl, fun f mem => mem⟩
    · intro s member e mem
      rw [List.mem_singleton.mp member] at mem
      cases mem
  have owning : Owning rollout.launch deployment w.sent (rollout.sites w deployment schedule) := by
    refine Flow.Along.invariant ?_ undisturbed start
    rintro ⟨v, ts⟩ i ok owning
    obtain same | ⟨k, effect, next, here, edge, moved⟩ :=
      Flow.advance_cases (rolloutFlow rollout) (Site.spawn rollout) (v, ts) i
    · rw [same]
      exact owning
    · rw [moved]
      exact owning.step distinct here ok edge
  obtain ⟨new, sent, own⟩ := owning.sent
  have run : ((rollout.pool w deployment).run rollout.spawn schedule).store =
      (rollout.sites w deployment schedule).1 := by
    rw [Rollout.run_eq]
    rfl
  rw [run, sent, List.drop_left]
  exact own

section TwoMembers

def twoAgents : World :=
  { twoServers with
    agents := ⟨[{ agentID := UUID.text 71 }, { agentID := UUID.text 72 }], by decide +kernel⟩ }

/-- A deploy to both of them, with an address on the mesh each. -/
def twoReplicas : Rollout :=
  { launch :=
      { twoTargets with
        targets :=
          [(81, ⟨{ serverID := 71, wireguardIp := "10.0.0.1" }, ""⟩),
           (82, ⟨{ serverID := 72, wireguardIp := "10.0.0.2" }, ""⟩)] }
    replies := fun _ => [] }

def twoReplicasDeployment : Deployment :=
  { id := 1, appID := 20, environmentID := 40, buildID := 30, replicasDesired := 2 }

def twoReplicasStart : World := (createLaunched twoReplicas.launch twoAgents).1

theorem twoReplicas_created :
    createLaunched twoReplicas.launch twoAgents =
      (twoReplicasStart, some twoReplicasDeployment) := rfl

def oneAfterTheOther : List Nat := [0, 0, 0, 0, 0] ++ List.replicate 16 1 ++ List.replicate 16 2

theorem own_env_one_after_the_other :
    RunsUndisturbed twoReplicas twoReplicasStart twoReplicasDeployment oneAfterTheOther ∧
      OwnEnv twoReplicas.launch (((twoReplicas.pool twoReplicasStart twoReplicasDeployment).run
        twoReplicas.spawn oneAfterTheOther).store.sent.drop twoReplicasStart.sent.length) := by
  have undisturbed :
      RunsUndisturbed twoReplicas twoReplicasStart twoReplicasDeployment oneAfterTheOther := by
    unfold RunsUndisturbed
    decide +kernel
  exact ⟨undisturbed, own_env_of_undisturbed twoReplicas_created (by decide +kernel) undisturbed⟩

def bothAssign : List Nat :=
  [0, 0, 0, 0, 0] ++ List.replicate 15 1 ++ List.replicate 15 2 ++ [1, 2]

/-- The first target, on the first member, is told the address of the second. -/
theorem env_of_other_target :
    (twoReplicas.launch.targets.map fun f => f.2.member.serverID).Nodup ∧
      ¬ OwnEnv twoReplicas.launch (((twoReplicas.pool twoReplicasStart twoReplicasDeployment).run
        twoReplicas.spawn bothAssign).store.sent.drop twoReplicasStart.sent.length) := by
  exact ⟨by decide +kernel, by decide +kernel⟩

end TwoMembers

end Nixway.Deploy
