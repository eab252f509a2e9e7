/-
# Github.Pushes -- whose apps a push builds

The signature of a delivery proves the webhook secret of one team's GitHub App.  The apps
to build are selected by the repository name in the signed body, over all teams.  The
calls of TriggerBuild a delivery causes are computed exactly (`handler_calls`); they are
all for apps of the team that signed exactly when every app linked to the repository that
takes the branch and has an environment belongs to that team (`push_confined_iff`).
-/
import Nixway.Github.Webhook

namespace Nixway.Github

open Nixway.Store (UUID)
open Nixway.Theory
open Nixway.Theory.Prog (query exec atomic forEach)

set_option autoImplicit false

/-- The rows a delivery never writes. -/
structure Static (s t : GithubStore) : Prop where
  apps : t.apps = s.apps
  projects : t.projects = s.projects
  environments : t.environments = s.environments

theorem Static.refl (s : GithubStore) : Static s s := ⟨rfl, rfl, rfl⟩

theorem Static.trans {s t u : GithubStore} (first : Static s t) (second : Static t u) :
    Static s u :=
  ⟨second.apps.trans first.apps, second.projects.trans first.projects,
    second.environments.trans first.environments⟩

/-! ## The calls of the loop -/

/-- The call one round of the loop makes. -/
def GithubStore.linkedCall (s : GithubStore) (faults : Faults) (branch : String) (a : App) :
    Option TriggerCall :=
  if a.takes branch && !faults.environments a.id then
    match s.listEnvironmentsByProject a.projectID with
    | [] => none
    | first :: envs => some ⟨a.id, chooseEnvironment first envs⟩
  else none

theorem Static.linkedCall {s t : GithubStore} (still : Static s t) (faults : Faults)
    (branch : String) : t.linkedCall faults branch = s.linkedCall faults branch := by
  funext a
  simp only [GithubStore.linkedCall, GithubStore.listEnvironmentsByProject, still.environments]

/-- The round makes a call exactly for an app that takes the branch and has an environment. -/
theorem linkedCall_isSome {s : GithubStore} {faults : Faults} {branch : String} {a : App} :
    (s.linkedCall faults branch a).isSome ↔
      a.takes branch ∧ faults.environments a.id = false ∧
        s.listEnvironmentsByProject a.projectID ≠ [] := by
  unfold GithubStore.linkedCall
  cases a.takes branch <;> cases faults.environments a.id <;>
    cases s.listEnvironmentsByProject a.projectID <;> simp

theorem linkedCall_appID {s : GithubStore} {faults : Faults} {branch : String} {a : App}
    {call : TriggerCall} (made : s.linkedCall faults branch a = some call) : call.appID = a.id := by
  unfold GithubStore.linkedCall at made
  split at made
  · split at made
    · cases made
    · cases made
      rfl
  · cases made

theorem createBuild_static {s t : GithubStore} {build : Build}
    (created : s.createBuild build = some t) : Static s t ∧ t.calls = s.calls := by
  unfold GithubStore.createBuild at created
  split at created
  · cases created
    exact ⟨⟨rfl, rfl, rfl⟩, rfl⟩
  · cases created

theorem attempt_out {s : GithubStore} {fails : Bool} {g : GithubStore → Option GithubStore}
    {P : GithubStore → Prop} (same : P s) (changed : ∀ t, g s = some t → P t) :
    P ((attempt fails g).out s) := by
  show P (if fails then s else (g s).getD s)
  split
  · exact same
  · cases result : g s with
    | none => exact same
    | some t => exact changed t result

theorem triggerBuild_out (faults : Faults) (delivery : String) (appID envID : UUID)
    (triggerType commitSHA branch : String) (s : GithubStore) :
    Static s ((triggerBuild faults delivery appID envID triggerType commitSHA branch).out s) ∧
      ((triggerBuild faults delivery appID envID triggerType commitSHA branch).out s).calls =
        s.calls ++ [⟨appID, envID⟩] := by
  unfold triggerBuild
  rw [Prog.out, Prog.run_atomic_bind]
  cases (if faults.get appID then none else s.getApp appID) with
  | none => exact ⟨⟨rfl, rfl, rfl⟩, rfl⟩
  | some app =>
    refine attempt_out (P := fun t => Static s t ∧ t.calls = _) ⟨⟨rfl, rfl, rfl⟩, rfl⟩ ?_
    intro t created
    obtain ⟨still, calls⟩ := createBuild_static created
    exact ⟨⟨still.apps, still.projects, still.environments⟩, calls⟩

theorem buildLinked_out (faults : Faults) (delivery commitSHA branch : String) (a : App)
    (s : GithubStore) :
    Static s ((buildLinked faults delivery commitSHA branch a).out s) ∧
      ((buildLinked faults delivery commitSHA branch a).out s).calls =
        s.calls ++ (s.linkedCall faults branch a).toList := by
  unfold buildLinked buildTaken GithubStore.linkedCall
  by_cases takes : a.takes branch
  · cases fails : faults.environments a.id with
    | true =>
      simp only [takes, if_true, statement, Prog.out, Prog.run_atomic_bind]
      exact ⟨.refl s, by simp⟩
    | false =>
      simp only [takes, if_true, statement, Prog.out, Prog.run_atomic_bind, Bool.false_eq_true,
        if_false, Bool.not_false, Bool.and_self]
      cases s.listEnvironmentsByProject a.projectID with
      | nil => exact ⟨.refl s, by simp⟩
      | cons first envs =>
        exact triggerBuild_out faults delivery a.id _ "push" commitSHA branch s
  · simp only [takes, Bool.false_eq_true, if_false, Bool.false_and]
    exact ⟨.refl s, by simp [Prog.out]⟩

/-- **The loop calls once for each app, in order.** -/
theorem loop_out (faults : Faults) (delivery commitSHA branch : String) (apps : List App)
    (s : GithubStore) :
    Static s ((forEach apps (buildLinked faults delivery commitSHA branch)).out s) ∧
      ((forEach apps (buildLinked faults delivery commitSHA branch)).out s).calls =
        s.calls ++ apps.filterMap (s.linkedCall faults branch) := by
  induction apps generalizing s with
  | nil => exact ⟨.refl s, (List.append_nil _).symm⟩
  | cons a apps ih =>
    obtain ⟨still, calls⟩ := buildLinked_out faults delivery commitSHA branch a s
    obtain ⟨stillRest, callsRest⟩ := ih ((buildLinked faults delivery commitSHA branch a).out s)
    have split : (forEach (a :: apps) (buildLinked faults delivery commitSHA branch)).out s =
        (forEach apps (buildLinked faults delivery commitSHA branch)).out
          ((buildLinked faults delivery commitSHA branch a).out s) := by
      rw [Prog.out, Prog.run_forEach_cons]
      rfl
    rw [split]
    refine ⟨still.trans stillRest, ?_⟩
    rw [callsRest, calls, still.linkedCall, List.append_assoc]
    cases made : s.linkedCall faults branch a with
    | none => rw [List.filterMap_cons_none made]; rfl
    | some call => rw [List.filterMap_cons_some made]; rfl

/-! ## The calls of a delivery -/

/-- A push the handler acts on, when it gets as far as the push. -/
def pushOf (setup : Setup) (faults : Faults) (r : Delivery) (body : Bytes) : Option PushPayload :=
  if r.eventType = "push" ∧ setup.buildSvc ∧ faults.list = false then
    (setup.push body).filter fun push => branchOf push.ref ≠ "" ∧ push.repository ≠ ""
  else none

/-- The delivery has an id and the handler finds it stored. -/
def GithubStore.knows (s : GithubStore) (faults : Faults) (r : Delivery) : Bool :=
  r.deliveryID ≠ "" && (!faults.lookup && (s.getWebhookEventByDeliveryID r.deliveryID).isSome)

/-- The event of the delivery can be stored. -/
def GithubStore.stores (s : GithubStore) (setup : Setup) (faults : Faults) (r : Delivery)
    (body : Bytes) (app : GithubApp) : Bool :=
  !faults.store && setup.jsonb body &&
    (s.createWebhookEvent ⟨app.id, r.eventType, (setup.event body).action, r.deliveryID⟩).isSome

def GithubStore.pushCalls (s : GithubStore) (faults : Faults) (push : PushPayload) :
    List TriggerCall :=
  (s.listAppsByRepo push.repository).filterMap (s.linkedCall faults (branchOf push.ref))

theorem Static.pushCalls {s t : GithubStore} (still : Static s t) (faults : Faults)
    (push : PushPayload) : t.pushCalls faults push = s.pushCalls faults push := by
  simp only [GithubStore.pushCalls, GithubStore.listAppsByRepo, still.linkedCall, still.apps,
    still.projects]

theorem handlePush_out (setup : Setup) (faults : Faults) (r : Delivery) (body : Bytes)
    (s : GithubStore) :
    ((handlePush setup faults r body).out s).calls =
      s.calls ++ ((pushOf setup faults r body).map fun push => s.pushCalls faults push).getD [] := by
  unfold handlePush pushOf
  by_cases isPush : r.eventType = "push" ∧ setup.buildSvc
  · rw [if_pos isPush]
    cases decoded : setup.push body with
    | none => simp [Prog.out]
    | some push =>
      by_cases named : branchOf push.ref ≠ "" ∧ push.repository ≠ ""
      · cases fails : faults.list with
        | true => simp [named, statement, Prog.out]
        | false =>
          have calls := (loop_out faults r.deliveryID push.after (branchOf push.ref)
            (s.listAppsByRepo push.repository) s).2
          rw [if_pos ⟨isPush.1, isPush.2, rfl⟩]
          simp only [if_pos named, statement, Bool.false_eq_true, if_false, Option.filter_some,
            decide_eq_true named, if_true, Option.map_some, Option.getD_some]
          exact calls
      · have off : decide (branchOf push.ref ≠ "" ∧ push.repository ≠ "") = false :=
          decide_eq_false named
        simp only [if_neg named, Option.filter_some, off, Bool.false_eq_true, if_false]
        split <;> simp [Prog.out]
  · have off : ¬ (r.eventType = "push" ∧ setup.buildSvc ∧ faults.list = false) :=
      fun on => isPush ⟨on.1, on.2.1⟩
    rw [if_neg isPush, if_neg off]
    simp [Prog.out]

theorem createGitHubInstallation_static {s t : GithubStore} {id githubAppID : UUID}
    {installationID : Int} {accountLogin accountType targetType : String}
    (created : s.createGitHubInstallation id githubAppID installationID accountLogin accountType
      targetType = some t) : Static s t ∧ t.calls = s.calls := by
  simp only [GithubStore.createGitHubInstallation, Option.bind_eq_bind,
    Option.bind_eq_some_iff] at created
  obtain ⟨_, _, _, _, _, _, _, _, last⟩ := created
  cases last
  exact ⟨⟨rfl, rfl, rfl⟩, rfl⟩

theorem handleInstallation_out (setup : Setup) (faults : Faults) (id : UUID) (r : Delivery)
    (body : Bytes) (app : GithubApp) (s : GithubStore) :
    Static s ((handleInstallation setup faults id r body app).out s) ∧
      ((handleInstallation setup faults id r body app).out s).calls = s.calls := by
  have same : Static s s ∧ s.calls = s.calls := ⟨.refl s, rfl⟩
  unfold handleInstallation
  split
  · split
    · split
      · exact attempt_out (P := fun t => Static s t ∧ t.calls = s.calls) same
          fun t created => createGitHubInstallation_static created
      · split
        · refine attempt_out (P := fun t => Static s t ∧ t.calls = s.calls) same ?_
          intro t deleted
          unfold GithubStore.deleteGitHubInstallation at deleted
          split at deleted
          · cases deleted
          · cases deleted
            exact ⟨⟨rfl, rfl, rfl⟩, rfl⟩
        · split
          · refine attempt_out (P := fun t => Static s t ∧ t.calls = s.calls) same ?_
            intro t updated
            cases updated
            exact ⟨⟨rfl, rfl, rfl⟩, rfl⟩
          · split
            · refine attempt_out (P := fun t => Static s t ∧ t.calls = s.calls) same ?_
              intro t updated
              cases updated
              exact ⟨⟨rfl, rfl, rfl⟩, rfl⟩
            · exact same
    · exact same
  · exact same

theorem alreadyProcessed_run (faults : Faults) (r : Delivery) (s : GithubStore) :
    (alreadyProcessed faults r).run s = (s, s.knows faults r) := by
  unfold alreadyProcessed GithubStore.knows
  by_cases empty : r.deliveryID = ""
  · simp [empty]
  · simp [empty]

/-- Storing the event is the step after which builds are triggered. -/
theorem storeEvent_run (setup : Setup) (faults : Faults) (r : Delivery) (body : Bytes)
    (app : GithubApp) (s : GithubStore) :
    Static s ((storeEvent setup faults r body app).run s).1 ∧
      ((storeEvent setup faults r body app).run s).1.calls = s.calls ∧
      ((storeEvent setup faults r body app).run s).2 = s.stores setup faults r body app := by
  rw [storeEvent, Prog.run_atomic, GithubStore.stores]
  cases faults.store <;> cases setup.jsonb body
  · exact ⟨.refl s, rfl, rfl⟩
  · simp only [Bool.not_true, Bool.or_self, Bool.false_eq_true, if_false, Bool.not_false,
      Bool.and_self, Bool.true_and]
    unfold GithubStore.createWebhookEvent
    by_cases known : (s.githubApps.find? app.id).isSome
    · rw [if_pos known]
      cases s.webhookEvents.insert?
          ⟨app.id, r.eventType, (setup.event body).action, r.deliveryID⟩ with
      | none => exact ⟨.refl s, rfl, rfl⟩
      | some events => exact ⟨⟨rfl, rfl, rfl⟩, rfl, rfl⟩
    · rw [if_neg known]
      exact ⟨.refl s, rfl, rfl⟩
  · exact ⟨.refl s, rfl, rfl⟩
  · exact ⟨.refl s, rfl, rfl⟩

theorem storeEvent_out (setup : Setup) (faults : Faults) (r : Delivery) (body : Bytes)
    (app : GithubApp) (s : GithubStore) :
    (s.stores setup faults r body app = true ∧
      s.webhookEvents.find? r.deliveryID = none ∧ ∃ events,
        events.find? r.deliveryID ≠ none ∧
        (storeEvent setup faults r body app).out s = { s with webhookEvents := events }) ∨
    (s.stores setup faults r body app = false ∧ (storeEvent setup faults r body app).out s = s) := by
  have result := (storeEvent_run setup faults r body app s).2.2
  rw [← result, Prog.out, storeEvent, Prog.run_atomic]
  split
  · exact .inr ⟨rfl, rfl⟩
  · unfold GithubStore.createWebhookEvent
    split
    · exact .inr ⟨rfl, rfl⟩
    · next t created =>
      split at created
      · obtain ⟨events, inserted, rfl⟩ := Option.map_eq_some_iff.mp created
        refine .inl ⟨rfl, ?_, events, ?_, rfl⟩
        · exact Table.find?_eq_none_iff.mpr (Table.insert?_eq_some_iff.mp inserted).1
        · have here : events.find? r.deliveryID = some _ :=
            Table.find?_self ((Table.mem_insert? inserted).mpr (.inl rfl))
          rw [here]
          exact Option.some_ne_none _
      · cases created

theorem respond_calls (deliveryID : String) (code : Nat) (text : String) (s : GithubStore) :
    ((respond deliveryID code text).run s).1.calls = s.calls := rfl

/-- What the handler does once the event is stored. -/
theorem stored_calls (setup : Setup) (faults : Faults) (id : UUID) (r : Delivery) (body : Bytes)
    (app : GithubApp) (t : GithubStore) :
    ((do
      handleInstallation setup faults id r body app
      handlePush setup faults r body
      respond r.deliveryID 200 "ok" : Prog GithubStore Unit).run t).1.calls =
      t.calls ++ ((pushOf setup faults r body).map fun push => t.pushCalls faults push).getD [] := by
  obtain ⟨still, calls⟩ := handleInstallation_out setup faults id r body app t
  have pushed := handlePush_out setup faults r body
    ((handleInstallation setup faults id r body app).out t)
  simp only [still.pushCalls] at pushed
  rw [calls] at pushed
  rw [Prog.run_bind, Prog.run_bind, respond_calls]
  exact pushed

/-- **The calls a signed delivery causes.** -/
theorem handler_calls {setup : Setup} {r : Delivery} {app : GithubApp} {body : Bytes}
    (faults : Faults) (id : UUID) (s : GithubStore) (signed : verify setup r app = .ok body) :
    ((handleGitHubWithApp setup faults id r app).out s).calls =
      s.calls ++ (if s.knows faults r = false ∧ s.stores setup faults r body app then
        ((pushOf setup faults r body).map fun push => s.pushCalls faults push).getD [] else []) := by
  unfold handleGitHubWithApp
  rw [signed]
  dsimp only
  rw [Prog.out, Prog.run_bind, alreadyProcessed_run]
  cases s.knows faults r with
  | true =>
    rw [if_pos rfl, respond_calls, if_neg (fun ⟨new, _⟩ => by cases new), List.append_nil]
  | false =>
    obtain ⟨still, calls, stored⟩ := storeEvent_run setup faults r body app s
    rw [if_neg Bool.false_ne_true, Prog.run_bind, stored]
    cases s.stores setup faults r body app with
    | false =>
      rw [if_neg Bool.false_ne_true, respond_calls, calls,
        if_neg (fun ⟨_, stores⟩ => by cases stores), List.append_nil]
    | true =>
      rw [if_pos rfl, stored_calls, calls, if_pos ⟨rfl, rfl⟩]
      simp only [still.pushCalls]

/-! ## Teams -/

def GithubStore.teamOf (s : GithubStore) (appID : UUID) : Option UUID :=
  (s.getApp appID).bind fun a => (s.projects.find? a.projectID).map Project.teamID

/-- The calls a program causes. -/
def caused (p : Prog GithubStore Unit) (s : GithubStore) : List TriggerCall :=
  (p.out s).calls.drop s.calls.length

/-- **Whose apps a signed delivery builds.**  For every store, every setup and every delivery
signed with the secret of a GitHub App, whatever its body: all calls of TriggerBuild it
causes are for apps of the team of the GitHub App exactly when, in case the delivery is a
push the handler acts on, every app linked to the repository named in the body that takes the
branch and has an environment belongs to that team. -/
theorem push_confined_iff {setup : Setup} {r : Delivery} {app : GithubApp} {body : Bytes}
    (faults : Faults) (id : UUID) (s : GithubStore) (signed : verify setup r app = .ok body) :
    (∀ call ∈ caused (handleGitHubWithApp setup faults id r app) s,
        s.teamOf call.appID = some app.teamID) ↔
      (s.knows faults r = false → s.stores setup faults r body app →
        ∀ push ∈ pushOf setup faults r body, ∀ a ∈ s.listAppsByRepo push.repository,
          a.takes (branchOf push.ref) → faults.environments a.id = false →
            s.listEnvironmentsByProject a.projectID ≠ [] → s.teamOf a.id = some app.teamID) := by
  unfold caused
  rw [handler_calls faults id s signed, List.drop_left]
  constructor
  · intro confined new stores push pushed a linked takes answered envs
    rw [if_pos ⟨new, stores⟩, pushed] at confined
    obtain ⟨call, made⟩ := Option.isSome_iff_exists.mp
      (linkedCall_isSome.mpr ⟨takes, answered, envs⟩)
    have own := confined call (List.mem_filterMap.mpr ⟨a, linked, made⟩)
    rw [linkedCall_appID made] at own
    exact own
  · intro belongs call mem
    split at mem
    · next acted =>
      cases pushed : pushOf setup faults r body with
      | none =>
        rw [pushed] at mem
        cases mem
      | some push =>
        rw [pushed] at mem
        obtain ⟨a, linked, made⟩ := List.mem_filterMap.mp mem
        obtain ⟨takes, answered, envs⟩ := linkedCall_isSome.mp (Option.isSome_of_eq_some made)
        rw [linkedCall_appID made]
        exact belongs acted.1 acted.2 push pushed a linked takes answered envs
    · cases mem

/-- The body of a push to `main`. -/
def pushBody : Bytes :=
  "\x7b\"ref\":\"refs/heads/main\",\"after\":\"c0ffee\",\"repository\":\x7b\"full_name\":\"acme/site\"\x7d\x7d".toList.map
    fun c => UInt8.ofNat c.toNat

/-- The setup as it acts on that body, signed with the secret `s3cret`. -/
def pushSetup : Setup where
  decrypt := fun _ _ => some ("s3cret".toList.map fun c => UInt8.ofNat c.toNat)
  hmac := fun _ _ =>
    [24, 209, 154, 16, 111, 2, 16, 72, 92, 238, 203, 173, 151, 101, 78, 245,
      56, 36, 83, 50, 71, 156, 136, 172, 227, 50, 108, 110, 79, 119, 22, 90]
  event := fun _ => ⟨none, none⟩
  push := fun _ => some ⟨"refs/heads/main", "c0ffee", "acme/site"⟩
  jsonb := fun _ => true

def pushDelivery : Delivery where
  body := some pushBody
  signature := "sha256=18d19a106f0210485ceecbad97654ef538245332479c88ace3326c6e4f77165a"
  deliveryID := "d-1"
  eventType := "push"

def teamApp : GithubApp := ⟨10, 1, 4711, []⟩

def linkedTo (team : UUID) : GithubStore where
  githubApps := ⟨[teamApp], by decide⟩
  projects := ⟨[⟨20, team⟩], List.nodup_singleton _⟩
  environments := ⟨[⟨30, 20, "production", true⟩], by decide⟩
  apps := ⟨[⟨40, 20, none, some "acme/site", some "main", true⟩], by decide⟩

theorem own_app_built :
    caused (handleGitHubWithApp pushSetup {} 0 pushDelivery teamApp) (linkedTo 1) = [⟨40, 30⟩] ∧
      ∀ call ∈ caused (handleGitHubWithApp pushSetup {} 0 pushDelivery teamApp) (linkedTo 1),
        (linkedTo 1).teamOf call.appID = some teamApp.teamID := by
  refine ⟨by decide +kernel, (push_confined_iff {} 0 (linkedTo 1)
    (show verify pushSetup pushDelivery teamApp = .ok pushBody by decide)).mpr ?_⟩
  intro _ _ push pushed a linked _ _ _
  obtain rfl : push = ⟨"refs/heads/main", "c0ffee", "acme/site"⟩ :=
    Option.some.inj (pushed.symm.trans (by decide))
  have only : (linkedTo 1).listAppsByRepo "acme/site" =
      [⟨40, 20, none, some "acme/site", some "main", true⟩] := by decide
  rw [only] at linked
  obtain rfl := List.mem_singleton.mp linked
  decide

/-- A push signed by team 1 builds the app of team 2. -/
theorem foreign_app_built :
    verify pushSetup pushDelivery teamApp = .ok pushBody ∧ teamApp.teamID = 1 ∧
      ⟨40, 30⟩ ∈ caused (handleGitHubWithApp pushSetup {} 0 pushDelivery teamApp) (linkedTo 2) ∧
      (linkedTo 2).teamOf 40 = some 2 :=
  ⟨by decide, by decide, by decide +kernel, by decide⟩

end Nixway.Github
