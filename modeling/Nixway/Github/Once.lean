/-
# Github.Once -- a push and its redeliveries

GitHub sends a delivery again until it is answered with 200, and the handlers of the
attempts run beside each other.  A handler may be stopped anywhere (it is never resumed)
and any of its statements may fail.  The event is stored before anything is built, so one
attempt at most triggers builds, and no app is built twice; but once the event is stored
every other attempt is told `already_processed`.  Each app is built exactly once exactly
when the attempt that stored the event was not stopped before it and none of its
statements for the app failed (`built_once_iff`).
-/
import Nixway.Github.Pushes
import Nixway.Theory.Pool

namespace Nixway.Github

open Nixway.Store (UUID)
open Nixway.Theory
open Nixway.Theory.Prog (query exec atomic forEach)

set_option autoImplicit false

/-- A signed delivery of a push to a branch, with an id. -/
structure SignedPush (setup : Setup) (r : Delivery) (app : GithubApp) where
  body : Bytes
  push : PushPayload
  signed : verify setup r app = .ok body
  event : r.eventType = "push"
  named : r.deliveryID ≠ ""
  service : setup.buildSvc = true
  decoded : setup.push body = some push
  branch : branchOf push.ref ≠ ""
  repository : push.repository ≠ ""

/-- Where the handler of an attempt stands.  `over` remembers whether it stored the event. -/
inductive Point where
  | lookup
  | store
  | list
  | envs (a : App) (rest : List App)
  | get (a : App) (envID : UUID) (rest : List App)
  | create (a : App) (envID : UUID) (rest : List App)
  | known
  | failed
  | finish
  | halt (stored : Bool)
deriving DecidableEq

section Graph

variable {setup : Setup} {r : Delivery} {app : GithubApp} (d : SignedPush setup r app)
  (faults : Faults) (id : UUID)

/-! ## The handler as a graph -/

def round (a : App) : Prog GithubStore Unit :=
  buildLinked faults r.deliveryID d.push.after (branchOf d.push.ref) a

def remaining (rest : List App) : Prog GithubStore Unit := do
  forEach rest (round d faults)
  respond r.deliveryID 200 "ok"

def buildOf (a : App) (envID : UUID) : Build :=
  ⟨a.id, envID, "push", d.push.after, branchOf d.push.ref, r.deliveryID⟩

/-- The next app that takes the branch. -/
def enter : List App → Point
  | [] => .finish
  | a :: rest => if a.takes (branchOf d.push.ref) then .envs a rest else enter rest

def Point.code : Point → Prog GithubStore Unit
  | .lookup => handleGitHubWithApp setup faults id r app
  | .store => do
    if ← storeEvent setup faults r d.body app then
      handleInstallation setup faults id r d.body app
      handlePush setup faults r d.body
      respond r.deliveryID 200 "ok"
    else
      respond r.deliveryID 500 "failed to store event"
  | .list => do
    handlePush setup faults r d.body
    respond r.deliveryID 200 "ok"
  | .envs a rest => do
    buildTaken faults r.deliveryID d.push.after (branchOf d.push.ref) a
    remaining d faults rest
  | .get a envID rest => do
    triggerBuild faults r.deliveryID a.id envID "push" d.push.after (branchOf d.push.ref)
    remaining d faults rest
  | .create a envID rest => do
    attempt (faults.create a.id) fun s => s.createBuild (buildOf d a envID)
    remaining d faults rest
  | .known => respond r.deliveryID 200 "already_processed"
  | .failed => respond r.deliveryID 500 "failed to store event"
  | .finish => respond r.deliveryID 200 "ok"
  | .halt _ => return

def answering (code : Nat) (text : String) (s : GithubStore) : GithubStore :=
  { s with answers := s.answers ++ [⟨r.deliveryID, code, text⟩] }

def Point.act : Point → Option ((GithubStore → GithubStore) × (GithubStore → Point))
  | .lookup => some (fun s => s, fun s => if s.knows faults r then .known else .store)
  | .store => some (fun s => (storeEvent setup faults r d.body app).out s, fun s =>
    if s.stores setup faults r d.body app then .list else .failed)
  | .list => some (fun s => s, fun s =>
    if faults.list then .finish else enter d (s.listAppsByRepo d.push.repository))
  | .envs a rest => some (fun s => s, fun s =>
    if faults.environments a.id then enter d rest
    else match s.listEnvironmentsByProject a.projectID with
      | [] => enter d rest
      | first :: others => .get a (chooseEnvironment first others) rest)
  | .get a envID rest =>
    some (fun s => { s with calls := s.calls ++ [⟨a.id, envID⟩] }, fun s =>
      match (if faults.get a.id then none else s.getApp a.id) with
      | none => enter d rest
      | some _ => .create a envID rest)
  | .create a envID rest =>
    some (fun s => if faults.create a.id then s else (s.createBuild (buildOf d a envID)).getD s,
      fun _ => enter d rest)
  | .known => some (answering (r := r) 200 "already_processed", fun _ => .halt false)
  | .failed => some (answering (r := r) 500 "failed to store event", fun _ => .halt false)
  | .finish => some (answering (r := r) 200 "ok", fun _ => .halt true)
  | .halt _ => none

end Graph

section Presents

variable {setup : Setup} {r : Delivery} {app : GithubApp} {d : SignedPush setup r app}
  {faults : Faults} {id : UUID}

theorem statement_read {α : Type} (fails : Bool) (g : GithubStore → α) :
    statement fails (fun s => (s, some (g s))) =
      query fun s => if fails then none else some (g s) := by
  cases fails <;> rfl

theorem code_enter (rest : List App) :
    (enter d rest).code d faults id = remaining d faults rest := by
  induction rest with
  | nil => rfl
  | cons a rest ih =>
    unfold enter
    by_cases takes : a.takes (branchOf d.push.ref)
    · rw [if_pos takes]
      show (buildTaken faults r.deliveryID d.push.after (branchOf d.push.ref) a >>=
        fun _ => remaining d faults rest) = _
      rw [remaining, remaining, forEach, Prog.bind_assoc', round, buildLinked, if_pos takes]
    · rw [if_neg takes, ih, remaining, remaining, forEach]
      unfold round buildLinked
      rw [if_neg takes]
      rfl

theorem storeEvent_result (s : GithubStore) :
    (storeEvent setup faults r d.body app).result s = s.stores setup faults r d.body app :=
  (storeEvent_run setup faults r d.body app s).2.2

/-- **The graph is the handler.** -/
theorem Point.presents : (⟨Point.act d faults⟩ : Flow GithubStore Point).Presents
    (Point.code d faults id) where
  halted k here := by
    cases k with
    | halt stored => rfl
    | _ => cases here
  moves k effect next here := by
    cases k with
    | halt stored => cases here
    | known => cases here; rfl
    | failed => cases here; rfl
    | finish => cases here; rfl
    | lookup =>
      cases here
      show handleGitHubWithApp setup faults id r app = _
      unfold handleGitHubWithApp alreadyProcessed
      rw [d.signed, if_neg d.named]
      refine Prog.step_congr fun s => ?_
      have same : s.knows faults r =
          (!faults.lookup && (s.getWebhookEventByDeliveryID r.deliveryID).isSome) := by
        simp [GithubStore.knows, d.named]
      beta_reduce
      rw [same]
      cases (!faults.lookup && (s.getWebhookEventByDeliveryID r.deliveryID).isSome) <;> rfl
    | store =>
      cases here
      refine Prog.step_congr fun s => ?_
      show (if (storeEvent setup faults r d.body app).result s then _ else _) =
        Point.code d faults id (if s.stores setup faults r d.body app then _ else _)
      rw [storeEvent_result]
      have quiet : handleInstallation setup faults id r d.body app = .done () := by
        unfold handleInstallation
        rw [if_neg (by rw [d.event]; decide)]
        rfl
      rw [quiet]
      cases s.stores setup faults r d.body app <;> rfl
    | list =>
      cases here
      show (handlePush setup faults r d.body >>= fun _ => respond r.deliveryID 200 "ok") = _
      unfold handlePush
      rw [if_pos ⟨d.event, d.service⟩, d.decoded]
      dsimp only
      rw [if_pos ⟨d.branch, d.repository⟩, statement_read]
      refine Prog.step_congr fun s => ?_
      cases faults.list with
      | true => rfl
      | false => exact (code_enter _).symm
    | envs a rest =>
      cases here
      show (buildTaken faults r.deliveryID d.push.after (branchOf d.push.ref) a >>=
        fun _ => remaining d faults rest) = _
      unfold buildTaken
      rw [statement_read]
      refine Prog.step_congr fun s => ?_
      cases faults.environments a.id with
      | true => exact (code_enter rest).symm
      | false =>
        simp only [Bool.false_eq_true, if_false]
        cases s.listEnvironmentsByProject a.projectID with
        | nil => exact (code_enter rest).symm
        | cons first envs => rfl
    | get a envID rest =>
      cases here
      refine Prog.step_congr fun s => ?_
      show ((match (if faults.get a.id then none else s.getApp a.id) with
        | none => return
        | some _ => _) >>= fun _ => remaining d faults rest) =
          Point.code d faults id (match (if faults.get a.id then none else s.getApp a.id) with
            | none => enter d rest
            | some _ => .create a envID rest)
      cases (if faults.get a.id then none else s.getApp a.id) with
      | none => exact (code_enter rest).symm
      | some found =>
        dsimp only
        rw [if_neg d.branch]
        rfl
    | create a envID rest =>
      cases here
      refine Prog.step_congr fun s => ?_
      exact (code_enter _).symm

end Presents

/-! ## What an attempt still has to build -/

/-- The round of the app ends in a build. -/
def GithubStore.builds? (s : GithubStore) (faults : Faults) (branch : String) (a : App) : Bool :=
  (s.linkedCall faults branch a).isSome && !faults.get a.id && !faults.create a.id

section Owner

variable {setup : Setup} {r : Delivery} {app : GithubApp} (d : SignedPush setup r app)
  (s : GithubStore) (faults : Faults)

def plan (apps : List App) : List UUID :=
  (apps.filter (s.builds? faults (branchOf d.push.ref))).map App.id

/-- The apps the attempt will build from there. -/
def Point.todo : Point → List UUID
  | .list => if faults.list then [] else plan d s faults (s.listAppsByRepo d.push.repository)
  | .envs a rest => plan d s faults (a :: rest)
  | .get a _ rest =>
    (if faults.get a.id || faults.create a.id then [] else [a.id]) ++ plan d s faults rest
  | .create a _ rest => (if faults.create a.id then [] else [a.id]) ++ plan d s faults rest
  | _ => []

/-- The attempt has stored the event. -/
def Point.owns : Point → Bool
  | .list => true
  | .envs _ _ => true
  | .get _ _ _ => true
  | .create _ _ _ => true
  | .finish => true
  | .halt stored => stored
  | _ => false

/-- The rows the loop is at are there. -/
def Point.valid : Point → Prop
  | .envs a rest => a.takes (branchOf d.push.ref) ∧ ∀ x ∈ a :: rest, x ∈ s.apps
  | .get a envID rest => (∀ x ∈ a :: rest, x ∈ s.apps) ∧ (s.environments.find? envID).isSome
  | .create a envID rest => (∀ x ∈ a :: rest, x ∈ s.apps) ∧ (s.environments.find? envID).isSome
  | _ => True

/-- The builds the delivery has caused so far. -/
def GithubStore.built (s : GithubStore) (delivery : String) : List UUID :=
  (s.builds.filter fun b => b.delivery = delivery).map Build.appID

variable {d s faults}

theorem owns_enter (rest : List App) : (enter d rest).owns = true := by
  induction rest with
  | nil => rfl
  | cons a rest ih =>
    unfold enter
    split
    · rfl
    · exact ih

theorem todo_enter (rest : List App) : (enter d rest).todo d s faults = plan d s faults rest := by
  induction rest with
  | nil => rfl
  | cons a rest ih =>
    unfold enter
    split
    · rfl
    · next skipped =>
      have off : s.builds? faults (branchOf d.push.ref) a = false := by
        simp [GithubStore.builds?, GithubStore.linkedCall, skipped]
      rw [ih, plan, plan, List.filter_cons_of_neg (by rw [off]; exact Bool.false_ne_true)]

theorem valid_enter {rest : List App} (there : ∀ x ∈ rest, x ∈ s.apps) : (enter d rest).valid d s := by
  induction rest with
  | nil => trivial
  | cons a rest ih =>
    unfold enter
    split
    · next takes => exact ⟨takes, there⟩
    · exact ih fun x mem => there x (List.mem_cons_of_mem a mem)

theorem chooseEnvironment_mem (first : Environment) (envs : List Environment) :
    ∃ e ∈ first :: envs, e.id = chooseEnvironment first envs := by
  unfold chooseEnvironment
  dsimp only
  split
  · exact ⟨first, List.mem_cons_self, rfl⟩
  · next set =>
    cases found : (first :: envs).find? fun e => e.isProduction with
    | none =>
      rw [found] at set
      exact absurd rfl set
    | some e => exact ⟨e, List.mem_of_find?_eq_some found, rfl⟩

theorem chosen_valid {projectID : UUID} {first : Environment} {envs : List Environment}
    (listed : s.listEnvironmentsByProject projectID = first :: envs) :
    (s.environments.find? (chooseEnvironment first envs)).isSome := by
  obtain ⟨e, mem, chosen⟩ := chooseEnvironment_mem first envs
  rw [← listed] at mem
  have stored : e ∈ s.environments := (List.mem_filter.mp (List.mem_mergeSort.mp mem)).1
  rw [← chosen]
  exact Option.isSome_of_eq_some (Table.find?_self stored)

/-- What a step of the attempt that stored the event does: the builds made and those still to
make stay the same, and no other attempt is affected. -/
structure OwnStep (d : SignedPush setup r app) (before : GithubStore) (faults : Faults)
    (s t : GithubStore) (p q : Point) : Prop where
  still : Static s t
  events : t.webhookEvents = s.webhookEvents
  owns : q.owns
  valid : q.valid d before
  builds : t.built r.deliveryID ++ q.todo d before faults =
    s.built r.deliveryID ++ p.todo d before faults

variable {before : GithubStore}

theorem plan_cons (a : App) (rest : List App) :
    plan d s faults (a :: rest) =
      (if s.builds? faults (branchOf d.push.ref) a then [a.id] else []) ++ plan d s faults rest := by
  unfold plan
  cases on : s.builds? faults (branchOf d.push.ref) a with
  | true => rw [List.filter_cons_of_pos on]; rfl
  | false => rw [List.filter_cons_of_neg (by rw [on]; exact Bool.false_ne_true)]; rfl

theorem createBuild_valid {a : App} {envID : UUID} (stored : a ∈ s.apps)
    (env : (s.environments.find? envID).isSome) :
    s.createBuild (buildOf d a envID) = some { s with builds := s.builds ++ [buildOf d a envID] } := by
  unfold GithubStore.createBuild
  rw [if_pos ⟨Option.isSome_of_eq_some (Table.find?_self stored), env⟩]

theorem built_append (s : GithubStore) (a : App) (envID : UUID) :
    ({ s with builds := s.builds ++ [buildOf d a envID] } : GithubStore).built r.deliveryID =
      s.built r.deliveryID ++ [a.id] := by
  simp [GithubStore.built, buildOf, List.filter_append]

/-- **One step of the attempt that stored the event.** -/
theorem own_step {p : Point} {effect : GithubStore → GithubStore} {next : GithubStore → Point}
    (still : Static before s) (owns : p.owns) (valid : p.valid d before)
    (edge : p.act d faults = some (effect, next)) :
    OwnStep d before faults s (effect s) p (next s) := by
  cases p with
  | lookup => cases owns
  | store => cases owns
  | known => cases owns
  | failed => cases owns
  | halt stored => cases edge
  | finish =>
    cases edge
    exact ⟨⟨rfl, rfl, rfl⟩, rfl, rfl, trivial, rfl⟩
  | list =>
    cases edge
    have same : s.listAppsByRepo d.push.repository = before.listAppsByRepo d.push.repository := by
      simp only [GithubStore.listAppsByRepo, still.apps, still.projects]
    beta_reduce
    rw [same]
    cases fails : faults.list with
    | true => exact ⟨.refl s, rfl, rfl, trivial, by simp [Point.todo, fails]⟩
    | false =>
      refine ⟨.refl s, rfl, owns_enter _, valid_enter ?_, ?_⟩
      · exact fun x mem => (List.mem_filter.mp mem).1
      · rw [if_neg Bool.false_ne_true, todo_enter]
        simp [Point.todo, fails]
  | envs a rest =>
    cases edge
    obtain ⟨takes, there⟩ := valid
    have later : ∀ x ∈ rest, x ∈ before.apps := fun x mem => there x (List.mem_cons_of_mem a mem)
    have same : s.listEnvironmentsByProject a.projectID =
        before.listEnvironmentsByProject a.projectID := by
      simp only [GithubStore.listEnvironmentsByProject, still.environments]
    beta_reduce
    rw [same]
    cases fails : faults.environments a.id with
    | true =>
      refine ⟨.refl s, rfl, owns_enter rest, valid_enter later, ?_⟩
      rw [if_pos rfl, todo_enter]
      simp [Point.todo, plan_cons, GithubStore.builds?, GithubStore.linkedCall, fails]
    | false =>
      simp only [Bool.false_eq_true, if_false]
      cases listed : before.listEnvironmentsByProject a.projectID with
      | nil =>
        refine ⟨.refl s, rfl, owns_enter rest, valid_enter later, ?_⟩
        rw [todo_enter]
        simp [Point.todo, plan_cons, GithubStore.builds?, GithubStore.linkedCall, listed]
      | cons first others =>
        refine ⟨.refl s, rfl, rfl, ⟨there, chosen_valid listed⟩, ?_⟩
        cases got : faults.get a.id <;> cases made : faults.create a.id <;>
          simp [Point.todo, plan_cons, GithubStore.builds?, GithubStore.linkedCall, fails,
            listed, takes, got, made]
  | get a envID rest =>
    cases edge
    obtain ⟨there, env⟩ := valid
    have later : ∀ x ∈ rest, x ∈ before.apps := fun x mem => there x (List.mem_cons_of_mem a mem)
    have found : s.getApp a.id = some a := by
      unfold GithubStore.getApp
      rw [still.apps]
      exact Table.find?_self (there a List.mem_cons_self)
    beta_reduce
    rw [found]
    cases fails : faults.get a.id with
    | true =>
      refine ⟨⟨rfl, rfl, rfl⟩, rfl, owns_enter rest, valid_enter later, ?_⟩
      show s.built r.deliveryID ++ (enter d rest).todo d before faults = _
      rw [todo_enter]
      simp [Point.todo, fails]
    | false =>
      refine ⟨⟨rfl, rfl, rfl⟩, rfl, rfl, ⟨there, env⟩, ?_⟩
      simp [Point.todo, fails, GithubStore.built]
  | create a envID rest =>
    cases edge
    obtain ⟨there, env⟩ := valid
    have later : ∀ x ∈ rest, x ∈ before.apps := fun x mem => there x (List.mem_cons_of_mem a mem)
    beta_reduce
    cases fails : faults.create a.id with
    | true =>
      refine ⟨.refl s, rfl, owns_enter rest, valid_enter later, ?_⟩
      rw [if_pos rfl, todo_enter]
      simp [Point.todo, fails]
    | false =>
      rw [if_neg Bool.false_ne_true, createBuild_valid (by rw [still.apps]; exact there a List.mem_cons_self)
        (by rw [still.environments]; exact env)]
      refine ⟨⟨rfl, rfl, rfl⟩, rfl, owns_enter rest, valid_enter later, ?_⟩
      show GithubStore.built { s with builds := _ } r.deliveryID ++ _ = _
      rw [built_append, todo_enter]
      simp [Point.todo, fails]

end Owner

/-! ## Attempts beside each other -/

section Runs

variable {setup : Setup} {r : Delivery} {app : GithubApp} (d : SignedPush setup r app)

/-- The attempts, each with the statements that fail for it and where it stands. -/
def attemptFlow : Flow GithubStore (Faults × Point) := Flow.indexed fun faults => ⟨Point.act d faults⟩

def attemptStart (s : GithubStore) (attempts : List Faults) :
    GithubStore × List (Faults × Point) :=
  (s, attempts.map fun faults => (faults, .lookup))

def attemptRun (s : GithubStore) (attempts : List Faults) (schedule : List Nat) :
    GithubStore × List (Faults × Point) :=
  (attemptFlow d).run (fun _ _ => []) (attemptStart s attempts) schedule

/-- **The points run the handlers.** -/
theorem attemptRun_eq (id : UUID) (s : GithubStore) (attempts : List Faults) (schedule : List Nat) :
    (⟨s, attempts.map fun faults => handleGitHubWithApp setup faults id r app⟩ :
        Pool GithubStore).run Pool.noSpawn schedule =
      Flow.pool (fun k => k.2.code d k.1 id) (attemptRun d s attempts schedule) := by
  have coded := Flow.run_coded_noSpawn
    (Flow.indexed_presents fun faults =>
      (Point.presents : (⟨Point.act d faults⟩ : Flow _ _).Presents (Point.code d faults id)))
    (attemptStart s attempts) schedule
  rw [Flow.pool, attemptStart, List.map_map] at coded
  exact coded

/-- The sender was told 200. -/
def GithubStore.accepted (s : GithubStore) (delivery : String) : Bool :=
  s.answers.any fun answer => answer.delivery = delivery ∧ answer.code = 200

/-- Nothing is known of the delivery, or one attempt has stored it and builds the apps. -/
structure Single (before : GithubStore) (c : GithubStore × List (Faults × Point)) : Prop where
  still : Static before c.1
  unknown : c.1.webhookEvents.find? r.deliveryID = none →
    c.1.built r.deliveryID = [] ∧ c.1.accepted r.deliveryID = false ∧
      ∀ thread ∈ c.2, thread.2.owns = false ∧ thread.2 ≠ .known
  known : c.1.webhookEvents.find? r.deliveryID ≠ none →
    ∃ (i : Nat) (faults : Faults) (p : Point), c.2[i]? = some (faults, p) ∧ p.owns ∧
      (∀ (j : Nat) (other : Faults × Point), j ≠ i → c.2[j]? = some other → other.2.owns = false) ∧
      p.valid d before ∧
      c.1.built r.deliveryID ++ p.todo d before faults = Point.list.todo d before faults

variable {d} {before : GithubStore} {c : GithubStore × List (Faults × Point)} {i : Nat}
  {faults : Faults}

/-- A step of an attempt that has not stored the event and does not store it: it may answer. -/
theorem Single.aside {p q : Point} {t : GithubStore} (single : Single d before c)
    (here : c.2[i]? = some (faults, p)) (off : p.owns = false) (offAfter : q.owns = false)
    (still : Static c.1 t) (events : t.webhookEvents = c.1.webhookEvents)
    (builds : t.builds = c.1.builds)
    (silent : c.1.webhookEvents.find? r.deliveryID = none →
      t.accepted r.deliveryID = c.1.accepted r.deliveryID ∧ q ≠ .known) :
    Single d before (t, c.2.set i (faults, q)) := by
  obtain ⟨bound, -⟩ := List.getElem?_eq_some_iff.mp here
  have built : t.built r.deliveryID = c.1.built r.deliveryID := by
    rw [GithubStore.built, GithubStore.built, builds]
  refine ⟨single.still.trans still, fun new => ?_, fun stored => ?_⟩
  · have newBefore : c.1.webhookEvents.find? r.deliveryID = none := by rwa [← events]
    obtain ⟨none, refused, idle⟩ := single.unknown newBefore
    obtain ⟨quiet, unaware⟩ := silent newBefore
    refine ⟨built.trans none, quiet.trans refused, fun thread mem => ?_⟩
    rcases List.mem_or_eq_of_mem_set mem with old | rfl
    · exact idle thread old
    · exact ⟨offAfter, unaware⟩
  · have storedBefore : c.1.webhookEvents.find? r.deliveryID ≠ none := by rwa [← events]
    obtain ⟨k, faults', p', found, owns, alone, valid, plan⟩ := single.known storedBefore
    have other : i ≠ k := by
      rintro rfl
      rw [here] at found
      cases found
      rw [off] at owns
      cases owns
    refine ⟨k, faults', p', ?_, owns, fun j thread apart mem => ?_, valid, ?_⟩
    · show (c.2.set i _)[k]? = _
      rw [List.getElem?_set_ne other, found]
    · by_cases self : i = j
      · subst self
        rw [List.getElem?_set_self bound] at mem
        cases mem
        exact offAfter
      · rw [List.getElem?_set_ne self] at mem
        exact alone j thread apart mem
    · show t.built r.deliveryID ++ _ = _
      rw [built, plan]

theorem Single.own {p q : Point} {t : GithubStore} (single : Single d before c)
    (here : c.2[i]? = some (faults, p)) (owns : p.owns)
    (step : p.valid d before → OwnStep d before faults c.1 t p q) :
    Single d before (t, c.2.set i (faults, q)) := by
  obtain ⟨bound, -⟩ := List.getElem?_eq_some_iff.mp here
  have stored : c.1.webhookEvents.find? r.deliveryID ≠ none := by
    intro new
    have idle := ((single.unknown new).2.2 _ (List.mem_of_getElem? here)).1
    rw [owns] at idle
    cases idle
  obtain ⟨k, faults', p', found, -, alone, valid, plan⟩ := single.known stored
  obtain rfl : i = k := by
    by_contra apart
    have off := alone i _ apart here
    rw [owns] at off
    cases off
  rw [here] at found
  cases found
  have did := step valid
  refine ⟨single.still.trans did.still, fun new => absurd (did.events ▸ new) stored, fun _ => ?_⟩
  refine ⟨i, faults, q, List.getElem?_set_self bound, did.owns, fun j thread apart mem => ?_,
    did.valid, did.builds.trans plan⟩
  rw [List.getElem?_set_ne (Ne.symm apart)] at mem
  exact alone j thread apart mem

/-- **Every step of every attempt keeps it.** -/
theorem Single.step (single : Single d before c) (i : Nat) :
    Single d before ((attemptFlow d).advance (fun _ _ => []) c i) := by
  obtain same | ⟨⟨faults, p⟩, effect, next, here, edge, moved⟩ :=
    Flow.advance_cases (attemptFlow d) (fun _ _ => []) c i
  · rw [same]
    exact single
  · obtain ⟨next', edge, marked⟩ := Flow.indexed_act edge
    rw [moved, marked, List.append_nil]
    by_cases owns : p.owns
    · exact single.own here owns fun valid => own_step single.still owns valid edge
    · have off : p.owns = false := by simpa using owns
      cases p with
      | lookup =>
        cases edge
        refine single.aside here off ?_ (.refl _) rfl rfl fun new => ⟨rfl, ?_⟩
        · beta_reduce
          split
          · rfl
          · rfl
        · have unaware : c.1.knows faults r = false := by
            simp [GithubStore.knows, GithubStore.getWebhookEventByDeliveryID, new]
          simp [unaware]
      | store =>
        cases edge
        beta_reduce
        obtain ⟨stores, new, events, stored, out⟩ | ⟨refused, out⟩ :=
          storeEvent_out setup faults r d.body app c.1
        · rw [out, stores, if_pos rfl]
          obtain ⟨bound, -⟩ := List.getElem?_eq_some_iff.mp here
          obtain ⟨none, -, idle⟩ := single.unknown new
          refine ⟨⟨single.still.apps, single.still.projects, single.still.environments⟩,
            fun unstored => absurd unstored stored, fun _ => ?_⟩
          refine ⟨i, faults, .list, List.getElem?_set_self bound, rfl,
            fun j thread apart mem => ?_, trivial, ?_⟩
          · rw [List.getElem?_set_ne (Ne.symm apart)] at mem
            exact (idle thread (List.mem_of_getElem? mem)).1
          · show c.1.built r.deliveryID ++ _ = _
            rw [none]
            rfl
        · rw [out, refused, if_neg Bool.false_ne_true]
          exact single.aside here off rfl (.refl _) rfl rfl fun _ => ⟨rfl, by simp⟩
      | known =>
        cases edge
        refine single.aside here off rfl ⟨rfl, rfl, rfl⟩ rfl rfl fun new => ?_
        exact absurd rfl ((single.unknown new).2.2 _ (List.mem_of_getElem? here)).2
      | failed =>
        cases edge
        refine single.aside here off rfl ⟨rfl, rfl, rfl⟩ rfl rfl fun _ => ⟨?_, by simp⟩
        simp [answering, GithubStore.accepted]
      | halt stored => cases edge
      | _ => cases off

end Runs

/-- The apps that ask for a build of the push: they name the repository, deploy by
themselves, take the branch and have an environment. -/
def GithubStore.eligible (s : GithubStore) (push : PushPayload) : List App :=
  (s.listAppsByRepo push.repository).filter fun a =>
    a.takes (branchOf push.ref) && !(s.listEnvironmentsByProject a.projectID).isEmpty

/-- None of the statements of the attempt that the build of the app needs fails. -/
def Faults.spares (faults : Faults) (appID : UUID) : Bool :=
  !faults.list && !faults.environments appID && !faults.get appID && !faults.create appID

section Theorem

variable {setup : Setup} {r : Delivery} {app : GithubApp} {d : SignedPush setup r app}
  {s : GithubStore}

theorem planned_nodup (d : SignedPush setup r app) (s : GithubStore) (faults : Faults) :
    (Point.list.todo d s faults).Nodup := by
  show (if faults.list then [] else plan d s faults _).Nodup
  split
  · exact List.nodup_nil
  · exact s.apps.unique.sublist ((List.filter_sublist.trans List.filter_sublist).map App.id)

/-- An app that asks for a build is planned exactly when no statement it needs fails. -/
theorem mem_planned {a : App} (faults : Faults) (eligible : a ∈ s.eligible d.push) :
    a.id ∈ Point.list.todo d s faults ↔ faults.spares a.id := by
  obtain ⟨listed, asks⟩ := List.mem_filter.mp eligible
  have stored : a ∈ s.apps := (List.mem_filter.mp listed).1
  simp only [Bool.and_eq_true, Bool.not_eq_true', List.isEmpty_eq_false_iff] at asks
  have planned : a.id ∈ plan d s faults (s.listAppsByRepo d.push.repository) ↔
      s.builds? faults (branchOf d.push.ref) a := by
    constructor
    · intro mem
      obtain ⟨b, kept, same⟩ := List.mem_map.mp mem
      obtain ⟨linked, builds⟩ := List.mem_filter.mp kept
      obtain rfl : b = a := Table.eq_of_key_eq (List.mem_filter.mp linked).1 stored same
      exact builds
    · exact fun builds => List.mem_map.mpr ⟨a, List.mem_filter.mpr ⟨listed, builds⟩, rfl⟩
  have builds : s.builds? faults (branchOf d.push.ref) a =
      (!faults.environments a.id && !faults.get a.id && !faults.create a.id) := by
    have round : (s.linkedCall faults (branchOf d.push.ref) a).isSome =
        !faults.environments a.id := by
      rw [Bool.eq_iff_iff, linkedCall_isSome]
      simp [asks]
    rw [GithubStore.builds?, round]
  show a.id ∈ (if faults.list then [] else plan d s faults _) ↔ _
  unfold Faults.spares
  cases faults.list with
  | true => simp
  | false =>
    rw [if_neg Bool.false_ne_true, planned, builds]
    simp

/-- **When each app is built exactly once.**  For every signed push delivery that is not known
yet, every list of attempts with any statements failing, and every interleaving in which an
attempt that is not over has died: no app is built twice for the delivery.  Once the sender
was told 200 there is one attempt that stored the event, and an app that asks for a build has
exactly one exactly when none of the statements of that attempt it needs fails and the
attempt was not stopped before the build. -/
theorem built_once_iff (d : SignedPush setup r app) (s : GithubStore) (attempts : List Faults)
    (schedule : List Nat) (new : s.webhookEvents.find? r.deliveryID = none)
    (unbuilt : s.built r.deliveryID = []) (unanswered : s.accepted r.deliveryID = false) :
    (∀ appID, ((attemptRun d s attempts schedule).1.built r.deliveryID).count appID ≤ 1) ∧
    ((attemptRun d s attempts schedule).1.accepted r.deliveryID →
      ∃ (i : Nat) (faults : Faults) (p : Point),
        (attemptRun d s attempts schedule).2[i]? = some (faults, p) ∧ p.owns ∧
        ((∀ a ∈ s.eligible d.push,
            ((attemptRun d s attempts schedule).1.built r.deliveryID).count a.id = 1) ↔
          ∀ a ∈ s.eligible d.push, faults.spares a.id ∧ a.id ∉ p.todo d s faults)) := by
  have start : Single d s (attemptStart s attempts) := by
    refine ⟨.refl s, fun _ => ⟨unbuilt, unanswered, fun thread mem => ?_⟩, fun known => ?_⟩
    · obtain ⟨faults, -, rfl⟩ := List.mem_map.mp mem
      exact ⟨rfl, by simp⟩
    · exact absurd new known
  have single : Single d s (attemptRun d s attempts schedule) :=
    Flow.run_invariant (fun c i held => held.step i) start schedule
  generalize attemptRun d s attempts schedule = c at single
  constructor
  · intro appID
    by_cases unknown : c.1.webhookEvents.find? r.deliveryID = none
    · rw [(single.unknown unknown).1]
      exact Nat.zero_le 1
    · obtain ⟨i, faults, p, -, -, -, -, plan⟩ := single.known unknown
      have nodup : (c.1.built r.deliveryID).Nodup := by
        have whole := planned_nodup d s faults
        rw [← plan] at whole
        exact (List.nodup_append.mp whole).1
      exact List.nodup_iff_count_le_one.mp nodup appID
  · intro accepted
    have known : c.1.webhookEvents.find? r.deliveryID ≠ none := by
      intro unknown
      rw [(single.unknown unknown).2.1] at accepted
      cases accepted
    obtain ⟨i, faults, p, found, owns, -, -, plan⟩ := single.known known
    refine ⟨i, faults, p, found, owns, forall₂_congr fun a eligible => ?_⟩
    have whole : (c.1.built r.deliveryID ++ p.todo d s faults).Nodup := by
      rw [plan]
      exact planned_nodup d s faults
    obtain ⟨nodup, -, apart⟩ := List.nodup_append.mp whole
    rw [← mem_planned faults eligible, ← plan, List.mem_append]
    constructor
    · intro once
      have built : a.id ∈ c.1.built r.deliveryID :=
        List.count_pos_iff.mp (by rw [once]; exact Nat.one_pos)
      exact ⟨.inl built, fun left => apart a.id built a.id left rfl⟩
    · rintro ⟨built | left, done⟩
      · exact List.count_eq_one_of_mem nodup built
      · exact absurd left done

end Theorem

/-- The push of `pushDelivery`. -/
def mainPush : SignedPush pushSetup pushDelivery teamApp where
  body := pushBody
  push := ⟨"refs/heads/main", "c0ffee", "acme/site"⟩
  signed := by decide
  event := rfl
  named := by decide
  service := rfl
  decoded := rfl
  branch := by decide
  repository := by decide

/-- Two attempts look the delivery up before either stores it; the second is refused. -/
theorem main_built_once :
    (attemptRun mainPush (linkedTo 1) [{}, {}] [0, 1, 0, 1, 0, 0, 0, 0, 0, 1]).1.accepted "d-1" ∧
      ∀ a ∈ (linkedTo 1).eligible mainPush.push,
        ((attemptRun mainPush (linkedTo 1) [{}, {}] [0, 1, 0, 1, 0, 0, 0, 0, 0, 1]).1.built
          "d-1").count a.id = 1 := by
  have accepted : (attemptRun mainPush (linkedTo 1) [{}, {}]
      [0, 1, 0, 1, 0, 0, 0, 0, 0, 1]).1.accepted "d-1" = true := by decide +kernel
  obtain ⟨-, once⟩ := built_once_iff mainPush (linkedTo 1) [{}, {}] [0, 1, 0, 1, 0, 0, 0, 0, 0, 1]
    (by decide) (by decide) (by decide)
  obtain ⟨i, faults, p, found, owns, exactly⟩ := once accepted
  have unharmed : ((attemptRun mainPush (linkedTo 1) [{}, {}]
      [0, 1, 0, 1, 0, 0, 0, 0, 0, 1]).2.all fun k => k.1.spares 40) = true := by decide +kernel
  have finished : ((attemptRun mainPush (linkedTo 1) [{}, {}]
      [0, 1, 0, 1, 0, 0, 0, 0, 0, 1]).2.all fun k => k.2 = .halt true ∨ k.2 = .halt false) = true := by
    decide +kernel
  have only : (linkedTo 1).eligible mainPush.push =
      [⟨40, 20, none, some "acme/site", some "main", true⟩] := by decide +kernel
  refine ⟨accepted, exactly.mpr fun a mem => ?_⟩
  rw [only] at mem
  obtain rfl := List.mem_singleton.mp mem
  have member := List.mem_of_getElem? found
  refine ⟨List.all_eq_true.mp unharmed _ member, ?_⟩
  have halt := List.all_eq_true.mp finished _ member
  rcases of_decide_eq_true halt with halt | halt
  · rw [show p = .halt true from halt]
    exact List.not_mem_nil
  · rw [show p = .halt false from halt] at owns
    cases owns

/-- The first attempt dies after storing the event; the second is told it was processed. -/
theorem push_lost :
    ((linkedTo 1).webhookEvents.find? pushDelivery.deliveryID = none ∧
      (linkedTo 1).built pushDelivery.deliveryID = [] ∧
      (linkedTo 1).accepted pushDelivery.deliveryID = false) ∧
      ⟨40, 20, none, some "acme/site", some "main", true⟩ ∈ (linkedTo 1).eligible mainPush.push ∧
      (attemptRun mainPush (linkedTo 1) [{}, {}] [0, 0, 1, 1]).1.accepted pushDelivery.deliveryID ∧
      (attemptRun mainPush (linkedTo 1) [{}, {}] [0, 0, 1, 1]).1.built pushDelivery.deliveryID = [] :=
  ⟨⟨by decide, by decide, by decide⟩, by decide +kernel, by decide, by decide⟩

end Nixway.Github
