/-
# Github.Webhook -- deliveries from GitHub

`handleGitHubWithApp` of `internal/api/handler/webhook.go`, with the statements it uses and
`TriggerBuild` of `internal/build/service.go`.  One atomic step per SQL statement; a
statement that fails returns nothing and leaves the rows as they are, and `Faults` says
which of a handler's statements do.  A handler that dies is one that is never resumed.

`Setup` holds what is outside: the decryption of the stored secret, HMAC-SHA256, and the
decoders of the body.  Their errors are handled as the handler does, so nothing is
asked of them.  `calls` and `answers` are history: the calls of TriggerBuild and what the
sender was told.  A build carries the delivery that caused it, which no handler reads.
-/
import Nixway.Store.Schema
import Nixway.Theory.Prog
import Nixway.Theory.Table
import Nixway.Theory.Text

namespace Nixway.Github

open Nixway.Store (UUID)
open Nixway.Theory Nixway.Theory.Text
open Nixway.Theory.Prog (query exec atomic forEach)

set_option autoImplicit false

/-! ## Rows -/

abbrev Bytes := List UInt8

structure GithubApp where
  id : UUID
  teamID : UUID
  appID : Int
  webhookSecret : Bytes
deriving DecidableEq

/-- The CHECK of `account_type`. -/
inductive AccountType where
  | organization | user
deriving DecidableEq

def AccountType.ofText : String → Option AccountType
  | "Organization" => some .organization
  | "User" => some .user
  | _ => none

/-- The CHECK of `target_type`. -/
inductive TargetType where
  | all | selected
deriving DecidableEq

def TargetType.ofText : String → Option TargetType
  | "all" => some .all
  | "selected" => some .selected
  | _ => none

/-- A row of `github_installations`; of `suspended_at` only whether it is set. -/
structure Installation where
  id : UUID
  githubAppID : UUID
  installationID : Int
  accountLogin : String
  accountType : AccountType
  targetType : TargetType
  suspended : Bool
deriving DecidableEq

structure WebhookEvent where
  githubAppID : UUID
  eventType : String
  action : Option String
  deliveryID : String

structure Project where
  id : UUID
  teamID : UUID

structure Environment where
  id : UUID
  projectID : UUID
  name : String
  isProduction : Bool

structure App where
  id : UUID
  projectID : UUID
  githubInstallationID : Option UUID
  repoFullName : Option String
  branch : Option String
  autoDeploy : Bool
deriving DecidableEq

structure Build where
  appID : UUID
  environmentID : UUID
  triggerType : String
  commitSha : String
  branch : String
  delivery : String

/-- A call of TriggerBuild. -/
structure TriggerCall where
  appID : UUID
  environmentID : UUID
deriving DecidableEq

/-- What the sender of a delivery is told. -/
structure Answer where
  delivery : String
  code : Nat
  text : String

instance : Keyed GithubApp UUID := ⟨GithubApp.id⟩
instance : Keyed Installation (UUID × Int) := ⟨fun i => (i.githubAppID, i.installationID)⟩
instance : Keyed WebhookEvent String := ⟨WebhookEvent.deliveryID⟩
instance : Keyed Project UUID := ⟨Project.id⟩
instance : Keyed Environment UUID := ⟨Environment.id⟩
instance : Keyed App UUID := ⟨App.id⟩

structure GithubStore where
  githubApps : Table GithubApp := .empty
  installations : Table Installation := .empty
  webhookEvents : Table WebhookEvent := .empty
  projects : Table Project := .empty
  environments : Table Environment := .empty
  apps : Table App := .empty
  builds : List Build := []
  calls : List TriggerCall := []
  answers : List Answer := []

namespace GithubStore

/-! ## Statements -/

def getWebhookEventByDeliveryID (s : GithubStore) (deliveryID : String) : Option WebhookEvent :=
  s.webhookEvents.find? deliveryID

/-- The GitHub App must exist and the delivery id must be new. -/
def createWebhookEvent (s : GithubStore) (event : WebhookEvent) : Option GithubStore :=
  if (s.githubApps.find? event.githubAppID).isSome then
    (s.webhookEvents.insert? event).map fun events => { s with webhookEvents := events }
  else none

def getGitHubInstallation (s : GithubStore) (githubAppID : UUID) (installationID : Int) :
    Option Installation :=
  s.installations.find? (githubAppID, installationID)

/-- Both CHECKs, the foreign key and the uniqueness of the pair; `id` is the one drawn. -/
def createGitHubInstallation (s : GithubStore) (id githubAppID : UUID) (installationID : Int)
    (accountLogin accountType targetType : String) : Option GithubStore := do
  let accountType ← AccountType.ofText accountType
  let targetType ← TargetType.ofText targetType
  guard (s.githubApps.find? githubAppID).isSome
  let installations ← s.installations.insert?
    ⟨id, githubAppID, installationID, accountLogin, accountType, targetType, false⟩
  return { s with installations := installations }

/-- An app refers to the row. -/
def referenced (s : GithubStore) (id : UUID) : Bool :=
  s.apps.rows.any fun a => a.githubInstallationID = some id

/-- A row an app refers to cannot be deleted; no row to delete is no error. -/
def deleteGitHubInstallation (s : GithubStore) (githubAppID : UUID) (installationID : Int) :
    Option GithubStore :=
  if ((s.getGitHubInstallation githubAppID installationID).any fun i => s.referenced i.id) then none
  else
    some { s with
      installations := s.installations.deleteWhere fun i =>
        Keyed.key i = (githubAppID, installationID) }

def updateGitHubInstallationSuspended (s : GithubStore) (githubAppID : UUID)
    (installationID : Int) (suspended : Bool) : GithubStore :=
  { s with installations := s.installations.update (githubAppID, installationID) fun i =>
      { i with suspended := suspended } }

/-- The apps that name the repository and deploy by themselves, joined with their projects. -/
def listAppsByRepo (s : GithubStore) (repo : String) : List App :=
  s.apps.rows.filter fun a =>
    a.repoFullName = some repo ∧ a.autoDeploy ∧ (s.projects.find? a.projectID).isSome

/-- Production first, then by name. -/
def listEnvironmentsByProject (s : GithubStore) (projectID : UUID) : List Environment :=
  (s.environments.rows.filter fun e => e.projectID = projectID).mergeSort fun e e' =>
    (e.isProduction && !e'.isProduction) || (e.isProduction == e'.isProduction && e.name ≤ e'.name)

def getApp (s : GithubStore) (id : UUID) : Option App := s.apps.find? id

/-- The app and the environment must exist. -/
def createBuild (s : GithubStore) (build : Build) : Option GithubStore :=
  if (s.apps.find? build.appID).isSome ∧ (s.environments.find? build.environmentID).isSome then
    some { s with builds := s.builds ++ [build] }
  else none

end GithubStore

/-! ## Deliveries -/

structure InstallationPayload where
  id : Int
  login : String
  accountType : String
  targetType : String

/-- What the first decoding of a body yields; its error is dropped. -/
structure EventPayload where
  action : Option String
  installation : Option InstallationPayload

structure PushPayload where
  ref : String
  after : String
  repository : String
deriving DecidableEq

/-- `decrypt` is `crypto.Decrypt` under the master key and the team's context; `jsonb` says
which bodies the column `payload` takes. -/
structure Setup where
  decrypt : Bytes → UUID → Option Bytes
  hmac : Bytes → Bytes → Bytes
  event : Bytes → EventPayload
  push : Bytes → Option PushPayload
  jsonb : Bytes → Bool
  buildSvc : Bool := true

structure Delivery where
  body : Option Bytes
  signature : String
  deliveryID : String
  eventType : String

/-- The statements of one handler that fail; those about an app by its id. -/
structure Faults where
  lookup : Bool := false
  store : Bool := false
  install : Bool := false
  list : Bool := false
  environments : UUID → Bool := fun _ => false
  get : UUID → Bool := fun _ => false
  create : UUID → Bool := fun _ => false

def hexDigit (n : Nat) : Char := if n < 10 then Char.ofNat (48 + n) else Char.ofNat (87 + n)

/-- `hex.EncodeToString`. -/
def encodeToString (bytes : Bytes) : String :=
  String.ofList (bytes.flatMap fun b => [hexDigit (b.toNat / 16), hexDigit (b.toNat % 16)])

/-- The signature the holder of a secret puts on a body. -/
def Setup.signature (setup : Setup) (secret body : Bytes) : String :=
  "sha256=" ++ encodeToString (setup.hmac secret body)

def respond (deliveryID : String) (code : Nat) (text : String) : Prog GithubStore Unit :=
  exec fun s => { s with answers := s.answers ++ [⟨deliveryID, code, text⟩] }

/-- A statement that fails when told to; what it returns is lost then. -/
def statement {α : Type} (fails : Bool) (g : GithubStore → GithubStore × Option α) :
    Prog GithubStore (Option α) :=
  atomic fun s => if fails then (s, none) else g s

/-- A statement whose error is only logged. -/
def attempt (fails : Bool) (g : GithubStore → Option GithubStore) : Prog GithubStore Unit :=
  exec fun s => if fails then s else (g s).getD s

/-! ## Builds -/

/-- Up to the row; the dispatch runs on its own. -/
def triggerBuild (faults : Faults) (delivery : String) (appID envID : UUID)
    (triggerType commitSHA branch : String) : Prog GithubStore Unit := do
  let found ← atomic fun s =>
    ({ s with calls := s.calls ++ [⟨appID, envID⟩] },
      if faults.get appID then none else s.getApp appID)
  match found with
  | none => return
  | some app =>
    let branch := if branch = "" then app.branch.getD branch else branch
    attempt (faults.create appID) fun s =>
      s.createBuild ⟨appID, envID, triggerType, commitSHA, branch, delivery⟩

/-- The first production environment, or the first of all; the zero id counts as none. -/
def chooseEnvironment (first : Environment) (envs : List Environment) : UUID :=
  let envID := ((first :: envs).find? fun e => e.isProduction).elim 0 Environment.id
  if envID = 0 then first.id else envID

/-- `refs/heads/main` is the branch `main`; other refs have none. -/
def branchOf (ref : String) : String :=
  if hasPrefix ref "refs/heads/" then trimPrefix ref "refs/heads/" else ""

/-- An app with a branch of its own takes only that. -/
def App.takes (a : App) (branch : String) : Bool := a.branch.all fun own => own = branch

/-- The build of an app that takes the branch, in the environment found for it. -/
def buildTaken (faults : Faults) (delivery commitSHA branch : String) (a : App) :
    Prog GithubStore Unit := do
  match ← statement (faults.environments a.id) fun s =>
      (s, some (s.listEnvironmentsByProject a.projectID)) with
  | none => return
  | some [] => return
  | some (first :: envs) =>
    triggerBuild faults delivery a.id (chooseEnvironment first envs) "push" commitSHA branch

def buildLinked (faults : Faults) (delivery commitSHA branch : String) (a : App) :
    Prog GithubStore Unit :=
  if a.takes branch then buildTaken faults delivery commitSHA branch a else return

def handlePush (setup : Setup) (faults : Faults) (r : Delivery) (body : Bytes) :
    Prog GithubStore Unit :=
  if r.eventType = "push" ∧ setup.buildSvc then
    match setup.push body with
    | none => return
    | some push =>
      let branch := branchOf push.ref
      if branch ≠ "" ∧ push.repository ≠ "" then do
        match ← statement faults.list fun s => (s, some (s.listAppsByRepo push.repository)) with
        | none => return
        | some apps => forEach apps (buildLinked faults r.deliveryID push.after branch)
      else return
  else return

/-! ## Installations -/

/-- `id` is the one drawn for the row. -/
def handleInstallation (setup : Setup) (faults : Faults) (id : UUID) (r : Delivery) (body : Bytes)
    (app : GithubApp) : Prog GithubStore Unit :=
  if r.eventType = "installation" then
    match (setup.event body).action, (setup.event body).installation with
    | some action, some inst =>
      if action = "created" then
        let targetType := if inst.targetType = "" then "Organization" else inst.targetType
        attempt faults.install fun s =>
          s.createGitHubInstallation id app.id inst.id inst.login inst.accountType targetType
      else if action = "deleted" then
        attempt faults.install fun s => s.deleteGitHubInstallation app.id inst.id
      else if action = "suspend" then
        attempt faults.install fun s =>
          some (s.updateGitHubInstallationSuspended app.id inst.id true)
      else if action = "unsuspend" then
        attempt faults.install fun s =>
          some (s.updateGitHubInstallationSuspended app.id inst.id false)
      else return
    | _, _ => return
  else return

/-! ## The handler -/

/-- The body of an accepted delivery, or what a refused one is told. -/
def verify (setup : Setup) (r : Delivery) (app : GithubApp) : Except (Nat × String) Bytes :=
  match r.body with
  | none => .error (500, "failed to read request body")
  | some body =>
    if r.signature = "" then .error (401, "missing signature")
    else match setup.decrypt app.webhookSecret app.teamID with
      | none => .error (500, "internal server error")
      | some webhookSecret =>
        if r.signature = setup.signature webhookSecret body then .ok body
        else .error (401, "invalid signature")

def alreadyProcessed (faults : Faults) (r : Delivery) : Prog GithubStore Bool :=
  if r.deliveryID = "" then return false
  else query fun s => !faults.lookup && (s.getWebhookEventByDeliveryID r.deliveryID).isSome

def storeEvent (setup : Setup) (faults : Faults) (r : Delivery) (body : Bytes) (app : GithubApp) :
    Prog GithubStore Bool :=
  atomic fun s =>
    if faults.store || !setup.jsonb body then (s, false)
    else match s.createWebhookEvent
        ⟨app.id, r.eventType, (setup.event body).action, r.deliveryID⟩ with
      | none => (s, false)
      | some s => (s, true)

def handleGitHubWithApp (setup : Setup) (faults : Faults) (id : UUID) (r : Delivery)
    (app : GithubApp) : Prog GithubStore Unit :=
  match verify setup r app with
  | .error (code, text) => respond r.deliveryID code text
  | .ok body => do
    if ← alreadyProcessed faults r then
      respond r.deliveryID 200 "already_processed"
    else if ← storeEvent setup faults r body app then
      handleInstallation setup faults id r body app
      handlePush setup faults r body
      respond r.deliveryID 200 "ok"
    else
      respond r.deliveryID 500 "failed to store event"

end Nixway.Github
