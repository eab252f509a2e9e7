/-
# Deploy.Precedence -- where the value of a variable comes from

Team secrets, app variables and database links are merged by map assignments, in
`TriggerDeploy` for the containers and in `ResolveBuildEnv` for the build, and
`dispatchDeploy` assigns the ten platform variables on top.  `linkValue`, `appVarValue` and
`secretValue` read the rows alone; `get_triggerEnv` and `get_resolveBuildEnv` say that the merges
are the same order of precedence over them, and `env_precedence` that the command of a deploy
with one target carries it.

`database:<name>` is the environment of a database's own secrets, so `BulkResolve` serves both
the team's secrets and the password of a link.
-/
import Nixway.Deploy.Environment
import Nixway.Deploy.Archive
import Nixway.Store.Slug
import Nixway.Theory.Rely

namespace Nixway.Deploy

open Nixway.Theory Nixway.Store
open Nixway.Theory.Prog (query exec atomic forEach)

set_option autoImplicit false

/-! ## Many assignments -/

/-- `for k, v := range entries { env[k] = v }`. -/
def EnvMap.assignAll (entries env : EnvMap) : EnvMap :=
  entries.foldl (fun env entry => EnvMap.assign entry.1 entry.2 env) env

/-- A key is in a map once. -/
def EnvMap.Single (env : EnvMap) : Prop := (env.map Prod.fst).Nodup

theorem EnvMap.get_cons (entry : String × String) (env : EnvMap) (key : String) :
    EnvMap.get key (entry :: env) = if entry.1 = key then some entry.2 else EnvMap.get key env := by
  unfold EnvMap.get
  rw [List.find?_cons]
  by_cases here : entry.1 = key
  · simp [here]
  · simp [here]

theorem EnvMap.get_of_not_mem {env : EnvMap} {key : String} (absent : key ∉ env.map Prod.fst) :
    EnvMap.get key env = none := by
  rw [EnvMap.get, Option.map_eq_none_iff, List.find?_eq_none]
  intro entry mem same
  exact absent (List.mem_map.mpr ⟨entry, mem, of_decide_eq_true same⟩)

/-- **An overlay.**  What is assigned wins, and the rest stays; the keys being distinct, the
order of the loop does not matter. -/
theorem EnvMap.get_assignAll {entries : EnvMap} (single : EnvMap.Single entries) (env : EnvMap)
    (key : String) :
    EnvMap.get key (EnvMap.assignAll entries env) =
      (EnvMap.get key entries).or (EnvMap.get key env) := by
  induction entries generalizing env with
  | nil => rfl
  | cons entry rest ih =>
    obtain ⟨new, single⟩ := List.nodup_cons.mp single
    show EnvMap.get key (EnvMap.assignAll rest (EnvMap.assign entry.1 entry.2 env)) = _
    rw [ih single, EnvMap.get_assign, EnvMap.get_cons]
    by_cases here : entry.1 = key
    · subst here
      rw [EnvMap.get_of_not_mem new, if_pos rfl, if_pos rfl]
      rfl
    · rw [if_neg (Ne.symm here), if_neg here]

theorem EnvMap.keys_assign (key value : String) (env : EnvMap) :
    (EnvMap.assign key value env).map Prod.fst =
      if key ∈ env.map Prod.fst then env.map Prod.fst else env.map Prod.fst ++ [key] := by
  induction env with
  | nil => rfl
  | cons entry rest ih =>
    unfold EnvMap.assign
    by_cases here : entry.1 = key
    · simp [here]
    · rw [if_neg here, List.map_cons, ih]
      have same : key ∈ (entry :: rest).map Prod.fst ↔ key ∈ rest.map Prod.fst := by
        rw [List.map_cons, List.mem_cons, or_iff_right (Ne.symm here)]
      by_cases inside : key ∈ rest.map Prod.fst
      · rw [if_pos inside, if_pos (same.mpr inside), List.map_cons]
      · rw [if_neg inside, if_neg (fun there => inside (same.mp there)), List.map_cons,
          List.cons_append]

theorem EnvMap.Single.assign {env : EnvMap} (single : EnvMap.Single env) (key value : String) :
    EnvMap.Single (EnvMap.assign key value env) := by
  unfold EnvMap.Single
  rw [EnvMap.keys_assign]
  split
  · exact single
  · next outside =>
    refine List.nodup_append.mpr ⟨single, List.nodup_singleton key, fun a mem b last same => ?_⟩
    rw [List.mem_singleton.mp last] at same
    exact outside (same ▸ mem)

theorem EnvMap.Single.assignAll {env : EnvMap} (single : EnvMap.Single env) (entries : EnvMap) :
    EnvMap.Single (EnvMap.assignAll entries env) := by
  induction entries generalizing env with
  | nil => exact single
  | cons entry rest ih => exact ih (EnvMap.Single.assign single entry.1 entry.2)

/-! ## The rows -/

/-- A row of `secrets`: one for each team, environment and key. -/
structure SecretRow where
  teamID : UUID
  environment : String
  key : String
  encryptedValue : List UInt8

instance : Keyed SecretRow (UUID × String × String) :=
  ⟨fun row => (row.teamID, row.environment, row.key)⟩

/-- A row of `app_env_vars`: one for each app, environment and key. -/
structure AppEnvVar where
  appID : UUID
  environmentID : UUID
  key : String
  encryptedValue : List UInt8

instance : Keyed AppEnvVar (UUID × UUID × String) :=
  ⟨fun row => (row.appID, row.environmentID, row.key)⟩

structure DatabaseLink where
  id : UUID
  databaseID : UUID
  appID : UUID
  envPrefix : String := "DATABASE"
  createdAt : Nat := 0
deriving DecidableEq

instance : Keyed DatabaseLink UUID := ⟨DatabaseLink.id⟩

/-- A row of `databases`, as far as a link reads it. -/
structure LinkedDatabase where
  id : UUID
  teamID : UUID
  name : String
  templateSlug : String
  dnsRecord : Option String := none
  containerName : String
  port : Int
deriving DecidableEq

instance : Keyed LinkedDatabase UUID := ⟨LinkedDatabase.id⟩

/-- What the variables of a deploy are read from.  `decrypt` is `crypto.Decrypt` under the master
key, by its context; `connStringFmt` is the template registry. -/
structure EnvStore where
  decrypt : String → List UInt8 → Option String
  connStringFmt : String → Option String
  secrets : Table SecretRow := .empty
  appEnvVars : Table AppEnvVar := .empty
  links : Table DatabaseLink := .empty
  databases : Table LinkedDatabase := .empty

namespace EnvStore

variable (s : EnvStore)

/-! ### Team secrets -/

/-- `encryptionContext` of the secrets. -/
def secretContext (teamID : UUID) : String := "secret:" ++ teamID.text

/-- The keys of `ListSecrets`. -/
def listSecrets (teamID : UUID) (environment : String) : List String :=
  ((s.secrets.rows.filter fun row =>
    row.teamID = teamID && row.environment = environment).map SecretRow.key).insertionSort (· ≤ ·)

def getSecretByKey (teamID : UUID) (environment key : String) : Option SecretRow :=
  s.secrets.find? (teamID, environment, key)

/-- The loop of `BulkResolve`. -/
def bulkResolve (teamID : UUID) (environment : String) : List String → EnvMap → Except String EnvMap
  | [], result => .ok result
  | key :: rest, result =>
    match s.getSecretByKey teamID environment key with
    | none => .error ("get secret " ++ key)
    | some secret =>
      match s.decrypt (secretContext teamID) secret.encryptedValue with
      | none => .error ("decrypt secret " ++ key)
      | some plaintext =>
        bulkResolve teamID environment rest (EnvMap.assign key plaintext result)

/-! ### App variables -/

/-- `encryptionContext` of the app variables. -/
def appEnvContext (appID : UUID) : String := "appenv:" ++ appID.text

def listAppEnvVarsWithValues (appID envID : UUID) : List AppEnvVar :=
  (s.appEnvVars.rows.filter fun row =>
    row.appID = appID && row.environmentID = envID).insertionSort fun a b => a.key ≤ b.key

/-- The loop of `ResolveForDeploy`. -/
def resolveRows (appID : UUID) : List AppEnvVar → EnvMap → Except String EnvMap
  | [], result => .ok result
  | row :: rest, result =>
    match s.decrypt (appEnvContext appID) row.encryptedValue with
    | none => .error ("decrypt env var " ++ row.key)
    | some plaintext => resolveRows appID rest (EnvMap.assign row.key plaintext result)

def resolveForDeploy (appID envID : UUID) : Except String EnvMap :=
  s.resolveRows appID (s.listAppEnvVarsWithValues appID envID) []

/-! ### Database links -/

def listDatabaseLinksByApp (appID : UUID) : List DatabaseLink :=
  (s.links.rows.filter fun link => link.appID = appID).insertionSort
    fun a b => b.createdAt ≤ a.createdAt

end EnvStore

/-- `strings.ReplaceAll` for a text that is not empty; the number bounds the steps. -/
def replaceChars (old new : List Char) : Nat → List Char → List Char
  | 0, cs => cs
  | _ + 1, [] => []
  | n + 1, c :: cs =>
    if old.isPrefixOf (c :: cs) then new ++ replaceChars old new n ((c :: cs).drop old.length)
    else c :: replaceChars old new n cs

def replaceAll (s old new : String) : String :=
  String.ofList (replaceChars old.toList new.toList s.toList.length s.toList)

def connString (fmt password host : String) (d : LinkedDatabase) : String :=
  let connStr := replaceAll fmt "\x7buser\x7d" "app_user"
  let connStr := replaceAll connStr "\x7bpassword\x7d" password
  let connStr := replaceAll connStr "\x7broot_password\x7d" password
  let connStr := replaceAll connStr "\x7bhost\x7d" host
  let connStr := replaceAll connStr "\x7bport\x7d" (toString d.port)
  replaceAll connStr "\x7bdbname\x7d" d.name

def linkHost (d : LinkedDatabase) : String :=
  if d.dnsRecord.getD "" = "" then d.containerName else d.dnsRecord.getD ""

def linkPrefix (link : DatabaseLink) : String :=
  if trimSpace link.envPrefix = "" then "DATABASE" else trimSpace link.envPrefix

/-- The six variables of a link whose database, template and password are found. -/
def linkVars (fmt password : String) (d : LinkedDatabase) (link : DatabaseLink) : EnvMap :=
  [(linkPrefix link ++ "_URL", connString fmt password (linkHost d) d),
   (linkPrefix link ++ "_HOST", linkHost d),
   (linkPrefix link ++ "_PORT", toString d.port),
   (linkPrefix link ++ "_USER", "app_user"),
   (linkPrefix link ++ "_PASSWORD", password),
   (linkPrefix link ++ "_NAME", d.name)]

namespace EnvStore

variable (s : EnvStore)

/-- What one link assigns; a link that cannot be resolved is skipped. -/
def linkEnv (link : DatabaseLink) : EnvMap :=
  match s.databases.find? link.databaseID with
  | none => []
  | some d =>
    match s.connStringFmt d.templateSlug with
    | none => []
    | some fmt =>
      match s.bulkResolve d.teamID ("database:" ++ d.name) ["APP_PASSWORD"] [] with
      | .error _ => []
      | .ok resolved => linkVars fmt ((EnvMap.get "APP_PASSWORD" resolved).getD "") d link

def buildEnvForApp (appID : UUID) : EnvMap :=
  (s.listDatabaseLinksByApp appID).foldl (fun out link => EnvMap.assignAll (s.linkEnv link) out) []

/-! ## The two merges -/

/-- The environment of `TriggerDeploy`. -/
def triggerEnv (appID envID teamID : UUID) (slug : String) : EnvMap :=
  let keys := s.listSecrets teamID slug
  let envVars : EnvMap :=
    if keys = [] then []
    else
      match s.bulkResolve teamID slug keys [] with
      | .ok resolved => resolved
      | .error _ => []
  let envVars :=
    match s.resolveForDeploy appID envID with
    | .error _ => envVars
    | .ok appEnv => EnvMap.assignAll appEnv envVars
  EnvMap.assignAll (s.buildEnvForApp appID) envVars

/-- `ResolveBuildEnv`, the BuildArgs of the build command. -/
def resolveBuildEnv (w : World) (app : App) (envID teamID : UUID) : EnvMap :=
  match w.environments.find? envID with
  | none => []
  | some envRow =>
    let keys := s.listSecrets teamID envRow.slug
    let env : EnvMap :=
      if keys = [] then []
      else
        match s.bulkResolve teamID envRow.slug keys [] with
        | .ok resolved => resolved
        | .error _ => []
    match s.resolveForDeploy app.id envID with
    | .ok appEnv => EnvMap.assignAll appEnv env
    | .error _ => env

/-! ## The rows behind a value -/

def secretValue (teamID : UUID) (slug key : String) : Option String :=
  (s.getSecretByKey teamID slug key).bind fun secret =>
    s.decrypt (secretContext teamID) secret.encryptedValue

def appVarValue (appID envID : UUID) (key : String) : Option String :=
  (s.appEnvVars.find? (appID, envID, key)).bind fun row =>
    s.decrypt (appEnvContext appID) row.encryptedValue

/-- The variable of the links: of several links that define it, that of the oldest. -/
def linkValue (appID : UUID) (key : String) : Option String :=
  (s.listDatabaseLinksByApp appID).reverse.findSome? fun link => EnvMap.get key (s.linkEnv link)

/-- The secrets and the app variables can be resolved. -/
structure Resolves (appID envID teamID : UUID) (slug : String) : Prop where
  secrets : ∃ resolved, s.bulkResolve teamID slug (s.listSecrets teamID slug) [] = .ok resolved
  vars : ∃ resolved, s.resolveForDeploy appID envID = .ok resolved

/-! ### What the resolvers answer -/

variable {s}

theorem mem_listSecrets {teamID : UUID} {slug key : String} :
    key ∈ s.listSecrets teamID slug ↔ (s.getSecretByKey teamID slug key).isSome := by
  unfold listSecrets getSecretByKey
  rw [List.mem_insertionSort, List.mem_map]
  constructor
  · rintro ⟨row, mem, rfl⟩
    obtain ⟨there, meets⟩ := List.mem_filter.mp mem
    obtain ⟨rfl, rfl⟩ : row.teamID = teamID ∧ row.environment = slug := by simpa using meets
    rw [show s.secrets.find? (row.teamID, row.environment, row.key) = some row from
      Table.find?_self there]
    rfl
  · intro found
    obtain ⟨row, here⟩ := Option.isSome_iff_exists.mp found
    obtain ⟨there, keyed⟩ := Table.find?_eq_some_iff.mp here
    cases keyed
    exact ⟨row, List.mem_filter.mpr ⟨there, by simp⟩, rfl⟩

/-- `BulkResolve` keeps a map a map, and answers for the keys it is asked. -/
theorem bulkResolve_ok {teamID : UUID} {slug : String} {keys : List String} {result m : EnvMap}
    (ok : s.bulkResolve teamID slug keys result = .ok m) (single : EnvMap.Single result) :
    EnvMap.Single m ∧ ∀ key, EnvMap.get key m =
      if key ∈ keys then s.secretValue teamID slug key else EnvMap.get key result := by
  induction keys generalizing result with
  | nil =>
    cases ok
    exact ⟨single, fun key => rfl⟩
  | cons k rest ih =>
    unfold bulkResolve at ok
    cases found : s.getSecretByKey teamID slug k with
    | none =>
      rw [found] at ok
      cases ok
    | some secret =>
      rw [found] at ok
      dsimp only at ok
      cases opened : s.decrypt (secretContext teamID) secret.encryptedValue with
      | none =>
        rw [opened] at ok
        cases ok
      | some plaintext =>
        rw [opened] at ok
        have value : s.secretValue teamID slug k = some plaintext := by
          rw [secretValue, found, Option.bind_some, opened]
        obtain ⟨kept, gets⟩ := ih ok (EnvMap.Single.assign single k plaintext)
        refine ⟨kept, fun key => ?_⟩
        rw [gets, EnvMap.get_assign]
        by_cases later : key ∈ rest
        · rw [if_pos later, if_pos (List.mem_cons_of_mem k later)]
        · rw [if_neg later]
          by_cases here : key = k
          · subst here
            rw [if_pos rfl, if_pos List.mem_cons_self, value]
          · rw [if_neg here, if_neg]
            rw [List.mem_cons, not_or]
            exact ⟨here, later⟩

theorem bulkResolve_listed {teamID : UUID} {slug : String} {m : EnvMap}
    (ok : s.bulkResolve teamID slug (s.listSecrets teamID slug) [] = .ok m) (key : String) :
    EnvMap.get key m = s.secretValue teamID slug key := by
  rw [(bulkResolve_ok ok List.nodup_nil).2]
  by_cases listed : key ∈ s.listSecrets teamID slug
  · rw [if_pos listed]
  · rw [if_neg listed, secretValue]
    rw [mem_listSecrets, Option.not_isSome_iff_eq_none] at listed
    rw [listed]
    rfl

/-- The team secrets, as both merges start with them. -/
theorem get_teamSecrets {teamID : UUID} {slug : String} {m : EnvMap}
    (ok : s.bulkResolve teamID slug (s.listSecrets teamID slug) [] = .ok m) (key : String) :
    EnvMap.get key (if s.listSecrets teamID slug = [] then [] else
        match s.bulkResolve teamID slug (s.listSecrets teamID slug) [] with
        | .ok resolved => resolved
        | .error _ => []) = s.secretValue teamID slug key := by
  by_cases empty : s.listSecrets teamID slug = []
  · rw [if_pos empty]
    rw [empty] at ok
    cases ok
    exact bulkResolve_listed (s := s) (by rw [empty]; rfl) key
  · rw [if_neg empty, ok]
    exact bulkResolve_listed ok key

theorem resolveRows_ok {appID envID : UUID} {rows : List AppEnvVar} {result m : EnvMap}
    (ok : s.resolveRows appID rows result = .ok m) (single : EnvMap.Single result)
    (ofEnv : ∀ row ∈ rows, row ∈ s.appEnvVars ∧ row.appID = appID ∧ row.environmentID = envID) :
    EnvMap.Single m ∧ ∀ key, EnvMap.get key m =
      if key ∈ rows.map AppEnvVar.key then s.appVarValue appID envID key
      else EnvMap.get key result := by
  induction rows generalizing result with
  | nil =>
    cases ok
    exact ⟨single, fun key => rfl⟩
  | cons row rest ih =>
    unfold resolveRows at ok
    cases opened : s.decrypt (appEnvContext appID) row.encryptedValue with
    | none =>
      rw [opened] at ok
      cases ok
    | some plaintext =>
      rw [opened] at ok
      have value : s.appVarValue appID envID row.key = some plaintext := by
        obtain ⟨there, rfl, rfl⟩ := ofEnv row List.mem_cons_self
        rw [appVarValue, show s.appEnvVars.find? (row.appID, row.environmentID, row.key) =
          some row from Table.find?_self there, Option.bind_some, opened]
      obtain ⟨kept, gets⟩ := ih ok (EnvMap.Single.assign single row.key plaintext)
        fun r mem => ofEnv r (List.mem_cons_of_mem row mem)
      refine ⟨kept, fun key => ?_⟩
      rw [gets, EnvMap.get_assign, List.map_cons]
      by_cases later : key ∈ rest.map AppEnvVar.key
      · rw [if_pos later, if_pos (List.mem_cons_of_mem _ later)]
      · rw [if_neg later]
        by_cases here : key = row.key
        · subst here
          rw [if_pos rfl, if_pos List.mem_cons_self, value]
        · rw [if_neg here, if_neg]
          rw [List.mem_cons, not_or]
          exact ⟨here, later⟩

theorem resolveForDeploy_ok {appID envID : UUID} {m : EnvMap}
    (ok : s.resolveForDeploy appID envID = .ok m) :
    EnvMap.Single m ∧ ∀ key, EnvMap.get key m = s.appVarValue appID envID key := by
  have listed : ∀ row ∈ s.listAppEnvVarsWithValues appID envID,
      row ∈ s.appEnvVars ∧ row.appID = appID ∧ row.environmentID = envID := by
    intro row mem
    obtain ⟨there, meets⟩ := List.mem_filter.mp ((List.mem_insertionSort _).mp mem)
    exact ⟨there, by simpa using meets⟩
  obtain ⟨single, gets⟩ := resolveRows_ok ok List.nodup_nil listed
  refine ⟨single, fun key => ?_⟩
  rw [gets]
  split
  · rfl
  · next absent =>
    have nothing : s.appEnvVars.find? (appID, envID, key) = none := by
      rw [Table.find?_eq_none_iff]
      intro row there keyed
      cases keyed
      refine absent (List.mem_map.mpr ⟨row, ?_, rfl⟩)
      exact (List.mem_insertionSort _).mpr (List.mem_filter.mpr ⟨there, by simp⟩)
    rw [appVarValue, nothing]
    rfl

theorem single_linkEnv (s : EnvStore) (link : DatabaseLink) : EnvMap.Single (s.linkEnv link) := by
  have distinct : ∀ start : String,
      (["_URL", "_HOST", "_PORT", "_USER", "_PASSWORD", "_NAME"].map (start ++ ·)).Nodup := by
    intro start
    refine List.Nodup.map (fun a b same => ?_) (by decide)
    exact String.toList_inj.mp (by simpa using congrArg String.toList same)
  unfold linkEnv
  cases s.databases.find? link.databaseID with
  | none => exact List.nodup_nil
  | some d =>
    dsimp only
    cases s.connStringFmt d.templateSlug with
    | none => exact List.nodup_nil
    | some fmt =>
      dsimp only
      cases s.bulkResolve d.teamID ("database:" ++ d.name) ["APP_PASSWORD"] [] with
      | error _ => exact List.nodup_nil
      | ok resolved => exact distinct (linkPrefix link)

theorem get_overlays (s : EnvStore) (links : List DatabaseLink) (env : EnvMap) (key : String) :
    EnvMap.get key (links.foldl (fun out link => EnvMap.assignAll (s.linkEnv link) out) env) =
      (links.reverse.findSome? fun link => EnvMap.get key (s.linkEnv link)).or
        (EnvMap.get key env) := by
  induction links generalizing env with
  | nil => rfl
  | cons link rest ih =>
    have one : ([link].findSome? fun link => EnvMap.get key (s.linkEnv link)) =
        EnvMap.get key (s.linkEnv link) := by
      rw [List.findSome?_cons]
      cases EnvMap.get key (s.linkEnv link) <;> rfl
    rw [List.foldl_cons, ih, EnvMap.get_assignAll (single_linkEnv s link), List.reverse_cons,
      List.findSome?_append, one, Option.or_assoc]

theorem buildEnvForApp_ok (s : EnvStore) (appID : UUID) :
    EnvMap.Single (s.buildEnvForApp appID) ∧
      ∀ key, EnvMap.get key (s.buildEnvForApp appID) = s.linkValue appID key := by
  refine ⟨?_, fun key => ?_⟩
  · unfold buildEnvForApp
    have kept : ∀ (links : List DatabaseLink) (env : EnvMap), EnvMap.Single env →
        EnvMap.Single (links.foldl (fun out link => EnvMap.assignAll (s.linkEnv link) out) env) := by
      intro links
      induction links with
      | nil => exact fun _ single => single
      | cons link rest ih =>
        exact fun env single => ih _ (EnvMap.Single.assignAll single (s.linkEnv link))
    exact kept _ [] List.nodup_nil
  · unfold buildEnvForApp linkValue
    rw [get_overlays]
    exact Option.or_none

/-- **The merge of a deploy**: a link wins over an app variable, which wins over a team secret. -/
theorem get_triggerEnv {appID envID teamID : UUID} {slug : String}
    (resolves : s.Resolves appID envID teamID slug) (key : String) :
    EnvMap.get key (s.triggerEnv appID envID teamID slug) =
      (s.linkValue appID key).or
        ((s.appVarValue appID envID key).or (s.secretValue teamID slug key)) := by
  obtain ⟨secrets, resolved⟩ := resolves.secrets
  obtain ⟨vars, fine⟩ := resolves.vars
  obtain ⟨singleVars, getVars⟩ := resolveForDeploy_ok fine
  obtain ⟨singleLinks, getLinks⟩ := buildEnvForApp_ok s appID
  unfold triggerEnv
  rw [fine]
  dsimp only
  rw [EnvMap.get_assignAll singleLinks, EnvMap.get_assignAll singleVars, getLinks, getVars,
    get_teamSecrets resolved]

/-- **The merge of a build**: an app variable wins over a team secret. -/
theorem get_resolveBuildEnv {w : World} {app : App} {envID teamID : UUID} {env : Environment}
    (found : w.environments.find? envID = some env)
    (resolves : s.Resolves app.id envID teamID env.slug) (key : String) :
    EnvMap.get key (s.resolveBuildEnv w app envID teamID) =
      (s.appVarValue app.id envID key).or (s.secretValue teamID env.slug key) := by
  obtain ⟨secrets, resolved⟩ := resolves.secrets
  obtain ⟨vars, fine⟩ := resolves.vars
  obtain ⟨singleVars, getVars⟩ := resolveForDeploy_ok fine
  unfold resolveBuildEnv
  rw [found, fine]
  dsimp only
  rw [EnvMap.get_assignAll singleVars, getVars, get_teamSecrets resolved]

end EnvStore

/-! ## The command -/

/-- The map of the deploy is there and stays as it is. -/
def SameMap (deployID : UUID) (w w' : World) : Prop :=
  Mapped w deployID → Mapped w' deployID ∧ envOf w' deployID = envOf w deployID

/-- The deploy commands of a step satisfy the predicate. -/
def SendsOnly (P : DeployCommand → Prop) (w w' : World) : Prop :=
  ∃ new, w'.sent = w.sent ++ new ∧ ∀ cmd ∈ commandsOf new, P cmd

/-- The map of the deploy is there and is this one. -/
def HoldsMap (deployID : UUID) (env : EnvMap) (w : World) : Prop :=
  Mapped w deployID ∧ envOf w deployID = env

section Command

variable {deployID : UUID} {env : EnvMap} {w w' : World} {P : DeployCommand → Prop}

theorem SameMap.refl (w : World) : SameMap deployID w w := fun mapped => ⟨mapped, rfl⟩

theorem SameMap.of_envVars (same : w'.envVars = w.envVars) : SameMap deployID w w' := by
  rintro ⟨env, mem⟩
  exact ⟨⟨env, same ▸ mem⟩, by rw [envOf, envOf, same]⟩

theorem HoldsMap.stable (holds : HoldsMap deployID env w) (same : SameMap deployID w w') :
    HoldsMap deployID env w' :=
  ⟨(same holds.1).1, (same holds.1).2.trans holds.2⟩

theorem SendsOnly.of_sent (same : w'.sent = w.sent) : SendsOnly P w w' :=
  ⟨[], by rw [same, List.append_nil], fun _ mem => by cases mem⟩

theorem allocateServerPort_envVars (w : World) (serverID targetID : UUID) :
    (w.allocateServerPort serverID targetID).1.envVars = w.envVars := by
  obtain full | ⟨port, allocated⟩ := w.allocateServerPort_cases serverID targetID
  · rw [full]
  · rw [allocated]

theorem failTarget_safe (targetID : UUID) (msg : String) (w : World) :
    (failTarget targetID msg).Safe (SameMap deployID) (SendsOnly P) (fun _ _ => True) w := by
  refine fun t _ => ⟨SendsOnly.of_sent ?_, fun _ _ => trivial⟩
  unfold World.updateDeploymentTargetStatus
  split <;> rfl

theorem assigns_safe (entries : EnvMap) (holds : HoldsMap deployID env w) :
    (forEach entries fun entry => exec (assignEnv deployID entry.1 entry.2)).Safe
      (SameMap deployID) (SendsOnly P)
      (fun _ t => HoldsMap deployID (EnvMap.assignAll entries env) t) w := by
  induction entries generalizing env w with
  | nil => exact fun t same => holds.stable same
  | cons entry rest ih =>
    refine fun t same => ⟨SendsOnly.of_sent rfl, ih ?_⟩
    obtain ⟨mapped, here⟩ := holds.stable same
    exact ⟨mapped.assign entry.1 entry.2, by rw [envOf_assignEnv mapped, here]⟩

theorem sendDeployCommand_safe {deployment : Deployment} (target : DeploymentTarget) (build : Build)
    (app : App) (member : ClusterMember) (platform : String) (labels : EnvMap)
    (holds : HoldsMap deployment.id env w)
    (carries : P (deployCommand deployment target build app platform labels env)) :
    (sendDeployCommand deployment target build app member platform labels).Safe
      (SameMap deployment.id) (SendsOnly P) (fun _ _ => True) w := by
  refine Prog.Safe.bind_atomic (fun t same => ?_) fun t _ => ?_
  · rw [(holds.stable same).2]
    obtain ⟨err, failed⟩ | sent := sendToAgent_cases member.serverID.text
      (.deployCommand (deployCommand deployment target build app platform labels env)) t
    · rw [failed]
      exact SendsOnly.of_sent rfl
    · rw [sent]
      refine ⟨_, rfl, fun cmd mem => ?_⟩
      rw [show cmd = deployCommand deployment target build app platform labels env from
        List.mem_singleton.mp mem]
      exact carries
  · split
    · exact fun _ _ => trivial
    · exact failTarget_safe _ _ _

/-- **What the goroutine of the only target sends**: the map of the launch, under the platform
variables. -/
theorem dispatchDeploy_safe (dns : DnsConfig) {deployment : Deployment} (target : DeploymentTarget)
    (build : Build) (app : App) (project : Project) (member : ClusterMember)
    (holds : HoldsMap deployment.id env w)
    (carries : ∀ platform labels, P (deployCommand deployment target build app platform labels
      (EnvMap.assignAll (platformEnv deployment build app project member platform) env))) :
    (dispatchDeploy dns deployment target build app project member).Safe
      (SameMap deployment.id) (SendsOnly P) (fun _ _ => True) w := by
  have reads : ∀ t : World, SendsOnly P t t := fun t => SendsOnly.of_sent rfl
  refine Prog.Safe.bind_query reads fun t same => ?_
  have holds := holds.stable same
  split
  · refine Prog.Safe.bind_query reads fun t same => ?_
    have holds := holds.stable same
    refine Prog.Safe.bind_query reads fun t same => ?_
    have holds := holds.stable same
    refine Prog.Safe.bind_query reads fun t same => ?_
    have holds := holds.stable same
    refine Prog.Safe.bind_exec (fun _ _ => SendsOnly.of_sent rfl) fun t same => ?_
    have holds := holds.stable same
    refine Prog.Safe.bind SameMap.refl (assigns_safe _ holds) fun _ t holds => ?_
    split
    · refine Prog.Safe.bind_atomic (fun t _ => SendsOnly.of_sent ?_) fun t same => ?_
      · obtain full | ⟨port, allocated⟩ := t.allocateServerPort_cases member.serverID target.id
        · rw [full]
        · rw [allocated]
      · have holds := (holds.stable same).stable
          (SameMap.of_envVars (allocateServerPort_envVars t member.serverID target.id))
        split
        · refine Prog.Safe.bind_exec (fun _ _ => SendsOnly.of_sent rfl) fun t same => ?_
          exact sendDeployCommand_safe target build app member _ _ (holds.stable same) (carries _ _)
        · exact failTarget_safe _ _ _
    · exact sendDeployCommand_safe target build app member _ _ holds (carries _ _)
  · exact failTarget_safe _ _ _

end Command

/-- The variables of a command: a platform variable under its reserved name; else the links', else
the app's, else the team's value of that key; and what the build had where no link comes in. -/
structure Precedence (s : EnvStore) (w : World) (launch : Launch) (slug : String)
    (deployment : Deployment) (member : ClusterMember) (cmd : DeployCommand) : Prop where
  value : ∃ platform, cmd.traefik.domains.head? = some platform ∧ ∀ key,
    EnvMap.get key cmd.env =
      (EnvMap.get key (platformEnv deployment launch.build launch.app launch.project member
          platform)).or
        ((s.linkValue launch.app.id key).or
          ((s.appVarValue launch.app.id launch.environmentID key).or
            (s.secretValue launch.project.teamID slug key)))
  build : ∀ key, key ∉ platformKeys → s.linkValue launch.app.id key = none →
    EnvMap.get key cmd.env = EnvMap.get key
      (s.resolveBuildEnv w launch.app launch.environmentID launch.project.teamID)

/-- The reserved keys are those of the platform variables. -/
theorem get_platformEnv_of_not_reserved {deployment : Deployment} {build : Build} {app : App}
    {project : Project} {member : ClusterMember} {platform key : String}
    (free : key ∉ platformKeys) :
    EnvMap.get key (platformEnv deployment build app project member platform) = none :=
  EnvMap.get_of_not_mem free

/-- The only goroutine of a launch is the dispatch of its target, and the launch leaves the map
alone. -/
theorem launchTargets_single (launch : Launch) (deployment : Deployment) (targetID : UUID)
    (scheduled : ScheduledTarget) :
    (launchTargets launch deployment [(targetID, scheduled)]).Every fun effect => ∀ w,
      SameMap deployment.id w (effect w) ∧ ((effect w).started = w.started ∨
        ∃ target, (effect w).started = w.started ++ [.dispatchDeploy deployment target launch.build
          launch.app launch.project scheduled.member]) := by
  unfold launchTargets
  refine Prog.Every.bind ((Prog.every_atomic _).mpr fun w => ?_) fun target => ?_
  · unfold World.createDeploymentTarget
    dsimp only
    split
    · exact ⟨SameMap.refl w, .inl rfl⟩
    · split
      · exact ⟨SameMap.of_envVars rfl, .inl rfl⟩
      · exact ⟨SameMap.refl w, .inl rfl⟩
  · cases target with
    | none => trivial
    | some target =>
      refine Prog.Every.bind ((Prog.every_exec _).mpr fun w => ?_) fun _ => ?_
      · exact ⟨SameMap.of_envVars rfl, .inr ⟨target, rfl⟩⟩
      · exact Prog.Every.bind ((Prog.every_exec _).mpr fun w =>
          ⟨SameMap.of_envVars rfl, .inl rfl⟩) fun _ => trivial

theorem createLaunched_holds {launch : Launch} {w w' : World} {deployment : Deployment}
    (created : createLaunched launch w = (w', some deployment)) :
    HoldsMap deployment.id launch.env w' := by
  unfold createLaunched at created
  split at created
  · cases created
    refine ⟨⟨launch.env, List.mem_cons_self⟩, ?_⟩
    unfold envOf
    rw [List.find?_cons]
    simp
  · cases created

/-- **The precedence of a deploy with one target.** -/
theorem env_precedence (s : EnvStore) (dns : DnsConfig) (launch : Launch) (targetID : UUID)
    (scheduled : ScheduledTarget) (environment : Environment) {w w' : World}
    {deployment : Deployment} (single : launch.targets = [(targetID, scheduled)])
    (found : w.environments.find? launch.environmentID = some environment)
    (env : launch.env = s.triggerEnv launch.app.id launch.environmentID launch.project.teamID
      environment.slug)
    (resolves : s.Resolves launch.app.id launch.environmentID launch.project.teamID
      environment.slug)
    (created : createLaunched launch w = (w', some deployment)) :
    ((launchTargets launch deployment launch.targets).Every fun effect => ∀ v,
      SameMap deployment.id v (effect v) ∧ ((effect v).started = v.started ∨
        ∃ target, (effect v).started = v.started ++ [.dispatchDeploy deployment target launch.build
          launch.app launch.project scheduled.member])) ∧
    ∀ target, (dispatchDeploy dns deployment target launch.build launch.app launch.project
      scheduled.member).Safe (SameMap deployment.id)
        (SendsOnly (Precedence s w launch environment.slug deployment scheduled.member))
        (fun _ _ => True) w' := by
  rw [single]
  refine ⟨launchTargets_single launch deployment targetID scheduled, fun target => ?_⟩
  refine dispatchDeploy_safe dns target launch.build launch.app launch.project scheduled.member
    (createLaunched_holds created) fun platform labels => ?_
  have gets : ∀ key, EnvMap.get key (EnvMap.assignAll (platformEnv deployment launch.build
      launch.app launch.project scheduled.member platform) launch.env) =
        (EnvMap.get key (platformEnv deployment launch.build launch.app launch.project
          scheduled.member platform)).or ((s.linkValue launch.app.id key).or
            ((s.appVarValue launch.app.id launch.environmentID key).or
              (s.secretValue launch.project.teamID environment.slug key))) := by
    intro key
    have reserved : EnvMap.Single (platformEnv deployment launch.build launch.app launch.project
        scheduled.member platform) := platformKeys_nodup
    rw [EnvMap.get_assignAll reserved, env, EnvStore.get_triggerEnv resolves]
  refine ⟨⟨platform, ?_, gets⟩, fun key free unlinked => ?_⟩
  · show (deployDomains launch.app platform).head? = some platform
    unfold deployDomains
    split
    · split <;> rfl
    · rfl
  · show EnvMap.get key (EnvMap.assignAll _ launch.env) = _
    rw [gets, get_platformEnv_of_not_reserved free, unlinked,
      EnvStore.get_resolveBuildEnv found resolves]
    rfl

/-! ### A key in every source -/

/-- The team has a secret under two keys, the app overrides one of them, and a database is linked
under the prefix `DB`. -/
def linkedStore : EnvStore where
  decrypt context ciphertext :=
    [(("secret:" ++ UUID.text 11, [1]), "team"), (("appenv:" ++ UUID.text 20, [2]), "app"),
      (("secret:" ++ UUID.text 11, [3]), "pw")].lookup (context, ciphertext)
  connStringFmt slug := [("postgres", "postgres://\x7buser\x7d@\x7bhost\x7d")].lookup slug
  secrets := ⟨[⟨11, "production", "MODE", [1]⟩, ⟨11, "production", "REGION", [1]⟩,
    ⟨11, "production", "DB_USER", [1]⟩, ⟨11, "database:orders", "APP_PASSWORD", [3]⟩], by decide⟩
  appEnvVars := ⟨[⟨20, 40, "MODE", [2]⟩, ⟨20, 40, "PORT", [2]⟩], by decide⟩
  links := ⟨[{ id := 90, databaseID := 91, appID := 20, envPrefix := "DB" }], by decide⟩
  databases := ⟨[⟨91, 11, "orders", "postgres", none, "orders-1", 5432⟩], by decide⟩

def linkedWorld : World :=
  { twoServers with
    environments := .single { id := 40, projectID := 10, name := "Production", slug := "production" } }

def linkedLaunch : Launch :=
  { twoTargets with
    env := linkedStore.triggerEnv 20 40 11 "production"
    targets := [(81, ⟨{ serverID := 71, wireguardIp := "10.0.0.1" }, ""⟩)] }

def linkedDeployment : Deployment :=
  { id := 1, appID := 20, environmentID := 40, buildID := 30, replicasDesired := 1 }

theorem env_precedence_linked :
    (["MODE", "REGION", "DB_USER"].map fun key => EnvMap.get key linkedLaunch.env) =
        [some "app", some "team", some "app_user"] ∧
      ∀ target, (dispatchDeploy {} linkedDeployment target linkedLaunch.build linkedLaunch.app
        linkedLaunch.project { serverID := 71, wireguardIp := "10.0.0.1" }).Safe
          (SameMap linkedDeployment.id)
          (SendsOnly (Precedence linkedStore linkedWorld linkedLaunch "production" linkedDeployment
            { serverID := 71, wireguardIp := "10.0.0.1" }))
          (fun _ _ => True) (createLaunched linkedLaunch linkedWorld).1 := by
  refine ⟨by decide, ?_⟩
  have resolves : linkedStore.Resolves 20 40 11 "production" := by
    refine ⟨⟨[("DB_USER", "team"), ("MODE", "team"), ("REGION", "team")], ?_⟩,
      ⟨[("MODE", "app"), ("PORT", "app")], ?_⟩⟩
    · decide
    · decide
  exact (env_precedence linkedStore {} linkedLaunch 81
    ⟨{ serverID := 71, wireguardIp := "10.0.0.1" }, ""⟩
    { id := 40, projectID := 10, name := "Production", slug := "production" }
    rfl rfl rfl resolves rfl).2

end Nixway.Deploy
