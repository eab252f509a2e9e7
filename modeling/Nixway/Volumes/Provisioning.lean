/-
# Volumes.Provisioning -- what a Provision that fails leaves behind

The synchronous part of `Provision` of `internal/database/service.go`: the checks, the volume, the
two secrets and the row of the database, with `rollbackProvision`, `CreateDatabaseSecrets` and
`Delete` of `internal/secret`.  `Databases.provision` is the same request without the secrets and
with the goroutine it starts; here each statement on a secret is a step that may fail.

`all_or_nothing_iff` is the exact condition.  Behind the volume every failure undoes what is
there.  `Create` of the volume service inserts its row and may still fail: the placeholder path is
rewritten by a second statement and the row is read again by a third.  `Provision` then has no id
to roll back, and the row stays.
-/
import Nixway.Volumes.Placement
import Nixway.Secrets.Reveal

namespace Nixway.Volumes.Provisioning

open Nixway.Theory Nixway.Store
open Nixway.Theory.Prog (query exec atomic ignore)
open Nixway.Secrets (SecretStore encryptionContext)
open Nixway.Volumes.Databases

set_option autoImplicit false

/-! ## The secrets of a database -/

/-- The statements on the secrets. -/
inductive SecretStatement where
  | createSuper | createApp | cleanup | logSuper | deleteSuper | logApp | deleteApp
deriving DecidableEq

abbrev SecretFaults := SecretStatement → Bool

section Statements

variable (s : SecretStore)

/-- `CreateSecret`; a key is unique in an environment of a team. -/
def createSecret (secret : Secrets.Secret) : SecretStore × Option Secrets.Secret :=
  if s.secrets.rows.any fun other => other.teamID = secret.teamID ∧
      other.environment = secret.environment ∧ other.key = secret.key then
    (s, none)
  else
    match s.secrets.insert? secret with
    | none => (s, none)
    | some secrets => ({ s with secrets := secrets }, some secret)

/-- `DeleteSecret`; the rows of its log go with a secret. -/
def deleteSecret (id teamID : UUID) : SecretStore × Option Unit :=
  let secrets := s.secrets.deleteWhere fun secret => secret.id = id ∧ secret.teamID = teamID
  ({ s with
      secrets := secrets
      accessLog := s.accessLog.filter fun row => (secrets.find? row.secretID).isSome }, some ())

/-- `CreateSecretAccessLog` of `Delete`, for the system; the secret must be there. -/
def logDelete (id teamID : UUID) : SecretStore × Option Unit :=
  if (s.secrets.find? id).isNone then (s, none)
  else
    ({ s with accessLog := s.accessLog ++
        [{ secretID := id, teamID := teamID, actorID := none, actorType := "system",
           action := "delete", ipAddress := "" }] }, some ())

end Statements

/-- A statement on the secrets, unless it fails. -/
def sealing {β : Type} (fails : Bool) (g : SecretStore → SecretStore × Option β) :
    Prog SecretStore (Option β) :=
  atomic fun s => if fails then (s, none) else g s

section Secrets

variable (encrypt : String → String → Option (List UInt8)) (faults : SecretFaults)

/-- `Create` of the secret service, for no creator. -/
def create (statement : SecretStatement) (id teamID : UUID) (environment key plaintext : String) :
    Prog SecretStore (Option Secrets.Secret) := do
  let some ciphertext := encrypt plaintext (encryptionContext teamID)
    | return none
  sealing (faults statement) fun s => createSecret s
    { id := id, teamID := teamID, environment := environment, key := key,
      encryptedValue := ciphertext }

/-- `CreateDatabaseSecrets`. -/
def createDatabaseSecrets (superID appID teamID : UUID)
    (dbName superPassword appPassword : String) : Prog SecretStore (Option (UUID × UUID)) := do
  let environment := "database:" ++ dbName
  let some superSecret ← create encrypt faults .createSuper superID teamID environment
      "SUPERUSER_PASSWORD" superPassword
    | return none
  let some appSecret ← create encrypt faults .createApp appID teamID environment "APP_PASSWORD"
      appPassword
    | do
      let _ ← sealing (faults .cleanup) fun s => deleteSecret s superSecret.id teamID
      return none
  return some (superSecret.id, appSecret.id)

/-- `Delete` of the secret service: the log first, then the row. -/
def deleteLogged (log statement : SecretStatement) (id teamID : UUID) :
    Prog SecretStore (Option Unit) := do
  let _ ← sealing (faults log) fun s => logDelete s id teamID
  sealing (faults statement) fun s => deleteSecret s id teamID

end Secrets

/-! ## Provision -/

/-- The rows of the platform, and its secrets. -/
structure Estate where
  bound : BoundStore := {}
  secrets : SecretStore := {}

def onBound {β : Type} (p : Prog BoundStore β) : Prog Estate β :=
  p.within Estate.bound fun s t => { s with bound := t }

def onSecrets {β : Type} (p : Prog SecretStore β) : Prog Estate β :=
  p.within Estate.secrets fun s t => { s with secrets := t }

/-- The ids the database gives the rows; `gen_random_uuid` never gives `uuid.Nil`. -/
structure RowIDs where
  volume : UUID
  superSecret : UUID
  appSecret : UUID
  database : UUID
  volume_ne_nil : volume ≠ UUID.nil
  superSecret_ne_nil : superSecret ≠ UUID.nil
  appSecret_ne_nil : appSecret ≠ UUID.nil

/-- How a `Provision` fares: what fails, what the agent answers to the creation of the volume and
to its deletion, and what the random source gives. -/
structure Course where
  faults : DatabaseStatement → Bool := fun _ => false
  volumeFaults : Faults := fun _ => false
  secretFaults : SecretFaults := fun _ => false
  link : Link := {}
  undoLink : Link := {}
  suffix : Option String := some "4f2a9c"
  superPassword : Option String := some "hunter2"
  appPassword : Option String := some "swordfish"

namespace Course

variable (c : Course)

def fate : Fate := { faults := c.faults, volumeFaults := c.volumeFaults, link := c.link }

/-- The statements of the rollbacks succeed. -/
structure Undoes : Prop where
  getVolume : c.volumeFaults .getVolume = false
  deleteVolume : c.volumeFaults .deleteVolume = false
  cleanup : c.secretFaults .cleanup = false
  deleteSuper : c.secretFaults .deleteSuper = false
  deleteApp : c.secretFaults .deleteApp = false

end Course

inductive ProvisionError where
  | refused (error : DatabaseError)
  | generateName | generateSuperuserPassword | generateAppPassword
  | createVolume | storeCredentials | createDatabase
deriving DecidableEq

/-- What `Provision` knows when it turns to its rows. -/
structure Prepared where
  tmpl : Template
  version : Version
  project : Project
  serverID : UUID
  name : String
  superPassword : String
  appPassword : String

/-- The name asked for, or the template's with a random suffix. -/
def provisionName (req : ProvisionRequest) (ids : RowIDs) (suffix : Option String) :
    Option String :=
  if trimSpace req.name = "" then
    suffix.map fun suffix => databaseName req ⟨ids.volume, ids.database, suffix⟩
  else some (trimSpace req.name)

section Provision

variable (encrypt : String → String → Option (List UInt8)) (templates : Registry) (c : Course)
  (ids : RowIDs) (req : ProvisionRequest)

/-- `Provision` before its rows. -/
def prepare : Prog BoundStore (Except ProvisionError Prepared) := do
  let some tmpl := templates req.templateSlug
    | return .error (.refused .templateNotFound)
  let some version := getVersion templates req.templateSlug req.version
    | return .error (.refused .versionNotFound)
  let some project ← look (c.faults .getProject) fun t => t.getProject req.projectID
    | return .error (.refused .getProject)
  if project.teamID ≠ req.teamID then
    return .error (.refused .otherTeam)
  match ← resolvePlacement c.fate req.teamID req.clusterID req.serverID with
  | .error error => return .error (.refused error)
  | .ok serverID =>
    let some name := provisionName req ids c.suffix
      | return .error .generateName
    let some superPassword := c.superPassword
      | return .error .generateSuperuserPassword
    let some appPassword := c.appPassword
      | return .error .generateAppPassword
    return .ok ⟨tmpl, version, project, serverID, name, superPassword, appPassword⟩

/-- What a rollback does for an id that is not `uuid.Nil`. -/
def unlessNil (id : UUID) (undo : Prog Estate Unit) : Prog Estate Unit :=
  if id ≠ UUID.nil then undo else pure ()

/-- `rollbackProvision`; each failure is only logged. -/
def rollbackProvision (teamID volID superSecretID appSecretID : UUID) : Prog Estate Unit := do
  unlessNil volID <| ignore <| onBound <| onVolumes <|
    Volumes.delete c.volumeFaults (dispatchTo c.undoLink) teamID volID
  unlessNil superSecretID <| ignore <| onSecrets <|
    deleteLogged c.secretFaults .logSuper .deleteSuper superSecretID teamID
  unlessNil appSecretID <| ignore <| onSecrets <|
    deleteLogged c.secretFaults .logApp .deleteApp appSecretID teamID

/-- `Provision` behind the volume. -/
def store (p : Prepared) (vol : Volume) : Prog Estate (Except ProvisionError Database) := do
  let some (superSecretID, appSecretID) ← onSecrets
      (createDatabaseSecrets encrypt c.secretFaults ids.superSecret ids.appSecret req.teamID
        p.name p.superPassword p.appPassword)
    | do
      rollbackProvision c req.teamID vol.id UUID.nil UUID.nil
      return .error .storeCredentials
  let row := req.row ⟨ids.volume, ids.database, ""⟩ p.serverID vol p.name
    (databaseContainer p.project p.name)
  let some created ← onBound (act (c.faults .createDatabase) fun t => t.createDatabase row)
    | do
      rollbackProvision c req.teamID vol.id superSecretID appSecretID
      return .error .createDatabase
  return .ok created

/-- `Provision`, up to the goroutine it starts. -/
def provision : Prog Estate (Except ProvisionError Database) := do
  match ← onBound (prepare templates c ids req) with
  | .error error => return .error error
  | .ok p =>
    match ← onBound (onVolumes (Volumes.create c.volumeFaults (dispatchTo c.link) ids.volume
        (req.volume p.serverID p.tmpl p.name))) with
    | .error _ => return .error .createVolume
    | .ok vol => store encrypt c ids req p vol

end Provision

/-! ## Running the parts -/

@[simp] theorem run_onBound {β : Type} (p : Prog BoundStore β) (s : Estate) :
    (onBound p).run s = ({ s with bound := (p.run s.bound).1 }, (p.run s.bound).2) :=
  Prog.run_within_eq (by intros; rfl) (by intros; rfl) (by intros; rfl) p s

@[simp] theorem run_onSecrets {β : Type} (p : Prog SecretStore β) (s : Estate) :
    (onSecrets p).run s = ({ s with secrets := (p.run s.secrets).1 }, (p.run s.secrets).2) :=
  Prog.run_within_eq (by intros; rfl) (by intros; rfl) (by intros; rfl) p s

theorem run_onVolumes {β : Type} (p : Prog (VolumeStore Sent) β) (t : BoundStore) :
    ((onVolumes p).run t).1.vols = (p.run t.vols).1 ∧
      ((onVolumes p).run t).2 = (p.run t.vols).2 :=
  Prog.run_within (by intros; rfl) p t

/-- What the constraints of `databases` compare. -/
def keysOf (t : BoundStore) : List (UUID × UUID × String) :=
  t.databases.rows.map fun d => (d.id, d.projectID, d.name)

/-- A request of the volume service inserts and deletes no database, and renames none. -/
theorem keysOf_onVolumes {β : Type} (p : Prog (VolumeStore Sent) β) (t : BoundStore) :
    keysOf ((onVolumes p).run t).1 = keysOf t := by
  refine Prog.Every.run_unchanged keysOf ?_ t
  refine Prog.Every.within (fun effect _ t => ?_) p.every_true
  dsimp only [keysOf, BoundStore.putVolumes, Table.updateWhere]
  rw [List.map_map]
  refine List.map_congr_left fun d _ => ?_
  dsimp only [Function.comp_apply, BoundStore.setNull]
  rw [if_pos rfl]
  split <;> rfl

theorem find?_database_iff {t : BoundStore} {id : UUID} :
    t.databases.find? id = none ↔ ∀ key ∈ keysOf t, key.1 ≠ id := by
  rw [Table.find?_eq_none_iff, keysOf, List.forall_mem_map]
  rfl

theorem databases_onVolumes {β : Type} (p : Prog (VolumeStore Sent) β) (t : BoundStore)
    (id : UUID) :
    ((onVolumes p).run t).1.databases.find? id = none ↔ t.databases.find? id = none := by
  rw [find?_database_iff, find?_database_iff, keysOf_onVolumes]

/-! ## The row of a volume -/

/-- Beside the volumes from before there is one of the team, which no container uses. -/
structure Held (s s' : VolumeStore Sent) (id teamID : UUID) : Prop where
  row : ∃ vol, s'.getVolume id teamID = some vol ∧ vol.status ≠ .attached
  others : ∀ k, k ≠ id → s'.volumes.find? k = s.volumes.find? k

section Volume

variable {s s' : VolumeStore Sent} {id teamID : UUID}

theorem Held.updateWhere (held : Held s s' id teamID) {p : Volume → Bool} {f : Volume → Volume}
    {keeps : ∀ vol, (f vol).id = vol.id} (own : ∀ vol, p vol = true → vol.id = id)
    (team : ∀ vol, (f vol).teamID = vol.teamID)
    (free : ∀ vol, vol.status ≠ .attached → (f vol).status ≠ .attached) :
    Held s { s' with volumes := s'.volumes.updateWhere p f keeps } id teamID := by
  obtain ⟨⟨vol, found, unattached⟩, others⟩ := held
  obtain ⟨found, mine⟩ := VolumeStore.getVolume_eq_some_iff.mp found
  refine ⟨⟨if p vol then f vol else vol, ?_, ?_⟩, fun k other => ?_⟩
  · refine VolumeStore.getVolume_eq_some_iff.mpr ⟨?_, ?_⟩
    · show (s'.volumes.updateWhere p f keeps).find? id = _
      rw [Table.find?_updateWhere, found, Option.map_some]
    · split
      · exact (team vol).trans mine
      · exact mine
  · split
    · exact free vol unattached
    · exact unattached
  · show (s'.volumes.updateWhere p f keeps).find? k = _
    rw [Table.find?_updateWhere, ← others k other]
    cases there : s'.volumes.find? k with
    | none => rfl
    | some row =>
      have key : row.id = k := Table.key_of_find? there
      have foreign : ¬ p row = true := fun hit => other (key.symm.trans (own row hit))
      rw [Option.map_some, if_neg foreign]

theorem Held.congr {s'' : VolumeStore Sent} (held : Held s s' id teamID)
    (same : s''.volumes = s'.volumes) : Held s s'' id teamID := by
  obtain ⟨⟨vol, found, unattached⟩, others⟩ := held
  refine ⟨⟨vol, ?_, unattached⟩, fun k other => ?_⟩
  · unfold VolumeStore.getVolume at found ⊢
    rw [same]
    exact found
  · rw [same]
    exact others k other

/-- What a command leaves of the store, and its answer. -/
theorem run_dispatchTo (s' : VolumeStore Sent) (link : Link) (team serverID : UUID) (command : VolumeCommand) :
    ((dispatchTo link team serverID command).run s').1.volumes = s'.volumes ∧
      ((dispatchTo link team serverID command).run s').2 =
        if link.sent then link.answer else none := by
  unfold dispatchTo
  cases link.sent with
  | false => exact ⟨rfl, rfl⟩
  | true => exact ⟨rfl, rfl⟩

/-- The row is inserted: the request is well formed, the statement works, and the id and the name
are free. -/
structure Lands (faults : Faults) (id : UUID) (req : CreateRequest) (s : VolumeStore Sent) :
    Prop where
  named : req.name ≠ ""
  sized : 0 < req.sizeGb
  works : faults .createVolume = false
  accepted : (s.createVolume (req.row id)).2 ≠ none

theorem createVolume_none {vol : Volume} (refused : (s.createVolume vol).2 = none) :
    s.createVolume vol = (s, none) := by
  unfold VolumeStore.createVolume at refused ⊢
  split
  · rfl
  · next free =>
    rw [if_neg free] at refused
    split
    · rfl
    · next inserted =>
      rw [inserted] at refused
      cases refused

theorem createVolume_some {vol : Volume} (accepted : (s.createVolume vol).2 ≠ none)
    (free : vol.status ≠ .attached) :
    (s.createVolume vol).2 = some vol ∧ s.volumes.find? vol.id = none ∧
      Held s (s.createVolume vol).1 vol.id vol.teamID := by
  unfold VolumeStore.createVolume at accepted ⊢
  split
  · next taken =>
    rw [if_pos taken] at accepted
    exact absurd rfl accepted
  · next unused =>
    rw [if_neg unused] at accepted
    cases inserted : s.volumes.insert? vol with
    | none =>
      rw [inserted] at accepted
      exact absurd rfl accepted
    | some volumes =>
      refine ⟨rfl, ?_, ⟨vol, ?_, free⟩, fun k other => ?_⟩
      · exact Table.find?_eq_none_iff.mpr (Table.insert?_eq_some_iff.mp inserted).1
      · refine VolumeStore.getVolume_eq_some_iff.mpr ⟨?_, rfl⟩
        exact (Table.find?_insert? inserted vol.id).trans (if_pos rfl)
      · exact (Table.find?_insert? inserted k).trans (if_neg (Ne.symm other))

/-- The end of `Create`: the row is read again. -/
def reloaded (faults : Faults) (teamID id : UUID) :
    Prog (VolumeStore Sent) (Except VolumeError Volume) := do
  let some final ← Volumes.read (faults .reload) fun s => s.getVolume id teamID
    | return .error .reloadVolume
  return .ok final

theorem created_eq (faults : Faults) (link : Link) (req : CreateRequest) (row : Volume) :
    created faults link req row =
      (dispatchTo link req.teamID req.serverID
        (.create row.id (volumeHostPath row.id) req.sizeGb) >>= fun answer =>
          if answer = none then
            statement (faults .failStatus) (fun s =>
              s.updateVolumeStatus row.id req.teamID .error) >>= fun _ =>
                reloaded faults req.teamID row.id
          else reloaded faults req.teamID row.id) := rfl

/-- What is read again, with the store it leaves. -/
structure Reloads (faults : Faults) (s : VolumeStore Sent) (id teamID : UUID)
    (answer : VolumeStore Sent × Except VolumeError Volume) : Prop where
  held : Held s answer.1 id teamID
  fails : faults .reload = true → answer.2 = .error .reloadVolume
  works : faults .reload = false →
    ∃ vol, answer.1.getVolume id teamID = some vol ∧ answer.2 = .ok vol

theorem reloads_reloaded (faults : Faults) (held : Held s s' id teamID) :
    Reloads faults s id teamID ((reloaded faults teamID id).run s') := by
  obtain ⟨vol, found, -⟩ := held.row
  unfold reloaded Volumes.read
  rw [Prog.run_query_bind]
  dsimp only
  rw [found]
  cases fails : faults .reload with
  | true =>
    exact ⟨held, fun _ => rfl, fun works => absurd (works.symm.trans fails) Bool.false_ne_true⟩
  | false =>
    exact ⟨held, fun stops => absurd (fails.symm.trans stops) Bool.false_ne_true,
      fun _ => ⟨vol, found, rfl⟩⟩

/-- Behind the path: the row stays, and it is read unless the statement fails. -/
theorem reloads_created (faults : Faults) (link : Link) (req : CreateRequest) {row : Volume}
    (held : Held s s' row.id req.teamID) :
    Reloads faults s row.id req.teamID ((created faults link req row).run s') := by
  obtain ⟨same, -⟩ := run_dispatchTo s' link req.teamID req.serverID
    (.create row.id (volumeHostPath row.id) req.sizeGb)
  have sent := held.congr same
  rw [created_eq, Prog.run_bind]
  split
  · rw [statement, Prog.run_atomic_bind]
    refine reloads_reloaded faults ?_
    split
    · exact sent
    · exact sent.updateWhere (fun vol hit => (of_decide_eq_true hit).1) (fun _ => rfl) nofun
  · exact reloads_reloaded faults sent

theorem create_refused {faults : Faults} {req : CreateRequest} (link : Link)
    (refused : ¬ Lands faults id req s) :
    ∃ error, (Volumes.create faults (dispatchTo link) id req).run s = (s, .error error) := by
  unfold Volumes.create
  by_cases named : req.name = ""
  · exact ⟨.nameRequired, by rw [if_pos named]; rfl⟩
  by_cases sized : req.sizeGb ≤ 0
  · exact ⟨.sizeNotPositive, by rw [if_neg named, if_pos sized]; rfl⟩
  rw [if_neg named, if_neg sized, statement, Prog.run_atomic_bind]
  cases works : faults .createVolume with
  | true => exact ⟨.createVolume, rfl⟩
  | false =>
    have none : (s.createVolume (req.row id)).2 = none := by
      by_contra accepted
      exact refused ⟨named, Int.not_le.mp sized, works, accepted⟩
    rw [if_neg Bool.false_ne_true, createVolume_none none]
    exact ⟨.createVolume, rfl⟩

/-- What a creation that inserts its row answers, and leaves. -/
structure Landed (faults : Faults) (s : VolumeStore Sent) (id teamID : UUID)
    (answer : VolumeStore Sent × Except VolumeError Volume) : Prop where
  fresh : s.volumes.find? id = none
  held : Held s answer.1 id teamID
  fails : faults .updateVolumeHostPath = true ∨ faults .reload = true →
    ∃ error, answer.2 = .error error
  works : faults .updateVolumeHostPath = false → faults .reload = false →
    ∃ vol, answer.1.getVolume id teamID = some vol ∧ answer.2 = .ok vol

theorem create_landed {faults : Faults} {req : CreateRequest} (link : Link)
    (lands : Lands faults id req s) :
    Landed faults s id req.teamID ((Volumes.create faults (dispatchTo link) id req).run s) := by
  obtain ⟨created, fresh, held⟩ := createVolume_some lands.accepted nofun
  unfold Volumes.create
  rw [if_neg lands.named, if_neg (Int.not_le.mpr lands.sized), statement, Prog.run_atomic_bind,
    lands.works, if_neg Bool.false_ne_true, created]
  dsimp only
  rw [statement, Prog.run_atomic_bind]
  cases path : faults .updateVolumeHostPath with
  | true =>
    exact ⟨fresh, held, fun _ => ⟨.persistHostPath, rfl⟩,
      fun works => absurd (works.symm.trans path) Bool.false_ne_true⟩
  | false =>
    have renamed : Held s ((s.createVolume (req.row id)).1.updateVolumeHostPath id
        (volumeHostPath id)).1 id req.teamID :=
      held.updateWhere (fun vol hit => of_decide_eq_true hit) (fun _ => rfl)
        fun _ free => free
    have reloads := @reloads_created s _ faults link req (req.row id) renamed
    refine ⟨fresh, reloads.held, fun fails => ?_, fun _ works => reloads.works works⟩
    exact ⟨.reloadVolume, reloads.fails (fails.resolve_left (by rw [path]; exact Bool.false_ne_true))⟩

theorem delete_held {faults : Faults} (link : Link) (found : faults .getVolume = false)
    (works : faults .deleteVolume = false) (fresh : s.volumes.find? id = none)
    (held : Held s s' id teamID) (k : UUID) :
    ((Volumes.delete faults (dispatchTo link) teamID id).run s').1.volumes.find? k =
      s.volumes.find? k := by
  obtain ⟨⟨vol, there, unattached⟩, others⟩ := held
  obtain ⟨row, mine⟩ := VolumeStore.getVolume_eq_some_iff.mp there
  unfold Volumes.delete Volumes.read
  rw [Prog.run_query_bind, found]
  dsimp only
  rw [if_neg Bool.false_ne_true, there]
  dsimp only
  rw [if_neg unattached, Prog.run_bind, statement, Prog.run_atomic_bind, works,
    if_neg Bool.false_ne_true]
  obtain ⟨same, -⟩ := run_dispatchTo s' link teamID vol.serverID
    (.delete vol.id vol.hostPath)
  show (Table.deleteWhere _ _).find? k = _
  rw [same, Table.find?_deleteWhere_eq]
  by_cases own : k = id
  · subst own
    rw [row, fresh, Option.filter_some, if_neg]
    have key : vol.id = k := Table.key_of_find? row
    simp [key, mine]
  · rw [others k own]
    cases before : s.volumes.find? k with
    | none => rfl
    | some old =>
      have key : old.id = k := Table.key_of_find? before
      rw [Option.filter_some, if_pos]
      simp [key, own]

end Volume

/-! ## The rows of the secrets -/

section Sealed

variable (encrypt : String → String → Option (List UInt8)) {faults : SecretFaults}
  {s s' : SecretStore} {own : List UUID} {teamID : UUID}

/-- The secrets that are new are the team's, under these ids. -/
abbrev Sealed (s s' : SecretStore) (own : List UUID) (teamID : UUID) : Prop :=
  Table.Gains own (fun secret : Secrets.Secret => secret.teamID = teamID) s.secrets s'.secrets

theorem createSecret_cases (s : SecretStore) (secret : Secrets.Secret) :
    createSecret s secret = (s, none) ∨
      ∃ secrets, s.secrets.insert? secret = some secrets ∧
        createSecret s secret = ({ s with secrets := secrets }, some secret) := by
  unfold createSecret
  split
  · exact .inl rfl
  · cases s.secrets.insert? secret with
    | none => exact .inl rfl
    | some secrets => exact .inr ⟨secrets, rfl, rfl⟩

theorem sealed_create (faults : SecretFaults) (sealed : Sealed s s' own teamID) (statement : SecretStatement)
    (id : UUID) (environment key plaintext : String) :
    (create encrypt faults statement id teamID environment key plaintext).run s' = (s', none) ∨
      ∃ secret t, (create encrypt faults statement id teamID environment key plaintext).run s' =
        (t, some secret) ∧ secret.id = id ∧ Sealed s t (id :: own) teamID := by
  unfold create sealing
  cases encrypt plaintext (encryptionContext teamID) with
  | none => exact .inl rfl
  | some ciphertext =>
    dsimp only
    rw [Prog.run_atomic]
    split
    · exact .inl rfl
    · rcases createSecret_cases s'
        { id := id, teamID := teamID, environment := environment, key := key,
          encryptedValue := ciphertext } with refused | ⟨secrets, inserted, accepted⟩
      · exact .inl refused
      · exact .inr ⟨_, _, accepted, rfl, sealed.insert inserted rfl⟩

theorem sealed_deleteSecret {id : UUID} (sealed : Sealed s s' (id :: own) teamID) :
    Sealed s (deleteSecret s' id teamID).1 own teamID :=
  sealed.deleteWhere fun _ here mine => decide_eq_true ⟨here, mine⟩

theorem sealed_deleteLogged (log : SecretStatement) {statement : SecretStatement} (works : faults statement = false)
    {id : UUID} (sealed : Sealed s s' (id :: own) teamID) :
    Sealed s ((deleteLogged faults log statement id teamID).run s').1 own teamID := by
  have logged : (if faults log then (s', none) else logDelete s' id teamID).1.secrets =
      s'.secrets := by
    unfold logDelete
    split
    · rfl
    · split <;> rfl
  unfold deleteLogged sealing
  rw [Prog.run_atomic_bind, Prog.run_atomic, works, if_neg Bool.false_ne_true]
  refine sealed_deleteSecret ?_
  unfold Sealed
  rw [logged]
  exact sealed

/-- Both secrets are there, or neither is. -/
theorem sealed_createDatabaseSecrets (s : SecretStore) (teamID : UUID)
    (cleanup : faults .cleanup = false) (superID appID : UUID) (dbName superPassword appPassword : String) :
    ∃ t, ((createDatabaseSecrets encrypt faults superID appID teamID dbName superPassword
          appPassword).run s = (t, none) ∧ Sealed s t [] teamID) ∨
      ((createDatabaseSecrets encrypt faults superID appID teamID dbName superPassword
          appPassword).run s = (t, some (superID, appID)) ∧
        Sealed s t [superID, appID] teamID) := by
  unfold createDatabaseSecrets
  dsimp only
  rw [Prog.run_bind]
  rcases sealed_create encrypt faults
      (Table.Gains.refl (fun secret : Secrets.Secret => secret.teamID = teamID) s.secrets)
      .createSuper superID ("database:" ++ dbName) "SUPERUSER_PASSWORD" superPassword with
    refused | ⟨superSecret, s₁, accepted, rfl, first⟩
  · rw [refused]
    exact ⟨s, .inl ⟨rfl, Table.Gains.refl _ _⟩⟩
  · rw [accepted]
    dsimp only
    rw [Prog.run_bind]
    rcases sealed_create encrypt faults first .createApp appID
        ("database:" ++ dbName) "APP_PASSWORD" appPassword with
      refused | ⟨appSecret, s₂, accepted, rfl, both⟩
    · rw [refused]
      dsimp only
      rw [sealing, Prog.run_atomic_bind, cleanup, if_neg Bool.false_ne_true]
      exact ⟨_, .inl ⟨rfl, sealed_deleteSecret first⟩⟩
    · rw [accepted]
      exact ⟨s₂, .inr ⟨rfl, both.mono (by simp)⟩⟩

end Sealed

/-! ## All or nothing -/

/-- No row of the three tables is under an id that was free before. -/
structure NothingNew (s s' : Estate) : Prop where
  volumes : ∀ id, s.bound.vols.volumes.find? id = none → s'.bound.vols.volumes.find? id = none
  secrets : ∀ id, s.secrets.secrets.find? id = none → s'.secrets.secrets.find? id = none
  databases : ∀ id, s.bound.databases.find? id = none → s'.bound.databases.find? id = none

namespace NothingNew

theorem refl (s : Estate) : NothingNew s s := ⟨fun _ => id, fun _ => id, fun _ => id⟩

end NothingNew

section Provision

variable (encrypt : String → String → Option (List UInt8)) (templates : Registry) (c : Course)
  (ids : RowIDs) (req : ProvisionRequest)

/-- The request passes the checks, with this outcome. -/
structure Admits (t : BoundStore) (p : Prepared) : Prop where
  tmpl : templates req.templateSlug = some p.tmpl
  version : getVersion templates req.templateSlug req.version = some p.version
  works : c.faults .getProject = false
  project : t.getProject req.projectID = some p.project
  team : p.project.teamID = req.teamID
  placed : (resolvePlacement c.fate req.teamID req.clusterID req.serverID).result t = .ok p.serverID
  name : provisionName req ids c.suffix = some p.name
  superPassword : c.superPassword = some p.superPassword
  appPassword : c.appPassword = some p.appPassword

theorem run_resolvePlacement (t : BoundStore) :
    (resolvePlacement c.fate req.teamID req.clusterID req.serverID).run t =
      (t, (resolvePlacement c.fate req.teamID req.clusterID req.serverID).result t) := by
  refine Prod.ext ?_ rfl
  refine Prog.Every.run_unchanged (fun t : BoundStore => t) ?_ t
  refine (reads_resolvePlacement c.fate req.teamID req.clusterID req.serverID).mono ?_
  rintro effect rfl t
  rfl

variable {templates c ids req} in
theorem Admits.unique {t : BoundStore} {p p' : Prepared} (ok : Admits templates c ids req t p)
    (ok' : Admits templates c ids req t p') : p' = p := by
  cases p
  cases p'
  rw [Prepared.mk.injEq]
  exact ⟨Option.some.inj (ok'.tmpl.symm.trans ok.tmpl),
    Option.some.inj (ok'.version.symm.trans ok.version),
    Option.some.inj (ok'.project.symm.trans ok.project),
    Except.ok.inj (ok'.placed.symm.trans ok.placed),
    Option.some.inj (ok'.name.symm.trans ok.name),
    Option.some.inj (ok'.superPassword.symm.trans ok.superPassword),
    Option.some.inj (ok'.appPassword.symm.trans ok.appPassword)⟩

/-- The checks change nothing, and they pass just if the request is admitted. -/
theorem prepare_cases (t : BoundStore) :
    (∃ error, (prepare templates c ids req).run t = (t, .error error) ∧
        ∀ p, ¬ Admits templates c ids req t p) ∨
      ∃ p, (prepare templates c ids req).run t = (t, .ok p) ∧ Admits templates c ids req t p := by
  unfold prepare
  cases tmpl : templates req.templateSlug with
  | none => exact .inl ⟨_, rfl, fun p ok => nomatch tmpl.symm.trans ok.tmpl⟩
  | some tmpl' =>
  cases version : getVersion templates req.templateSlug req.version with
  | none => exact .inl ⟨_, rfl, fun p ok => nomatch version.symm.trans ok.version⟩
  | some version' =>
  dsimp only
  rw [look, Prog.run_query_bind]
  cases works : c.faults .getProject with
  | true => exact .inl ⟨_, rfl, fun p ok => nomatch works.symm.trans ok.works⟩
  | false =>
  rw [if_neg Bool.false_ne_true]
  cases project : t.getProject req.projectID with
  | none => exact .inl ⟨_, rfl, fun p ok => nomatch project.symm.trans ok.project⟩
  | some project' =>
  dsimp only
  by_cases team : project'.teamID = req.teamID
  · rw [if_neg (not_not_intro team), Prog.run_bind, run_resolvePlacement]
    cases placed : (resolvePlacement c.fate req.teamID req.clusterID req.serverID).result t with
    | error error => exact .inl ⟨_, rfl, fun p ok => nomatch placed.symm.trans ok.placed⟩
    | ok serverID =>
    dsimp only
    cases name : provisionName req ids c.suffix with
    | none => exact .inl ⟨_, rfl, fun p ok => nomatch name.symm.trans ok.name⟩
    | some name' =>
    cases superPassword : c.superPassword with
    | none => exact .inl ⟨_, rfl, fun p ok => nomatch superPassword.symm.trans ok.superPassword⟩
    | some superPassword' =>
    cases appPassword : c.appPassword with
    | none => exact .inl ⟨_, rfl, fun p ok => nomatch appPassword.symm.trans ok.appPassword⟩
    | some appPassword' =>
    exact .inr ⟨_, rfl, tmpl, version, works, project, team, placed, name, superPassword,
      appPassword⟩
  · refine .inl ⟨.refused .otherTeam, by rw [if_pos team]; rfl, fun p ok => ?_⟩
    have same : p.project = project' := Option.some.inj (ok.project.symm.trans project)
    exact team (same ▸ ok.team)

/-! ### The rollback -/

section Rollback

variable {c} {s s' : Estate} {own : List UUID} {teamID : UUID}

theorem unlessNil_nil (undo : Prog Estate Unit) : unlessNil UUID.nil undo = pure () :=
  if_neg (not_not_intro rfl)

theorem unlessNil_of_ne {id : UUID} (real : id ≠ UUID.nil) (undo : Prog Estate Unit) :
    unlessNil id undo = undo := if_pos real

theorem run_ignore_onSecrets {β : Type} (p : Prog SecretStore β) (s : Estate) :
    ((ignore (onSecrets p)).run s).1 = { s with secrets := (p.run s.secrets).1 } := by
  rw [ignore, Prog.run_bind, run_onSecrets]
  rfl

theorem run_ignore_onBound {β : Type} (p : Prog BoundStore β) (s : Estate) :
    ((ignore (onBound p)).run s).1 = { s with bound := (p.run s.bound).1 } := by
  rw [ignore, Prog.run_bind, run_onBound]
  rfl

/-- What a call has added when it turns to its rollback. -/
structure Added (s s' : Estate) (volID teamID : UUID) (own : List UUID) : Prop where
  fresh : s.bound.vols.volumes.find? volID = none
  volume : Held s.bound.vols s'.bound.vols volID teamID
  secrets : Sealed s.secrets s'.secrets own teamID
  databases : ∀ id, s.bound.databases.find? id = none → s'.bound.databases.find? id = none

theorem undo_volume (undoes : c.Undoes) {volID : UUID} (added : Added s s' volID teamID own) :
    ∃ t, ((ignore (onBound (onVolumes
        (Volumes.delete c.volumeFaults (dispatchTo c.undoLink) teamID volID)))).run s').1 =
          { s' with bound := t } ∧
      (∀ id, s.bound.vols.volumes.find? id = none → t.vols.volumes.find? id = none) ∧
      ∀ id, s.bound.databases.find? id = none → t.databases.find? id = none := by
  refine ⟨_, run_ignore_onBound _ _, fun id free => ?_, fun id free => ?_⟩
  · rw [(run_onVolumes _ _).1, delete_held c.undoLink undoes.getVolume undoes.deleteVolume
      added.fresh added.volume id]
    exact free
  · exact (databases_onVolumes _ _ id).mpr (added.databases id free)

theorem rollback_volume (undoes : c.Undoes) {volID : UUID} (real : volID ≠ UUID.nil)
    (added : Added s s' volID teamID []) :
    NothingNew s ((rollbackProvision c teamID volID UUID.nil UUID.nil).run s').1 := by
  obtain ⟨t, undone, volumes, databases⟩ := undo_volume undoes added
  unfold rollbackProvision
  rw [unlessNil_of_ne real, unlessNil_nil, unlessNil_nil, Prog.run_bind, undone]
  exact ⟨volumes, fun id free => added.secrets.nothing free, databases⟩

theorem rollback_all (undoes : c.Undoes) {volID superID appID : UUID} (real : volID ≠ UUID.nil)
    (super : superID ≠ UUID.nil) (app : appID ≠ UUID.nil)
    (added : Added s s' volID teamID [superID, appID]) :
    NothingNew s ((rollbackProvision c teamID volID superID appID).run s').1 := by
  obtain ⟨t, undone, volumes, databases⟩ := undo_volume undoes added
  unfold rollbackProvision
  rw [unlessNil_of_ne real, unlessNil_of_ne super, unlessNil_of_ne app, Prog.run_bind, undone,
    Prog.run_bind, run_ignore_onSecrets, run_ignore_onSecrets]
  have first := sealed_deleteLogged .logSuper undoes.deleteSuper added.secrets
  have second := sealed_deleteLogged .logApp undoes.deleteApp first
  exact ⟨volumes, fun id free => second.nothing free, databases⟩

end Rollback

/-! ### The whole call -/

theorem run_createDatabase {t : BoundStore} {fails : Bool} {row : Database}
    (refused : ((act fails fun t => t.createDatabase row).run t).2 = none) :
    (act fails fun t => t.createDatabase row).run t = (t, none) := by
  rw [act, Prog.run_atomic] at refused ⊢
  split
  · rfl
  · next works =>
    rw [if_neg works] at refused
    unfold BoundStore.createDatabase at refused ⊢
    split
    · rfl
    · next unused =>
      rw [if_neg unused] at refused
      split
      · rfl
      · next there =>
        rw [if_neg there] at refused
        split
        · rfl
        · next inserted =>
          rw [inserted] at refused
          cases refused

variable {encrypt c ids req}

/-- Behind the volume every failure is undone. -/
theorem store_undone (undoes : c.Undoes) {p : Prepared} {vol : Volume} {s s' : Estate}
    (here : vol.id = ids.volume) (same : s'.secrets = s.secrets)
    (added : Added s s' ids.volume req.teamID []) {error : ProvisionError}
    (failed : (store encrypt c ids req p vol).result s' = .error error) :
    NothingNew s ((store encrypt c ids req p vol).out s') := by
  unfold Prog.result Prog.out store at *
  rw [Prog.run_bind, run_onSecrets, same] at *
  obtain ⟨t, ⟨refused, clean⟩ | ⟨stored, both⟩⟩ := sealed_createDatabaseSecrets encrypt
    s.secrets req.teamID undoes.cleanup ids.superSecret ids.appSecret p.name
    p.superPassword p.appPassword
  · rw [refused]
    dsimp only
    rw [Prog.run_bind, here]
    exact rollback_volume undoes ids.volume_ne_nil { added with secrets := clean }
  · rw [stored] at failed ⊢
    dsimp only at failed ⊢
    rw [Prog.run_bind, run_onBound] at failed ⊢
    generalize req.row ⟨ids.volume, ids.database, ""⟩ p.serverID vol p.name
      (databaseContainer p.project p.name) = row at failed ⊢
    cases inserted : ((act (c.faults .createDatabase) fun t => t.createDatabase row).run
        s'.bound).2 with
    | some created =>
      rw [inserted] at failed
      cases failed
    | none =>
      have unchanged := congrArg Prod.fst (run_createDatabase inserted)
      dsimp only at unchanged ⊢
      rw [unchanged, Prog.run_bind, here]
      exact rollback_all undoes ids.volume_ne_nil ids.superSecret_ne_nil ids.appSecret_ne_nil
        { added with secrets := both }

variable (encrypt c ids req)

/-- The volume is inserted. -/
structure Inserts (s : Estate) (p : Prepared) : Prop where
  admits : Admits templates c ids req s.bound p
  lands : Lands c.volumeFaults ids.volume (req.volume p.serverID p.tmpl p.name) s.bound.vols

/-- One of the two statements behind the row fails. -/
def Course.Loses (c : Course) : Prop :=
  c.volumeFaults .updateVolumeHostPath = true ∨ c.volumeFaults .reload = true

/-- Where a call stands behind its volume. -/
structure Turns (s : Estate) (p : Prepared) (vol : Volume) (t : BoundStore) : Prop where
  run : (provision encrypt templates c ids req).run s =
    (store encrypt c ids req p vol).run { s with bound := t }
  here : vol.id = ids.volume
  added : Added s { s with bound := t } ids.volume req.teamID []
  keys : keysOf t = keysOf s.bound

/-- A call ends before its volume, loses it, or turns to the secrets. -/
theorem provision_stages (s : Estate) :
    ((∀ p, ¬ Inserts templates c ids req s p) ∧
        ∃ error t, (provision encrypt templates c ids req).run s = (t, .error error) ∧
          NothingNew s t) ∨
      ∃ p, Inserts templates c ids req s p ∧
        ((c.Loses ∧
            ∃ error t, (provision encrypt templates c ids req).run s = (t, .error error) ∧
              ¬ NothingNew s t) ∨
          (¬ c.Loses ∧ ∃ vol t, Turns encrypt templates c ids req s p vol t)) := by
  have ran : (provision encrypt templates c ids req).run s = _ := rfl
  conv at ran => rhs; unfold provision
  rw [Prog.run_bind, run_onBound] at ran
  rcases prepare_cases templates c ids req s.bound with ⟨error, refused, never⟩ | ⟨p, passed, ok⟩
  · rw [refused] at ran
    exact .inl ⟨fun p inserts => never p inserts.admits, error, s, ran, .refl s⟩
  · rw [passed] at ran
    dsimp only at ran
    rw [Prog.run_bind, run_onBound] at ran
    obtain ⟨vols, answer⟩ := run_onVolumes (Volumes.create c.volumeFaults (dispatchTo c.link)
      ids.volume (req.volume p.serverID p.tmpl p.name)) s.bound
    have keys := keysOf_onVolumes (Volumes.create c.volumeFaults (dispatchTo c.link)
      ids.volume (req.volume p.serverID p.tmpl p.name)) s.bound
    generalize (onVolumes (Volumes.create c.volumeFaults (dispatchTo c.link) ids.volume
      (req.volume p.serverID p.tmpl p.name))).run s.bound = made at ran vols answer keys
    have databases : ∀ id, s.bound.databases.find? id = none →
        made.1.databases.find? id = none := by
      intro id free
      rw [find?_database_iff, keys]
      exact find?_database_iff.mp free
    by_cases lands : Lands c.volumeFaults ids.volume (req.volume p.serverID p.tmpl p.name)
        s.bound.vols
    · refine .inr ⟨p, ⟨ok, lands⟩, ?_⟩
      have landed := create_landed c.link lands
      rw [← show (made.1.vols, made.2) = _ from Prod.ext vols answer] at landed
      by_cases lost : c.Loses
      · obtain ⟨error, failed⟩ := landed.fails lost
        obtain ⟨vol, found, -⟩ := landed.held.row
        dsimp only at failed found ran
        rw [failed] at ran
        refine .inl ⟨lost, .createVolume, _, ran, fun clean => ?_⟩
        have gone : made.1.vols.volumes.find? ids.volume = none :=
          clean.volumes ids.volume landed.fresh
        rw [VolumeStore.getVolume, gone] at found
        cases found
      · obtain ⟨path, reload⟩ := not_or.mp lost
        obtain ⟨vol, found, worked⟩ := landed.works (Bool.eq_false_iff.mpr path)
          (Bool.eq_false_iff.mpr reload)
        dsimp only at worked found ran
        rw [worked] at ran
        have here : vol.id = ids.volume :=
          Table.key_of_find? (VolumeStore.getVolume_eq_some_iff.mp found).1
        exact .inr ⟨lost, vol, made.1, ran, here,
          ⟨landed.fresh, landed.held, Table.Gains.refl _ _, databases⟩, keys⟩
    · obtain ⟨error, nothing⟩ := create_refused c.link lands
      rw [nothing] at vols answer
      dsimp only at vols answer ran
      rw [answer] at ran
      refine .inl ⟨fun p' inserts => ?_, .createVolume, _, ran, fun id free => ?_,
        fun id free => free, databases⟩
      · cases ok.unique inserts.admits
        exact lands inserts.lands
      · show made.1.vols.volumes.find? id = none
        rw [vols]
        exact free

/-- **Provision is all or nothing unless the volume it inserts is lost on the way.** -/
theorem all_or_nothing_iff (undoes : c.Undoes) (s : Estate) :
    (∀ error, (provision encrypt templates c ids req).result s = .error error →
        NothingNew s ((provision encrypt templates c ids req).out s)) ↔
      ¬ ∃ p, Inserts templates c ids req s p ∧ c.Loses := by
  unfold Prog.result Prog.out
  rcases provision_stages encrypt templates c ids req s with
    ⟨never, error, t, ran, clean⟩ | ⟨p, inserts, ⟨lost, error, t, ran, dirty⟩ |
      ⟨kept, vol, t, turns⟩⟩
  · rw [ran]
    exact iff_of_true (fun _ _ => clean) fun ⟨p, inserts, _⟩ => never p inserts
  · rw [ran]
    exact iff_of_false (fun all => dirty (all error rfl)) (not_not_intro ⟨p, inserts, lost⟩)
  · rw [turns.run]
    exact iff_of_true (fun error failed => store_undone undoes turns.here rfl turns.added failed)
      fun ⟨_, _, lost⟩ => kept lost

/-! ### A call that succeeds -/

/-- The row of a new database is accepted. -/
structure Fits (t : BoundStore) (id projectID : UUID) (name : String) : Prop where
  id : t.databases.find? id = none
  name : ∀ key ∈ keysOf t, key.2 ≠ (projectID, name)

theorem Fits.congr {t t' : BoundStore} (keys : keysOf t = keysOf t') {id projectID : UUID}
    {name : String} (fits : Fits t id projectID name) : Fits t' id projectID name := by
  refine ⟨find?_database_iff.mpr ?_, ?_⟩
  · rw [← keys]
    exact find?_database_iff.mp fits.id
  · rw [← keys]
    exact fits.name

theorem createDatabase_fits {t : BoundStore} {row : Database}
    (there : row.volumeID.all fun id => (t.getVolumeAnyTeam id).isSome)
    (fits : Fits t row.id row.projectID row.name) :
    ∃ databases, t.databases.insert? row = some databases ∧
      t.createDatabase row = ({ t with databases := databases }, some row) := by
  have unused : ¬ (t.databases.rows.any fun other =>
      other.projectID = row.projectID ∧ other.name = row.name) = true := by
    intro used
    obtain ⟨other, member, same⟩ := List.any_eq_true.mp used
    obtain ⟨project, name⟩ := of_decide_eq_true same
    exact fits.name _ (List.mem_map_of_mem member) (Prod.ext project name)
  have references : ¬ (row.volumeID.any fun id => (t.getVolumeAnyTeam id).isNone) = true := by
    cases volume : row.volumeID with
    | none => exact Bool.false_ne_true
    | some id =>
      rw [volume, Option.all_some] at there
      rw [Option.any_some, Bool.not_eq_true, ← Option.not_isSome, there]
      rfl
  unfold BoundStore.createDatabase
  rw [if_neg unused, if_neg references]
  cases inserted : t.databases.insert? row with
  | none => exact absurd fits.id (Table.insert?_eq_none_iff.mp inserted)
  | some databases => exact ⟨databases, rfl, rfl⟩

theorem fits_of_createDatabase {t : BoundStore} {row : Database}
    (accepted : (t.createDatabase row).2 ≠ none) : Fits t row.id row.projectID row.name := by
  unfold BoundStore.createDatabase at accepted
  split at accepted
  · exact absurd rfl accepted
  · next unused =>
    split at accepted
    · exact absurd rfl accepted
    · cases inserted : t.databases.insert? row with
      | none =>
        rw [inserted] at accepted
        exact absurd rfl accepted
      | some databases =>
        refine ⟨Table.find?_eq_none_iff.mpr (Table.insert?_eq_some_iff.mp inserted).1, ?_⟩
        intro key member same
        obtain ⟨other, there, rfl⟩ := List.mem_map.mp member
        obtain ⟨project, name⟩ := Prod.ext_iff.mp same
        exact unused (List.any_eq_true.mpr ⟨other, there, decide_eq_true ⟨project, name⟩⟩)

/-- Behind the volume nothing is refused. -/
structure Keeps (s : Estate) (p : Prepared) : Prop where
  secrets : (createDatabaseSecrets encrypt c.secretFaults ids.superSecret ids.appSecret req.teamID
    p.name p.superPassword p.appPassword).result s.secrets ≠ none
  works : c.faults .createDatabase = false
  fits : Fits s.bound ids.database req.projectID p.name

/-- What a call that succeeds leaves. -/
structure Provisioned (s s' : Estate) (d : Database) : Prop where
  fresh : s.bound.databases.find? d.id = none
  stored : s'.bound.databases.find? d.id = some d
  status : d.status = .provisioning

theorem store_cases (p : Prepared) (vol : Volume) (s : Estate)
    (there : (s.bound.getVolumeAnyTeam vol.id).isSome) :
    (Keeps encrypt c ids req s p ∧ ∃ d, (store encrypt c ids req p vol).result s = .ok d ∧
        Provisioned s ((store encrypt c ids req p vol).out s) d) ∨
      (¬ Keeps encrypt c ids req s p ∧
        ∃ error, (store encrypt c ids req p vol).result s = .error error) := by
  by_cases keeps : Keeps encrypt c ids req s p
  · refine .inl ⟨keeps, ?_⟩
    obtain ⟨secrets, works, fits⟩ := keeps
    obtain ⟨stored, kept⟩ := Option.ne_none_iff_exists'.mp secrets
    let row := req.row ⟨ids.volume, ids.database, ""⟩ p.serverID vol p.name
      (databaseContainer p.project p.name)
    obtain ⟨databases, inserted, accepted⟩ := @createDatabase_fits s.bound row there fits
    have ran : ∃ t, (store encrypt c ids req p vol).run s =
        (⟨{ s.bound with databases := databases }, t⟩, .ok row) := by
      unfold Prog.result at kept
      refine ⟨((createDatabaseSecrets encrypt c.secretFaults ids.superSecret ids.appSecret
        req.teamID p.name p.superPassword p.appPassword).run s.secrets).1, ?_⟩
      unfold store
      rw [Prog.run_bind, run_onSecrets, kept]
      dsimp only
      rw [Prog.run_bind, run_onBound, act, Prog.run_atomic, works, if_neg Bool.false_ne_true,
        accepted]
      rfl
    obtain ⟨t, ran⟩ := ran
    refine ⟨row, congrArg Prod.snd ran, fits.id, ?_, rfl⟩
    rw [Prog.out, ran]
    exact (Table.find?_insert? inserted row.id).trans (if_pos rfl)
  · refine .inr ⟨keeps, ?_⟩
    unfold Prog.result store
    rw [Prog.run_bind, run_onSecrets]
    cases kept : ((createDatabaseSecrets encrypt c.secretFaults ids.superSecret ids.appSecret
        req.teamID p.name p.superPassword p.appPassword).run s.secrets).2 with
    | none =>
      dsimp only
      rw [Prog.run_bind]
      exact ⟨.storeCredentials, rfl⟩
    | some stored =>
      dsimp only
      rw [Prog.run_bind, run_onBound, act, Prog.run_atomic]
      dsimp only
      cases works : c.faults .createDatabase with
      | true =>
        rw [if_pos rfl]
        dsimp only
        rw [Prog.run_bind]
        exact ⟨.createDatabase, rfl⟩
      | false =>
        rw [if_neg Bool.false_ne_true]
        cases accepted : (s.bound.createDatabase (req.row ⟨ids.volume, ids.database, ""⟩
            p.serverID vol p.name (databaseContainer p.project p.name))).2 with
        | none =>
          dsimp only
          rw [Prog.run_bind]
          exact ⟨.createDatabase, rfl⟩
        | some created =>
          refine absurd ⟨?_, works, ?_⟩ keeps
          · rw [Prog.result, kept]
            exact Option.some_ne_none stored
          · exact fits_of_createDatabase
              (accepted.trans_ne (Option.some_ne_none created))

/-- The volume is inserted and nothing behind it fails. -/
def Succeeds (s : Estate) : Prop :=
  ∃ p, Inserts templates c ids req s p ∧ ¬ c.Loses ∧ Keeps encrypt c ids req s p

/-- A call succeeds just if nothing fails. -/
theorem provision_cases (s : Estate) :
    (Succeeds encrypt templates c ids req s ∧
        ∃ d, (provision encrypt templates c ids req).result s = .ok d ∧
          Provisioned s ((provision encrypt templates c ids req).out s) d) ∨
      (¬ Succeeds encrypt templates c ids req s ∧
        ∃ error, (provision encrypt templates c ids req).result s = .error error) := by
  unfold Prog.result Prog.out
  rcases provision_stages encrypt templates c ids req s with
    ⟨never, error, t, ran, -⟩ | ⟨p, inserts, ⟨lost, error, t, ran, -⟩ | ⟨kept, vol, t, turns⟩⟩
  · rw [ran]
    exact .inr ⟨fun works => works.elim fun p rest => never p rest.1, error, rfl⟩
  · rw [ran]
    exact .inr ⟨fun works => works.elim fun _ rest => rest.2.1 lost, error, rfl⟩
  · rw [turns.run]
    have there : (t.getVolumeAnyTeam vol.id).isSome := by
      obtain ⟨row, found, -⟩ := turns.added.volume.row
      rw [turns.here, BoundStore.getVolumeAnyTeam,
        (VolumeStore.getVolume_eq_some_iff.mp found).1]
      rfl
    rcases store_cases encrypt c ids req p vol { s with bound := t } there with
      ⟨keeps, d, worked, provisioned⟩ | ⟨fails, error, failed⟩
    · have fits := keeps.fits.congr turns.keys
      refine .inl ⟨⟨p, inserts, kept, keeps.secrets, keeps.works, fits⟩, d, worked, ?_,
        provisioned.stored, provisioned.status⟩
      rw [find?_database_iff, ← turns.keys]
      exact find?_database_iff.mp provisioned.fresh
    · refine .inr ⟨fun works => ?_, error, failed⟩
      obtain ⟨p', inserts', -, keeps⟩ := works
      cases inserts.admits.unique inserts'.admits
      exact fails ⟨keeps.secrets, keeps.works, keeps.fits.congr turns.keys.symm⟩

end Provision

/-! ### A path that is not written -/

def orders : ProvisionRequest :=
  { teamID := 1, projectID := 3, clusterID := 5, templateSlug := "postgres", version := "16"
    name := "orders" }

def newRows : RowIDs :=
  ⟨7, 8, 9, 11, by decide, by decide, by decide⟩

def plainEncrypt (plaintext _context : String) : Option (List UInt8) :=
  some plaintext.toUTF8.toList

/-- The agent does not answer, and the second secret is refused. -/
def refusedSecret : Course :=
  { link := { answer := none }, secretFaults := fun statement => statement = .createApp }

theorem refused_secret_undone :
    refusedSecret.Undoes ∧
      (provision plainEncrypt catalog refusedSecret newRows orders).result ⟨twoServerCluster, {}⟩ =
        .error .storeCredentials ∧
      NothingNew ⟨twoServerCluster, {}⟩
        ((provision plainEncrypt catalog refusedSecret newRows orders).out
          ⟨twoServerCluster, {}⟩) := by
  have undoes : refusedSecret.Undoes := ⟨rfl, rfl, rfl, rfl, rfl⟩
  have failed : (provision plainEncrypt catalog refusedSecret newRows orders).result
      ⟨twoServerCluster, {}⟩ = .error .storeCredentials := by decide
  refine ⟨undoes, failed, ?_⟩
  refine (all_or_nothing_iff plainEncrypt catalog refusedSecret newRows orders undoes _).mpr ?_
    _ failed
  rintro ⟨p, -, path | reload⟩
  · cases path
  · cases reload

/-- The path of the volume is not written: `Provision` fails, and the volume stays. -/
theorem placeholder_path_left :
    ∃ c : Course, c.Undoes ∧
      (provision plainEncrypt catalog c newRows orders).result ⟨twoServerCluster, {}⟩ =
        .error .createVolume ∧
      ¬ NothingNew ⟨twoServerCluster, {}⟩
        ((provision plainEncrypt catalog c newRows orders).out ⟨twoServerCluster, {}⟩) := by
  refine ⟨{ volumeFaults := fun statement => statement = .updateVolumeHostPath },
    ⟨rfl, rfl, rfl, rfl, rfl⟩, by decide, fun clean => ?_⟩
  have gone := clean.volumes 7 rfl
  revert gone
  decide

end Nixway.Volumes.Provisioning
