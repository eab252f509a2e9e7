/-
# Volumes.FreeNames -- which names a team can provision

A new database needs its name three times: `databases` has it once for a project, `volumes` has
`db-<name>` once for a team, and `secrets` has the two keys of `database:<name>` once for a team.
`Delete` takes the first of the three rows away and keeps the others.

An `Event` is a call of `Provision`, the end of the goroutine it starts, or a call of `Delete`.
`free_name_provisioned_iff` is about every history of them: the state before a call decides whether
a free name can be had, and where the calls of the history found a working store, it can be had
just if none of them has provisioned it, in whatever project and deleted or not.
-/
import Nixway.Theory.Runs
import Nixway.Volumes.Provisioning

namespace Nixway.Volumes.FreeNames

open Nixway.Theory Nixway.Store
open Nixway.Theory.Prog (query exec atomic ignore)
open Nixway.Secrets (SecretStore encryptionContext)
open Nixway.Volumes.Databases Nixway.Volumes.Provisioning

set_option autoImplicit false

/-! ## The rows of the volumes -/

/-- What `UNIQUE(team_id, name)` compares of the row under an id. -/
def tag (s : VolumeStore Sent) (k : UUID) : Option (UUID × String) :=
  (s.volumes.find? k).map fun vol => (vol.teamID, vol.name)

/-- An effect that leaves every row its team and its name, apart from the row under `id`, if
one is given, which may come with this tag and may go. -/
def Tags (id : Option UUID) (own : UUID × String) (effect : VolumeStore Sent → VolumeStore Sent) : Prop :=
  ∀ s k, tag (effect s) k = tag s k ∨ (id = some k ∧ ∀ t, tag (effect s) k = some t → t = own)

section Volumes

variable {id : Option UUID} {own : UUID × String}

theorem tags_same {effect : VolumeStore Sent → VolumeStore Sent}
    (same : ∀ s, (effect s).volumes = s.volumes) : Tags id own effect := by
  intro s k
  unfold tag
  rw [same s]
  exact .inl rfl

theorem tags_update {k' teamID : UUID} {f : Volume → Volume} {keeps : ∀ vol, (f vol).id = vol.id}
    (team : ∀ vol, (f vol).teamID = vol.teamID) (name : ∀ vol, (f vol).name = vol.name) :
    Tags id own fun s => (s.updateVolume k' teamID f keeps).1 := by
  intro s k
  left
  unfold tag
  rw [VolumeStore.find?_updateVolume]
  cases s.volumes.find? k with
  | none => rfl
  | some vol =>
    rw [Option.map_some, Option.map_some, Option.map_some]
    split
    · rw [team, name]
    · rfl

theorem tags_hostPath {k' : UUID} {hostPath : String} :
    Tags id own fun s => (s.updateVolumeHostPath k' hostPath).1 := by
  intro s k
  left
  show ((Table.update s.volumes k' _).find? k).map _ = _
  rw [Table.find?_update]
  split
  · next same =>
    unfold tag
    rw [same]
    cases s.volumes.find? k' <;> rfl
  · rfl

theorem tags_insert {vol : Volume} :
    Tags (some vol.id) (vol.teamID, vol.name) fun s => (s.createVolume vol).1 := by
  intro s k
  dsimp only
  unfold VolumeStore.createVolume
  split
  · exact .inl rfl
  · cases inserted : s.volumes.insert? vol with
    | none => exact .inl rfl
    | some volumes =>
      unfold tag
      dsimp only
      rw [Table.find?_insert? inserted]
      split
      · next same =>
        refine .inr ⟨congrArg some same, ?_⟩
        rintro t ⟨⟩
        rfl
      · exact .inl rfl

theorem tags_delete {k' teamID : UUID} :
    Tags (some k') own fun s => (s.deleteVolume k' teamID).1 := by
  intro s k
  unfold tag
  show (Table.find? (Table.deleteWhere _ _) k).map _ = _ ∨
    (_ ∧ ∀ t, (Table.find? (Table.deleteWhere _ _) k).map _ = some t → _)
  rw [Table.find?_deleteWhere_eq]
  cases there : s.volumes.find? k with
  | none => exact .inl rfl
  | some vol =>
    have key : vol.id = k := Table.key_of_find? there
    rw [Option.filter_some]
    split
    · exact .inl rfl
    · next gone =>
      refine .inr ⟨?_, nofun⟩
      simp only [Bool.not_eq_true', decide_eq_false_iff_not, not_not] at gone
      rw [← key, ← gone.1]

theorem tags_dispatchTo (link : Link) (teamID serverID : UUID) (command : VolumeCommand) :
    (dispatchTo link teamID serverID command).Every (Tags id own) := by
  unfold dispatchTo
  cases link.sent with
  | false => trivial
  | true => exact ⟨tags_same fun _ => rfl, fun _ => trivial⟩

theorem tags_statement {β : Type} {g : VolumeStore Sent → VolumeStore Sent × Option β}
    (acts : Tags id own fun s => (g s).1) (fails : Bool) :
    (statement fails g).Every (Tags id own) :=
  every_statement (tags_same fun _ => rfl) acts fails

theorem tags_read {β : Type} {g : VolumeStore Sent → Option β} (fails : Bool) :
    (Volumes.read fails g).Every (Tags id own) :=
  every_read (tags_same fun _ => rfl) fails

/-- The end of a creation: the row is read again. -/
def reloadRow (faults : Faults) (created : Volume) (req : CreateRequest) :
    Prog (VolumeStore Sent) (Except VolumeError Volume) := do
  let some final ← Volumes.read (faults .reload) fun s => s.getVolume created.id req.teamID
    | return .error .reloadVolume
  return .ok final

theorem tags_create (faults : Faults) (link : Link) (id : UUID) (req : CreateRequest) :
    (Volumes.create faults (dispatchTo link) id req).Every
      (Tags (some id) (req.teamID, req.name)) := by
  unfold Volumes.create
  split
  · trivial
  split
  · trivial
  refine Prog.Every.bind (tags_statement tags_insert _) fun created => ?_
  cases created with
  | none => trivial
  | some created =>
    refine Prog.Every.bind (tags_statement tags_hostPath _) fun placed => ?_
    cases placed with
    | none => trivial
    | some _ =>
      refine Prog.Every.bind (tags_dispatchTo _ _ _ _) fun answer => ?_
      have reload : (reloadRow faults created req).Every
          (Tags (some id) (req.teamID, req.name)) := by
        refine Prog.Every.bind (tags_read _) fun final => ?_
        cases final <;> trivial
      dsimp only
      split
      · refine Prog.Every.bind (tags_statement ?_ _) fun _ => reload
        exact tags_update (fun _ => rfl) fun _ => rfl
      · exact reload

theorem tags_deleteRequest (faults : Faults) (link : Link) (teamID k : UUID) :
    (Volumes.delete faults (dispatchTo link) teamID k).Every (Tags (some k) own) := by
  unfold Volumes.delete
  refine Prog.Every.bind (tags_read _) fun found => ?_
  cases found with
  | none => trivial
  | some vol =>
    dsimp only
    split
    · trivial
    refine Prog.Every.bind (tags_dispatchTo _ _ _ _) fun _ => ?_
    refine Prog.Every.bind (tags_statement tags_delete _) fun done => ?_
    cases done <;> trivial

theorem tags_detach (faults : Faults) (teamID k : UUID) :
    (Volumes.detach faults teamID k : Prog (VolumeStore Sent) _).Every (Tags id own) := by
  unfold Volumes.detach
  refine Prog.Every.bind (tags_read _) fun found => ?_
  cases found with
  | none => trivial
  | some vol =>
    dsimp only
    split
    · trivial
    refine Prog.Every.bind (tags_statement ?_ _) fun updated => ?_
    · exact tags_update (fun _ => rfl) fun _ => rfl
    · cases updated <;> trivial

/-- The row a creation answers with is under the id it was given. -/
theorem create_yields (faults : Faults) (link : Link) (id : UUID) (req : CreateRequest) :
    (Volumes.create faults (dispatchTo link) id req).Yields fun answer =>
      ∀ vol, answer = .ok vol → vol.id = id := by
  unfold Volumes.create
  split
  · exact fun vol same => by cases same
  split
  · exact fun vol same => by cases same
  have inserts : (statement (faults .createVolume) fun s : VolumeStore Sent =>
      s.createVolume (req.row id)).Yields fun created => ∀ vol, created = some vol → vol.id = id := by
    intro s vol created
    dsimp only at created
    unfold VolumeStore.createVolume at created
    split at created
    · cases created
    split at created
    · cases created
    split at created
    · cases created
    · cases created
      rfl
  refine inserts.bind fun created named => ?_
  cases created with
  | none => exact fun vol same => by cases same
  | some created =>
    refine (Prog.yields_true _).bind fun placed _ => ?_
    cases placed with
    | none => exact fun vol same => by cases same
    | some _ =>
      refine (Prog.yields_true _).bind fun answer _ => ?_
      have reload : (reloadRow faults created req).Yields
          fun answer => ∀ vol, answer = .ok vol → vol.id = id := by
        refine Prog.Yields.bind (R := fun final => ∀ vol, final = some vol → vol.id = id) ?_
          fun final read => ?_
        · intro s vol found
          split at found
          · cases found
          · rw [← named created rfl]
            exact Table.key_of_find? (VolumeStore.getVolume_eq_some_iff.mp found).1
        · cases final with
          | none => exact fun vol same => by cases same
          | some final =>
            rintro vol ⟨⟩
            exact read _ rfl
      dsimp only
      split
      · exact (Prog.yields_true _).bind fun _ _ => reload
      · exact reload

end Volumes

/-! ## The rows of the secrets -/

/-- An effect that touches secrets under `own` alone, and leaves there secrets of the team in this
environment, or none. -/
def Seals (own : List UUID) (teamID : UUID) (environment : String)
    (effect : SecretStore → SecretStore) : Prop :=
  ∀ s k, (effect s).secrets.find? k = s.secrets.find? k ∨
    (k ∈ own ∧ ∀ secret, (effect s).secrets.find? k = some secret →
      secret.teamID = teamID ∧ secret.environment = environment)

section Secrets

variable {own : List UUID} {teamID : UUID} {environment : String}

theorem seals_same {effect : SecretStore → SecretStore}
    (same : ∀ s, (effect s).secrets = s.secrets) : Seals own teamID environment effect := by
  intro s k
  rw [same s]
  exact .inl rfl

theorem seals_sealing {β : Type} {g : SecretStore → SecretStore × Option β}
    (acts : Seals own teamID environment fun s => (g s).1) (fails : Bool) :
    (sealing fails g).Every (Seals own teamID environment) := by
  refine (Prog.every_atomic _).mpr ?_
  cases fails with
  | true => exact seals_same fun _ => rfl
  | false => exact acts

theorem seals_insert {secret : Secrets.Secret} (mine : secret.id ∈ own)
    (team : secret.teamID = teamID) (named : secret.environment = environment) :
    Seals own teamID environment fun s => (createSecret s secret).1 := by
  intro s k
  dsimp only
  rcases createSecret_cases s secret with refused | ⟨secrets, inserted, accepted⟩
  · rw [refused]
    exact .inl rfl
  · rw [accepted]
    dsimp only
    rw [Table.find?_insert? inserted]
    split
    · next same =>
      refine .inr ⟨same ▸ mine, ?_⟩
      rintro row ⟨⟩
      exact ⟨team, named⟩
    · exact .inl rfl

theorem seals_delete {id : UUID} (mine : id ∈ own) (team : UUID) :
    Seals own teamID environment fun s => (deleteSecret s id team).1 := by
  intro s k
  show Table.find? (Table.deleteWhere _ _) k = _ ∨
    (_ ∧ ∀ secret, Table.find? (Table.deleteWhere _ _) k = some secret → _)
  rw [Table.find?_deleteWhere_eq]
  cases there : s.secrets.find? k with
  | none => exact .inl rfl
  | some secret =>
    have key : secret.id = k := Table.key_of_find? there
    rw [Option.filter_some]
    split
    · exact .inl rfl
    · next gone =>
      refine .inr ⟨?_, nofun⟩
      simp only [Bool.not_eq_true', decide_eq_false_iff_not, not_not] at gone
      rw [← key, gone.1]
      exact mine

theorem seals_create (encrypt : String → String → Option (List UInt8)) (faults : SecretFaults)
    (statement : SecretStatement) {id : UUID} (mine : id ∈ own) (key plaintext : String) :
    (Provisioning.create encrypt faults statement id teamID environment key plaintext).Every
      (Seals own teamID environment) := by
  unfold Provisioning.create
  cases encrypt plaintext (encryptionContext teamID) with
  | none => trivial
  | some ciphertext => exact seals_sealing (seals_insert mine rfl rfl) _

theorem create_yields_id (encrypt : String → String → Option (List UInt8)) (faults : SecretFaults)
    (statement : SecretStatement) (id : UUID) (key plaintext : String) :
    (Provisioning.create encrypt faults statement id teamID environment key plaintext).Yields fun secret =>
      ∀ row, secret = some row → row.id = id := by
  unfold Provisioning.create
  cases encrypt plaintext (encryptionContext teamID) with
  | none => exact nofun
  | some ciphertext =>
    intro s row created
    dsimp only at created
    split at created
    · cases created
    · rcases createSecret_cases s
          { id := id, teamID := teamID, environment := environment, key := key,
            encryptedValue := ciphertext } with refused | ⟨secrets, -, accepted⟩
      · rw [refused] at created
        cases created
      · rw [accepted] at created
        cases created
        rfl

variable (encrypt : String → String → Option (List UInt8)) (faults : SecretFaults)
  (superID appID : UUID) (dbName superPassword appPassword : String)

theorem seals_createDatabaseSecrets :
    (createDatabaseSecrets encrypt faults superID appID teamID dbName superPassword
      appPassword).Every (Seals [superID, appID] teamID ("database:" ++ dbName)) := by
  unfold createDatabaseSecrets
  dsimp only
  refine Prog.Every.bind_yields (seals_create encrypt faults _ (by simp) _ _)
    (create_yields_id encrypt faults _ _ _ _) fun superSecret named => ?_
  cases superSecret with
  | none => trivial
  | some superSecret =>
    refine Prog.Every.bind (seals_create encrypt faults _ (by simp) _ _) fun appSecret => ?_
    cases appSecret with
    | some appSecret => trivial
    | none =>
      have mine : superSecret.id ∈ [superID, appID] := by
        rw [named superSecret rfl]
        exact List.mem_cons_self
      exact Prog.Every.bind (seals_sealing (seals_delete mine _) _) fun _ => trivial

theorem createDatabaseSecrets_yields :
    (createDatabaseSecrets encrypt faults superID appID teamID dbName superPassword
      appPassword).Yields fun stored => ∀ ids, stored = some ids → ids = (superID, appID) := by
  unfold createDatabaseSecrets
  dsimp only
  refine (create_yields_id encrypt faults _ _ _ _).bind fun superSecret named => ?_
  cases superSecret with
  | none => exact nofun
  | some superSecret =>
    refine (create_yields_id encrypt faults _ _ _ _).bind fun appSecret appNamed => ?_
    cases appSecret with
    | none => exact (Prog.yields_true _).bind fun _ _ => nofun
    | some appSecret =>
      rintro ids ⟨⟩
      rw [named superSecret rfl, appNamed appSecret rfl]

theorem seals_deleteLogged (log statement : SecretStatement) {id : UUID} (mine : id ∈ own)
    (team : UUID) :
    (deleteLogged faults log statement id team).Every (Seals own teamID environment) := by
  unfold deleteLogged
  refine Prog.Every.bind (seals_sealing (seals_same fun s => ?_) _) fun _ => ?_
  · unfold logDelete
    split <;> rfl
  · exact seals_sealing (seals_delete mine _) _

end Secrets

/-! ## Histories -/

/-- A call of a team, or the end of the goroutine that a `Provision` starts. -/
inductive Event where
  | provision (c : Course) (ids : RowIDs) (req : ProvisionRequest)
  | settle (fate : Fate) (teamID serverID : UUID) (d : Database) (tmpl : Template)
      (version : Version) (vol : Option Volume)
  | delete (fate : Fate) (dbID : UUID)

section Histories

variable (encrypt : String → String → Option (List UInt8)) (templates : Registry)

def Event.code : Event → Prog Estate Unit
  | .provision c ids req => ignore (Provisioning.provision encrypt templates c ids req)
  | .settle fate teamID serverID d tmpl version vol =>
    onBound (runDeployAsync fate teamID serverID d tmpl version vol)
  | .delete fate dbID => onBound (ignore (Databases.delete fate dbID))

def after (s : Estate) (e : Event) : Estate := (e.code encrypt templates).out s

/-! ### What a call does to the rows that are kept -/

/-- Every row keeps its team and its name, apart from those under the ids given, which are there
for this name if at all. -/
structure Marks (volume : Option UUID) (own : List UUID) (teamID : UUID) (name : String) (s s' : Estate) : Prop where
  volumes : ∀ k, tag s'.bound.vols k = tag s.bound.vols k ∨
    (volume = some k ∧ ∀ t, tag s'.bound.vols k = some t → t = (teamID, "db-" ++ name))
  secrets : ∀ k, s'.secrets.secrets.find? k = s.secrets.secrets.find? k ∨
    (k ∈ own ∧ ∀ secret, s'.secrets.secrets.find? k = some secret →
      secret.teamID = teamID ∧ secret.environment = "database:" ++ name)

section Marks

variable {volume : Option UUID} {own : List UUID} {teamID : UUID} {name : String}

theorem Marks.refl (s : Estate) : Marks volume own teamID name s s :=
  ⟨fun _ => .inl rfl, fun _ => .inl rfl⟩

theorem Marks.trans {s s' s'' : Estate} (first : Marks volume own teamID name s s')
    (second : Marks volume own teamID name s' s'') : Marks volume own teamID name s s'' := by
  constructor
  · intro k
    rcases second.volumes k with same | mine
    · rw [same]
      exact first.volumes k
    · exact .inr mine
  · intro k
    rcases second.secrets k with same | mine
    · rw [same]
      exact first.secrets k
    · exact .inr mine

/-- What every effect of a call does, the call does. -/
theorem Marks.out {β : Type} {p : Prog Estate β}
    (every : p.Every fun effect => ∀ s, Marks volume own teamID name s (effect s)) (s : Estate) :
    Marks volume own teamID name s (p.out s) := by
  refine Prog.Every.run_preserves (I := Marks volume own teamID name s) (every.mono ?_) (.refl s)
  intro effect marks t before
  exact before.trans (marks t)

theorem marks_onVolumes {β : Type} {p : Prog (VolumeStore Sent) β}
    (tags : p.Every (Tags volume (teamID, "db-" ++ name))) :
    (onBound (onVolumes p)).Every fun effect => ∀ s, Marks volume own teamID name s (effect s) := by
  refine Prog.Every.within (P := fun effect : BoundStore → BoundStore => ∀ t,
    ∃ volumes, Tags volume (teamID, "db-" ++ name) volumes ∧
      (effect t).vols = volumes t.vols) ?_ (tags.within fun effect tags t => ⟨effect, tags, rfl⟩)
  intro effect acts s
  obtain ⟨volumes, tags, same⟩ := acts s.bound
  refine ⟨fun k => ?_, fun k => .inl rfl⟩
  dsimp only
  rw [same]
  exact tags _ k

theorem marks_onBound {β : Type} {p : Prog BoundStore β}
    (beside : p.Every fun effect => ∀ t, (effect t).vols = t.vols) :
    (onBound p).Every fun effect => ∀ s, Marks volume own teamID name s (effect s) := by
  refine beside.within fun effect same s => ⟨fun k => ?_, fun k => .inl rfl⟩
  dsimp only
  rw [same]
  exact .inl rfl

theorem marks_onSecrets {β : Type} {p : Prog SecretStore β}
    (seals : p.Every (Seals own teamID ("database:" ++ name))) :
    (onSecrets p).Every fun effect => ∀ s, Marks volume own teamID name s (effect s) := by
  refine seals.within fun effect seals s => ⟨fun k => .inl rfl, fun k => ?_⟩
  exact seals s.secrets k

theorem marks_ignore {β : Type} {p : Prog Estate β}
    (every : p.Every fun effect => ∀ s, Marks volume own teamID name s (effect s)) :
    (ignore p).Every fun effect => ∀ s, Marks volume own teamID name s (effect s) :=
  Prog.Every.bind every fun _ => trivial

end Marks

/-- What a `Provision` does, with the ids it is given. -/
abbrev ProvisionMarks (ids : RowIDs) (teamID : UUID) (name : String) : Estate → Estate → Prop :=
  Marks (some ids.volume) [ids.superSecret, ids.appSecret] teamID name

/-! ### The calls -/

section Calls

variable {c : Course} {ids : RowIDs} {req : ProvisionRequest} {name : String}

theorem beside_look {β : Type} (fails : Bool) (g : BoundStore → Option β) :
    (look fails g).Every fun effect => ∀ t, (effect t).vols = t.vols :=
  (Prog.every_query _).mpr fun _ => rfl

theorem beside_act {β : Type} {g : BoundStore → BoundStore × Option β}
    (beside : ∀ t, (g t).1.vols = t.vols) (fails : Bool) :
    (act fails g).Every fun effect => ∀ t, (effect t).vols = t.vols := by
  refine (Prog.every_atomic _).mpr ?_
  cases fails with
  | true => exact fun _ => rfl
  | false => exact beside

theorem beside_createDatabase (row : Database) (fails : Bool) :
    (act fails fun t => t.createDatabase row).Every fun effect =>
      ∀ t, (effect t).vols = t.vols := by
  refine beside_act (fun t => ?_) fails
  unfold BoundStore.createDatabase
  split
  · rfl
  split
  · rfl
  · split <;> rfl

theorem beside_prepare (c : Course) (ids : RowIDs) (req : ProvisionRequest) :
    (prepare templates c ids req).Every fun effect => ∀ t, (effect t).vols = t.vols := by
  unfold prepare
  cases templates req.templateSlug with
  | none => trivial
  | some tmpl =>
  cases getVersion templates req.templateSlug req.version with
  | none => trivial
  | some version =>
  refine Prog.Every.bind (beside_look _ _) fun project => ?_
  cases project with
  | none => trivial
  | some project =>
  dsimp only
  split
  · trivial
  refine Prog.Every.bind ((reads_resolvePlacement c.fate _ _ _).mono ?_) fun placed => ?_
  · rintro effect rfl t
    rfl
  cases placed with
  | error error => trivial
  | ok serverID =>
  cases provisionName req ids c.suffix with
  | none => trivial
  | some name =>
  cases c.superPassword with
  | none => trivial
  | some superPassword =>
  cases c.appPassword <;> trivial

theorem prepare_named (c : Course) (ids : RowIDs) (req : ProvisionRequest) :
    (prepare templates c ids req).Yields fun answer =>
      ∀ p, answer = .ok p → provisionName req ids c.suffix = some p.name := by
  unfold prepare
  cases templates req.templateSlug with
  | none => exact nofun
  | some tmpl =>
  cases getVersion templates req.templateSlug req.version with
  | none => exact nofun
  | some version =>
  refine (Prog.yields_true _).bind fun project _ => ?_
  cases project with
  | none => exact nofun
  | some project =>
  dsimp only
  split
  · exact nofun
  refine (Prog.yields_true _).bind fun placed _ => ?_
  cases placed with
  | error error => exact nofun
  | ok serverID =>
  cases provisionName req ids c.suffix with
  | none => exact nofun
  | some name =>
  cases c.superPassword with
  | none => exact nofun
  | some superPassword =>
  cases c.appPassword with
  | none => exact nofun
  | some appPassword =>
    rintro p ⟨⟩
    rfl

theorem marks_unlessNil {undo : Prog Estate Unit} (id : UUID)
    (every : undo.Every fun effect => ∀ s, ProvisionMarks ids req.teamID name s (effect s)) :
    (unlessNil id undo).Every fun effect => ∀ s, ProvisionMarks ids req.teamID name s (effect s) := by
  unfold unlessNil
  split
  · exact every
  · trivial

theorem marks_rollbackProvision {superID appID : UUID}
    (super : superID = ids.superSecret ∨ superID = UUID.nil)
    (app : appID = ids.appSecret ∨ appID = UUID.nil) :
    (Provisioning.rollbackProvision c req.teamID ids.volume superID appID).Every fun effect =>
      ∀ s, ProvisionMarks ids req.teamID name s (effect s) := by
  unfold Provisioning.rollbackProvision
  refine Prog.Every.bind (marks_unlessNil _ (marks_ignore (marks_onVolumes
    (tags_deleteRequest _ _ _ _)))) fun _ => Prog.Every.bind ?_ fun _ => ?_
  · rcases super with rfl | rfl
    · exact marks_unlessNil _ (marks_ignore (marks_onSecrets
        (seals_deleteLogged _ _ _ (by simp) _)))
    · rw [unlessNil_nil]
      trivial
  · rcases app with rfl | rfl
    · exact marks_unlessNil _ (marks_ignore (marks_onSecrets
        (seals_deleteLogged _ _ _ (by simp) _)))
    · rw [unlessNil_nil]
      trivial

theorem marks_store {p : Prepared} {vol : Volume} (here : vol.id = ids.volume)
    (named : p.name = name) :
    (store encrypt c ids req p vol).Every fun effect =>
      ∀ s, ProvisionMarks ids req.teamID name s (effect s) := by
  subst named
  unfold store
  rw [here]
  refine Prog.Every.bind_yields (marks_onSecrets (seals_createDatabaseSecrets _ _ _ _ _ _ _))
    (createDatabaseSecrets_yields _ _ _ _ _ _ _).within fun stored known => ?_
  cases stored with
  | none => exact Prog.Every.bind (marks_rollbackProvision (.inr rfl) (.inr rfl)) fun _ => trivial
  | some stored =>
    cases known stored rfl
    refine Prog.Every.bind (marks_onBound (beside_createDatabase _ _)) fun created => ?_
    cases created with
    | some created => trivial
    | none =>
      exact Prog.Every.bind (marks_rollbackProvision (.inl rfl) (.inl rfl)) fun _ => trivial

/-- A `Provision` leaves the rows of others, and its own are for its name. -/
theorem marks_provision (named : ∀ n, provisionName req ids c.suffix = some n → n = name) :
    (Provisioning.provision encrypt templates c ids req).Every fun effect =>
      ∀ s, ProvisionMarks ids req.teamID name s (effect s) := by
  unfold Provisioning.provision
  refine Prog.Every.bind_yields (marks_onBound (beside_prepare templates c ids req))
    (prepare_named templates c ids req).within fun prepared known => ?_
  cases prepared with
  | error error => trivial
  | ok p =>
    have mine : p.name = name := named _ (known p rfl)
    refine Prog.Every.bind_yields (marks_onVolumes ?_)
      (create_yields _ _ _ _).within.within fun created here => ?_
    · rw [← mine]
      exact tags_create c.volumeFaults c.link ids.volume (req.volume p.serverID p.tmpl p.name)
    · cases created with
      | error error => trivial
      | ok vol => exact marks_store encrypt (here vol rfl) mine

end Calls

/-! ### When a call succeeds -/

/-- A database of the project has this name. -/
def Live (s : Estate) (projectID : UUID) (name : String) : Prop :=
  ∃ d ∈ s.bound.databases.rows, d.projectID = projectID ∧ d.name = name

/-- The team has the volume of a database of this name. -/
def VolumeKept (s : Estate) (teamID : UUID) (name : String) : Prop :=
  ∃ vol ∈ s.bound.vols.volumes.rows, vol.teamID = teamID ∧ vol.name = "db-" ++ name

/-- The team has credentials of a database of this name. -/
def SecretKept (s : Estate) (teamID : UUID) (name : String) : Prop :=
  ∃ secret ∈ s.secrets.secrets.rows, secret.teamID = teamID ∧
    secret.environment = "database:" ++ name ∧
    (secret.key = "SUPERUSER_PASSWORD" ∨ secret.key = "APP_PASSWORD")

/-- The team keeps nothing of a database of this name. -/
def Unkept (s : Estate) (teamID : UUID) (name : String) : Prop :=
  ¬ VolumeKept s teamID name ∧ ¬ SecretKept s teamID name

/-- No statement fails. -/
structure Works (c : Course) : Prop where
  faults : ∀ statement, c.faults statement = false
  volumeFaults : ∀ statement, c.volumeFaults statement = false
  secretFaults : ∀ statement, c.secretFaults statement = false

/-- The ids given out are new. -/
structure Unused (ids : RowIDs) (s : Estate) : Prop where
  volume : s.bound.vols.volumes.find? ids.volume = none
  superSecret : s.secrets.secrets.find? ids.superSecret = none
  appSecret : s.secrets.secrets.find? ids.appSecret = none
  apart : ids.superSecret ≠ ids.appSecret
  database : s.bound.databases.find? ids.database = none

/-- The request passes the checks and the store works. -/
structure InOrder (c : Course) (ids : RowIDs) (req : ProvisionRequest) (s : Estate)
    (p : Prepared) : Prop where
  works : Works c
  unused : Unused ids s
  admits : Admits templates c ids req s.bound p
  /-- The size is an `int32` above zero. -/
  sized : 0 < (req.volume p.serverID p.tmpl p.name).sizeGb
  encrypts : ∀ plaintext, encrypt plaintext (encryptionContext req.teamID) ≠ none

section Success

variable {c : Course} {ids : RowIDs} {req : ProvisionRequest} {s : Estate} {p : Prepared}

theorem undoes_of_works (works : Works c) : c.Undoes :=
  ⟨works.volumeFaults _, works.volumeFaults _, works.secretFaults _, works.secretFaults _,
    works.secretFaults _⟩

theorem not_loses (works : Works c) : ¬ c.Loses := by
  rintro (path | reload)
  · exact absurd path (by rw [works.volumeFaults]; exact Bool.false_ne_true)
  · exact absurd reload (by rw [works.volumeFaults]; exact Bool.false_ne_true)

theorem createVolume_accepts {vols : VolumeStore Sent} {vol : Volume}
    (free : vols.volumes.find? vol.id = none) :
    (vols.createVolume vol).2 ≠ none ↔
      ¬ ∃ other ∈ vols.volumes.rows, other.teamID = vol.teamID ∧ other.name = vol.name := by
  have any : (vols.volumes.rows.any fun other =>
        other.teamID = vol.teamID ∧ other.name = vol.name) = true ↔
      ∃ other ∈ vols.volumes.rows, other.teamID = vol.teamID ∧ other.name = vol.name := by
    simp [List.any_eq_true]
  rw [← any]
  unfold VolumeStore.createVolume
  split
  · next taken => exact iff_of_false (fun accepted => accepted rfl) (not_not_intro taken)
  · next unused =>
    cases inserted : vols.volumes.insert? vol with
    | none => exact absurd free (Table.insert?_eq_none_iff.mp inserted)
    | some volumes => exact iff_of_true nofun unused

theorem createSecret_accepts {t : SecretStore} {secret : Secrets.Secret}
    (free : t.secrets.find? secret.id = none) :
    ((¬ ∃ other ∈ t.secrets.rows, other.teamID = secret.teamID ∧
          other.environment = secret.environment ∧ other.key = secret.key) ∧
        ∃ secrets, t.secrets.insert? secret = some secrets ∧
          createSecret t secret = ({ t with secrets := secrets }, some secret)) ∨
      ((∃ other ∈ t.secrets.rows, other.teamID = secret.teamID ∧
          other.environment = secret.environment ∧ other.key = secret.key) ∧
        createSecret t secret = (t, none)) := by
  have any : (t.secrets.rows.any fun other => other.teamID = secret.teamID ∧
        other.environment = secret.environment ∧ other.key = secret.key) = true ↔
      ∃ other ∈ t.secrets.rows, other.teamID = secret.teamID ∧
        other.environment = secret.environment ∧ other.key = secret.key := by
    simp [List.any_eq_true]
  rw [← any]
  unfold createSecret
  split
  · next taken => exact .inr ⟨taken, rfl⟩
  · next unused =>
    cases inserted : t.secrets.insert? secret with
    | none => exact absurd free (Table.insert?_eq_none_iff.mp inserted)
    | some secrets => exact .inl ⟨unused, secrets, rfl, rfl⟩

theorem createDatabaseSecrets_accepts (works : Works c) (unused : Unused ids s)
    (encrypts : ∀ plaintext, encrypt plaintext (encryptionContext req.teamID) ≠ none) :
    (createDatabaseSecrets encrypt c.secretFaults ids.superSecret ids.appSecret req.teamID
        p.name p.superPassword p.appPassword).result s.secrets ≠ none ↔
      ¬ SecretKept s req.teamID p.name := by
  obtain ⟨superCipher, super⟩ := Option.ne_none_iff_exists'.mp (encrypts p.superPassword)
  obtain ⟨appCipher, app⟩ := Option.ne_none_iff_exists'.mp (encrypts p.appPassword)
  unfold Prog.result createDatabaseSecrets
  dsimp only
  unfold Provisioning.create sealing
  rw [super, app]
  dsimp only
  rw [Prog.run_atomic_bind, works.secretFaults, if_neg Bool.false_ne_true]
  rcases @createSecret_accepts s.secrets ⟨ids.superSecret, req.teamID, "database:" ++ p.name,
      "SUPERUSER_PASSWORD", superCipher, 1, none⟩ unused.superSecret with
    ⟨superFree, secrets, inserted, accepted⟩ | ⟨superTaken, refused⟩
  · rw [accepted]
    dsimp only
    rw [Prog.run_atomic_bind, works.secretFaults, if_neg Bool.false_ne_true]
    have appUnused : secrets.find? ids.appSecret = none := by
      rw [Table.find?_insert? inserted]
      exact (if_neg unused.apart).trans unused.appSecret
    have member : ∀ other, other ∈ secrets.rows ↔ other = _ ∨ other ∈ s.secrets.secrets.rows :=
      fun other => Table.mem_insert? inserted
    rcases @createSecret_accepts { s.secrets with secrets := secrets } ⟨ids.appSecret, req.teamID,
        "database:" ++ p.name, "APP_PASSWORD", appCipher, 1, none⟩ appUnused with
      ⟨appFree, _, -, both⟩ | ⟨⟨other, there, same⟩, refused⟩
    · rw [both]
      refine iff_of_true nofun ?_
      rintro ⟨secret, there, team, named, key | key⟩
      · exact superFree ⟨secret, there, team, named, key⟩
      · exact appFree ⟨secret, (member secret).mpr (.inr there), team, named, key⟩
    · rw [refused]
      dsimp only
      rw [Prog.run_atomic_bind]
      refine iff_of_false (fun accepted => accepted rfl) (not_not_intro ?_)
      rcases (member other).mp there with rfl | there
      · exact absurd same.2.2 (show "SUPERUSER_PASSWORD" ≠ "APP_PASSWORD" by decide)
      · exact ⟨other, there, same.1, same.2.1, .inr same.2.2⟩
  · rw [refused]
    refine iff_of_false (fun accepted => accepted rfl) (not_not_intro ?_)
    obtain ⟨other, there, team, named, key⟩ := superTaken
    exact ⟨other, there, team, named, .inl key⟩

/-- A request in order succeeds just if its name is free in all three tables. -/
theorem succeeds_iff (ok : InOrder encrypt templates c ids req s p) :
    (∃ d, (Provisioning.provision encrypt templates c ids req).result s = .ok d) ↔
      Unkept s req.teamID p.name ∧ ¬ Live s req.projectID p.name := by
  have named : (req.volume p.serverID p.tmpl p.name).name ≠ "" := by
    intro none
    have letters := congrArg String.toList none
    simp [ProvisionRequest.volume] at letters
  have volume : ((s.bound.vols.createVolume
        ((req.volume p.serverID p.tmpl p.name).row ids.volume)).2 ≠ none) ↔
      ¬ VolumeKept s req.teamID p.name := createVolume_accepts ok.unused.volume
  have secrets := createDatabaseSecrets_accepts encrypt (p := p) ok.works ok.unused ok.encrypts
  have database : (∀ key ∈ keysOf s.bound, key.2 ≠ (req.projectID, p.name)) ↔
      ¬ Live s req.projectID p.name := by
    simp [keysOf, Live]
  rcases provision_cases encrypt templates c ids req s with
    ⟨⟨p', inserts, -, keeps⟩, d, worked, -⟩ | ⟨fails, error, failed⟩
  · cases ok.admits.unique inserts.admits
    exact iff_of_true ⟨d, worked⟩
      ⟨⟨volume.mp inserts.lands.accepted, secrets.mp keeps.secrets⟩, database.mp keeps.fits.name⟩
  · refine iff_of_false ?_ ?_
    · rintro ⟨d, worked⟩
      rw [failed] at worked
      cases worked
    · rintro ⟨⟨noVolume, noSecret⟩, notLive⟩
      refine fails ⟨p, ⟨ok.admits, ?_⟩, not_loses ok.works, ?_⟩
      · exact ⟨named, ok.sized, ok.works.volumeFaults _, volume.mpr noVolume⟩
      · exact ⟨secrets.mpr noSecret, ok.works.faults _, ok.unused.database, database.mpr notLive⟩

end Success

/-! ### What a history keeps -/

section Kept

variable {teamID : UUID} {name : String}

theorem volumeKept_iff {s : Estate} :
    VolumeKept s teamID name ↔ ∃ k, tag s.bound.vols k = some (teamID, "db-" ++ name) := by
  constructor
  · rintro ⟨vol, member, team, named⟩
    have found : s.bound.vols.volumes.find? vol.id = some vol := Table.find?_self member
    refine ⟨vol.id, ?_⟩
    rw [tag, found, Option.map_some, team, named]
  · rintro ⟨k, tagged⟩
    obtain ⟨vol, found, same⟩ := Option.map_eq_some_iff.mp tagged
    obtain ⟨team, named⟩ := Prod.ext_iff.mp same
    exact ⟨vol, Table.mem_of_find? found, team, named⟩

theorem secretKept_iff {s : Estate} :
    SecretKept s teamID name ↔ ∃ k secret, s.secrets.secrets.find? k = some secret ∧
      secret.teamID = teamID ∧ secret.environment = "database:" ++ name ∧
      (secret.key = "SUPERUSER_PASSWORD" ∨ secret.key = "APP_PASSWORD") := by
  constructor
  · rintro ⟨secret, member, holds⟩
    exact ⟨secret.id, secret, Table.find?_self (show secret ∈ s.secrets.secrets from member), holds⟩
  · rintro ⟨k, secret, found, holds⟩
    exact ⟨secret, Table.mem_of_find? found, holds⟩

theorem unkept_congr {s s' : Estate} (volumes : ∀ k, tag s'.bound.vols k = tag s.bound.vols k)
    (secrets : ∀ k, s'.secrets.secrets.find? k = s.secrets.secrets.find? k) :
    Unkept s' teamID name ↔ Unkept s teamID name := by
  unfold Unkept
  rw [volumeKept_iff, volumeKept_iff, secretKept_iff, secretKept_iff]
  simp only [volumes, secrets]

/-- A row of another name, new under an id that was free, takes no name but its own. -/
theorem unkept_of_marks {s s' : Estate} {ids : RowIDs} {team : UUID} {n : String}
    (unused : Unused ids s) (marks : ProvisionMarks ids team n s s')
    (other : ¬ (team = teamID ∧ n = name)) :
    Unkept s' teamID name ↔ Unkept s teamID name := by
  have volume : VolumeKept s' teamID name ↔ VolumeKept s teamID name := by
    rw [volumeKept_iff, volumeKept_iff]
    refine exists_congr fun k => ?_
    rcases marks.volumes k with same | ⟨here, own⟩
    · rw [same]
    · cases here
      refine iff_of_false (fun tagged => ?_) ?_
      · obtain ⟨rfl, named⟩ := Prod.ext_iff.mp (own _ tagged)
        exact other ⟨rfl, ((String.append_right_inj "db-").mp named).symm⟩
      · rw [tag, unused.volume]
        exact nofun
  have secrets : SecretKept s' teamID name ↔ SecretKept s teamID name := by
    rw [secretKept_iff, secretKept_iff]
    refine exists_congr fun k => exists_congr fun secret => ?_
    rcases marks.secrets k with same | ⟨here, own⟩
    · rw [same]
    · refine iff_of_false (fun ⟨found, mine, environment, _⟩ => ?_) (fun ⟨found, _⟩ => ?_)
      · obtain ⟨rfl, named⟩ := own secret found
        exact other ⟨mine, (String.append_right_inj "database:").mp (named.symm.trans environment)⟩
      · simp only [List.mem_cons, List.not_mem_nil, or_false] at here
        rcases here with rfl | rfl
        · cases unused.superSecret.symm.trans found
        · cases unused.appSecret.symm.trans found
  unfold Unkept
  rw [volume, secrets]

end Kept

section Steps

variable {c : Course} {ids : RowIDs} {req : ProvisionRequest} {s : Estate}

/-- A call that works and fails leaves nothing new. -/
theorem nothingNew_of_error (works : Works c) {error : ProvisionError}
    (failed : (Provisioning.provision encrypt templates c ids req).result s = .error error) :
    NothingNew s ((Provisioning.provision encrypt templates c ids req).out s) := by
  unfold Prog.result Prog.out at *
  rcases provision_stages encrypt templates c ids req s with
    ⟨-, error', t, ran, clean⟩ | ⟨p, inserts, ⟨lost, -⟩ | ⟨-, vol, t, turns⟩⟩
  · rw [ran]
    exact clean
  · exact absurd lost (not_loses works)
  · rw [turns.run] at failed ⊢
    exact store_undone (undoes_of_works works) turns.here rfl turns.added failed

/-- A call that succeeds leaves the volume it has inserted. -/
theorem volume_of_ok {d : Database} (works : Works c)
    (worked : (Provisioning.provision encrypt templates c ids req).result s = .ok d) :
    tag ((Provisioning.provision encrypt templates c ids req).out s).bound.vols ids.volume ≠
      none := by
  unfold Prog.result Prog.out at *
  rcases provision_stages encrypt templates c ids req s with
    ⟨-, error', t, ran, clean⟩ | ⟨p, inserts, ⟨lost, -⟩ | ⟨-, vol, t, turns⟩⟩
  · rw [ran] at worked
    cases worked
  · exact absurd lost (not_loses works)
  · rw [turns.run] at worked ⊢
    obtain ⟨row, found, -⟩ := turns.added.volume.row
    have there := (VolumeStore.getVolume_eq_some_iff.mp found).1
    dsimp only at there
    suffices kept : ((store encrypt c ids req p vol).run { s with bound := t }).1.bound.vols =
        t.vols by
      rw [kept, tag, there]
      exact nofun
    unfold store at worked ⊢
    rw [Prog.run_bind, run_onSecrets] at worked ⊢
    generalize (createDatabaseSecrets encrypt c.secretFaults ids.superSecret ids.appSecret
      req.teamID p.name p.superPassword p.appPassword).run s.secrets = stored at worked ⊢
    obtain ⟨secrets, stored⟩ := stored
    cases stored with
    | none =>
      dsimp only at worked
      rw [Prog.run_bind] at worked
      cases worked
    | some stored =>
      dsimp only at worked ⊢
      rw [Prog.run_bind, run_onBound] at worked ⊢
      dsimp only at worked ⊢
      have same := Prog.Every.run_unchanged BoundStore.vols (beside_createDatabase
        (req.row ⟨ids.volume, ids.database, ""⟩ p.serverID vol p.name
          (databaseContainer p.project p.name)) (c.faults .createDatabase)) t
      generalize (act (c.faults .createDatabase) fun t => t.createDatabase
        (req.row ⟨ids.volume, ids.database, ""⟩ p.serverID vol p.name
          (databaseContainer p.project p.name))).run t = made at worked same ⊢
      obtain ⟨bound, created⟩ := made
      cases created with
      | none =>
        dsimp only at worked
        rw [Prog.run_bind] at worked
        cases worked
      | some created => exact same

end Steps

/-- The call of a history provisions a database of this name for the team. -/
def Event.Provisions (s : Estate) (teamID : UUID) (name : String) : Event → Prop
  | .provision c ids req => req.teamID = teamID ∧ provisionName req ids c.suffix = some name ∧
      ∃ d, (Provisioning.provision encrypt templates c ids req).result s = .ok d
  | _ => False

/-- One of the calls of a history has provisioned a database of this name for the team. -/
def ProvisionedIn : Estate → List Event → UUID → String → Prop
  | _, [], _, _ => False
  | s, e :: history, teamID, name => e.Provisions encrypt templates s teamID name ∨
      ProvisionedIn (after encrypt templates s e) history teamID name

/-- A `Provision` of the history finds a working store and gets new ids. -/
def Event.AtWork (s : Estate) : Event → Prop
  | .provision c ids _ => Works c ∧ Unused ids s
  | _ => True

/-- An effect on the rows of a cluster that leaves the tags of its volumes. -/
def Beside (effect : BoundStore → BoundStore) : Prop :=
  ∃ volumes, Tags none (0, "") volumes ∧ ∀ t, (effect t).vols = volumes t.vols

theorem Beside.of_same {effect : BoundStore → BoundStore}
    (same : ∀ t, (effect t).vols = t.vols) : Beside effect :=
  ⟨id, tags_same fun _ => rfl, same⟩

theorem calm_beside (fate : Fate) : Calm fate Beside where
  nothing := .of_same fun _ => rfl
  status _ _ := .of_same fun _ => rfl
  stops _ := .of_same fun _ => rfl
  deletes _ := .of_same fun _ => rfl
  detaches _ _ := (tags_detach _ _ _).within fun effect tags => ⟨effect, tags, fun _ => rfl⟩

theorem unkept_beside {p : Prog BoundStore PUnit} (every : p.Every Beside) (s : Estate)
    {teamID : UUID} {name : String} :
    Unkept ((onBound p).out s) teamID name ↔ Unkept s teamID name := by
  rw [Prog.out, run_onBound]
  refine unkept_congr (fun k => ?_) fun k => rfl
  refine Prog.Every.run_unchanged (fun t : BoundStore => tag t.vols k) (every.mono ?_) s.bound
  rintro effect ⟨volumes, tags, same⟩ t
  rw [same]
  exact (tags t.vols k).resolve_right fun gone => by cases gone.1

/-- **One event.**  A name is taken by the call that provisions it, and by no other. -/
theorem unkept_after {s : Estate} {e : Event} (atWork : e.AtWork s) {teamID : UUID}
    {name : String} :
    Unkept (after encrypt templates s e) teamID name ↔
      Unkept s teamID name ∧ ¬ e.Provisions encrypt templates s teamID name := by
  cases e with
  | settle fate team serverID d tmpl version vol =>
    refine (unkept_beside ((calm_beside fate).runDeployAsync_every _ (.of_same fun _ => rfl))
      s).trans ?_
    exact (and_iff_left fun provisions => provisions).symm
  | delete fate dbID =>
    have every : (ignore (Databases.delete fate dbID)).Every Beside :=
      Prog.Every.bind ((calm_beside fate).delete_every dbID) fun _ => trivial
    exact (unkept_beside every s).trans (and_iff_left fun provisions => provisions).symm
  | provision c ids req =>
    obtain ⟨works, unused⟩ := atWork
    have same : after encrypt templates s (.provision c ids req) =
        (Provisioning.provision encrypt templates c ids req).out s := by
      show ((ignore (Provisioning.provision encrypt templates c ids req)).run s).1 = _
      rw [ignore, Prog.run_bind]
      rfl
    rw [same]
    have marks : ∀ n, (∀ n', provisionName req ids c.suffix = some n' → n' = n) →
        ProvisionMarks ids req.teamID n s
          ((Provisioning.provision encrypt templates c ids req).out s) :=
      fun n named => Marks.out (marks_provision encrypt templates named) s
    cases answer : (Provisioning.provision encrypt templates c ids req).result s with
    | error error =>
      have clean := nothingNew_of_error encrypt templates works answer
      have marks := marks ((provisionName req ids c.suffix).getD "") (by
        intro n' named
        rw [named, Option.getD_some])
      refine (unkept_congr (fun k => ?_) fun k => ?_).trans (and_iff_left ?_).symm
      · rcases marks.volumes k with same | ⟨here, -⟩
        · exact same
        · cases here
          rw [tag, tag, clean.volumes _ unused.volume, unused.volume]
      · rcases marks.secrets k with same | ⟨here, -⟩
        · exact same
        · simp only [List.mem_cons, List.not_mem_nil, or_false] at here
          rcases here with rfl | rfl
          · rw [clean.secrets _ unused.superSecret, unused.superSecret]
          · rw [clean.secrets _ unused.appSecret, unused.appSecret]
      · rintro ⟨-, -, d, worked⟩
        rw [answer] at worked
        cases worked
    | ok d =>
      obtain ⟨n, named⟩ : ∃ n, provisionName req ids c.suffix = some n := by
        rcases provision_cases encrypt templates c ids req s with
          ⟨⟨p, inserts, -⟩, -⟩ | ⟨-, error, failed⟩
        · exact ⟨p.name, inserts.admits.name⟩
        · rw [answer] at failed
          cases failed
      have marks := marks n fun n' named' => Option.some.inj (named'.symm.trans named)
      by_cases own : req.teamID = teamID ∧ n = name
      · obtain ⟨rfl, rfl⟩ := own
        refine iff_of_false (fun unkept => unkept.1 ?_) ?_
        · rw [volumeKept_iff]
          refine ⟨ids.volume, ?_⟩
          obtain ⟨t, tagged⟩ := Option.ne_none_iff_exists'.mp
            (volume_of_ok encrypt templates works answer)
          rcases marks.volumes ids.volume with same | ⟨-, own⟩
          · rw [same, tag, unused.volume] at tagged
            cases tagged
          · rw [tagged, own t tagged]
        · exact fun free => free.2 ⟨rfl, named, d, answer⟩
      · refine (unkept_of_marks unused marks own).trans (and_iff_left ?_).symm
        rintro ⟨team, named', -⟩
        exact own ⟨team, Option.some.inj (named.symm.trans named')⟩

/-- **A history.**  What a team has free is what it had free and no call has provisioned. -/
theorem unkept_history {s : Estate} {history : List Event}
    (atWork : Runs.Along (after encrypt templates) (fun s e => e.AtWork s) s history)
    {teamID : UUID} {name : String} :
    Unkept (history.foldl (after encrypt templates) s) teamID name ↔
      Unkept s teamID name ∧ ¬ ProvisionedIn encrypt templates s history teamID name := by
  induction history generalizing s with
  | nil => exact (and_iff_left fun provisioned => provisioned).symm
  | cons e history ih =>
    rw [List.foldl_cons, ih atWork.2, unkept_after encrypt templates atWork.1, and_assoc,
      ← not_or]
    rfl

/-- A team that has no volume and no secret. -/
structure NewTeam (s : Estate) (teamID : UUID) : Prop where
  volumes : ∀ vol ∈ s.bound.vols.volumes.rows, vol.teamID ≠ teamID
  secrets : ∀ secret ∈ s.secrets.secrets.rows, secret.teamID ≠ teamID

theorem NewTeam.unkept {s : Estate} {teamID : UUID} (fresh : NewTeam s teamID) (name : String) :
    Unkept s teamID name :=
  ⟨fun ⟨vol, member, team, _⟩ => fresh.volumes vol member team,
    fun ⟨secret, member, team, _⟩ => fresh.secrets secret member team⟩

/-- **When a free name can be provisioned.**  Behind every history of a team, a request in order
for a name that no database of the project has succeeds just if the team keeps nothing of a
database of that name; and where the calls of the history found a working store, that is just if
none of them has provisioned the name. -/
theorem free_name_provisioned_iff {s₀ : Estate} {history : List Event} {c : Course} {ids : RowIDs}
    {req : ProvisionRequest} {p : Prepared} (fresh : NewTeam s₀ req.teamID)
    (ok : InOrder encrypt templates c ids req (history.foldl (after encrypt templates) s₀) p) :
    ((¬ Live (history.foldl (after encrypt templates) s₀) req.projectID p.name →
        ∃ d, (Provisioning.provision encrypt templates c ids req).result
          (history.foldl (after encrypt templates) s₀) = .ok d) ↔
      (¬ Live (history.foldl (after encrypt templates) s₀) req.projectID p.name →
        Unkept (history.foldl (after encrypt templates) s₀) req.teamID p.name)) ∧
    (Runs.Along (after encrypt templates) (fun s e => e.AtWork s) s₀ history →
      (Unkept (history.foldl (after encrypt templates) s₀) req.teamID p.name ↔
        ¬ ProvisionedIn encrypt templates s₀ history req.teamID p.name)) := by
  constructor
  · rw [succeeds_iff encrypt templates ok]
    exact imp_congr_right fun free => and_iff_left free
  · intro atWork
    rw [unkept_history encrypt templates atWork]
    exact and_iff_right (fresh.unkept p.name)

end Histories

/-! ### A team with two projects -/

def twoProjects : Estate :=
  { bound := { twoServerCluster with
      projects := [{ id := 3, teamID := 1, clusterID := 5, name := "Shop", slug := "shop" },
        { id := 4, teamID := 1, clusterID := 5, name := "Blog", slug := "blog" }] } }

def database (projectID : UUID) (name : String) : ProvisionRequest :=
  { teamID := 1, projectID := projectID, clusterID := 5, templateSlug := "postgres"
    version := "16", name := name }

def laterRows : RowIDs :=
  ⟨17, 18, 19, 21, by decide, by decide, by decide⟩

def provisioned : List Event := [.provision {} newRows (database 3 "orders")]

def prepared (projectID : UUID) (slug name : String) (serverID : UUID) : Prepared :=
  { tmpl := postgres, version := ⟨"16", "postgres:16-alpine"⟩
    project := { id := projectID, teamID := 1, clusterID := 5
                 name := if slug = "shop" then "Shop" else "Blog", slug := slug }
    serverID := serverID, name := name, superPassword := "hunter2", appPassword := "swordfish" }

theorem works_default : Works {} := ⟨fun _ => rfl, fun _ => rfl, fun _ => rfl⟩

theorem plainEncrypt_total (context plaintext : String) :
    plainEncrypt plaintext context ≠ none := Option.some_ne_none _

theorem newTeam_twoProjects : NewTeam twoProjects 1 :=
  ⟨fun _ => nofun, fun _ => nofun⟩

/-- A second request for the name of the first database, in order like the first. -/
theorem inOrder_later (s : Estate) (projectID : UUID) (slug name : String) (serverID : UUID)
    (unused : Unused laterRows s)
    (admits : Admits catalog {} laterRows (database projectID name) s.bound
      (prepared projectID slug name serverID)) :
    InOrder plainEncrypt catalog {} laterRows (database projectID name) s
      (prepared projectID slug name serverID) where
  works := works_default
  unused := unused
  admits := admits
  sized := by
    show (0 : Int) < Int.bmod (volumeSize 0 postgres) (2 ^ 32)
    decide
  encrypts := plainEncrypt_total _

/-- Another name is provisioned behind the first one. -/
theorem other_name_provisioned :
    ∃ d, (provision plainEncrypt catalog {} laterRows (database 4 "posts")).result
      (provisioned.foldl (after plainEncrypt catalog) twoProjects) = .ok d := by
  have ok : InOrder plainEncrypt catalog {} laterRows (database 4 "posts")
      (provisioned.foldl (after plainEncrypt catalog) twoProjects)
      (prepared 4 "blog" "posts" 22) := by
    refine inOrder_later _ _ _ _ _ ?_ ?_
    · constructor <;> decide
    · constructor <;> decide
  obtain ⟨succeeds, unkept⟩ := @free_name_provisioned_iff plainEncrypt catalog twoProjects
    provisioned _ _ _ _ newTeam_twoProjects ok
  refine succeeds.mpr (fun _ => (unkept ⟨⟨works_default, ?_⟩, trivial⟩).mpr ?_) ?_
  · constructor <;> decide
  · rintro (⟨-, named, -⟩ | none)
    · exact absurd named (by decide)
    · exact none
  · rintro ⟨d, member, project, -⟩
    revert d
    decide

/-- The name of a deleted database is refused, and so is the name of a live one in another
project. -/
theorem kept_names_refused :
    (∃ history p, history = provisioned ++ [Event.delete {} 11] ∧
      InOrder plainEncrypt catalog {} laterRows (database 3 "orders")
        (history.foldl (after plainEncrypt catalog) twoProjects) p ∧
      ¬ Live (history.foldl (after plainEncrypt catalog) twoProjects) 3 "orders" ∧
      (provision plainEncrypt catalog {} laterRows (database 3 "orders")).result
        (history.foldl (after plainEncrypt catalog) twoProjects) = .error .createVolume) ∧
    ∃ p, InOrder plainEncrypt catalog {} laterRows (database 4 "orders")
        (provisioned.foldl (after plainEncrypt catalog) twoProjects) p ∧
      ¬ Live (provisioned.foldl (after plainEncrypt catalog) twoProjects) 4 "orders" ∧
      (provision plainEncrypt catalog {} laterRows (database 4 "orders")).result
        (provisioned.foldl (after plainEncrypt catalog) twoProjects) = .error .createVolume := by
  refine ⟨⟨_, prepared 3 "shop" "orders" 21, rfl, ?_, ?_, by decide⟩,
    prepared 4 "blog" "orders" 22, ?_, ?_, by decide⟩
  · refine inOrder_later _ _ _ _ _ ?_ ?_
    · constructor <;> decide
    · constructor <;> decide
  · rintro ⟨d, member, -⟩
    revert d
    decide
  · refine inOrder_later _ _ _ _ _ ?_ ?_
    · constructor <;> decide
    · constructor <;> decide
  · rintro ⟨d, member, project, -⟩
    revert d
    decide

end Nixway.Volumes.FreeNames
