/-
# Volumes.ContainerNames -- whose container a command names

`Provision` calls the container of a database `nw-db-<slug>-<name>`, and every later command for
the database carries that name to the agent of its server.  A slug may hold dashes and so may a
name, so the place where one ends and the other begins is lost.

`names_apart_iff` is about all interleavings of the requests of both services: in every state
reached, the databases of a server have different containers just if no two of them overlap.
-/
import Nixway.Volumes.Placement

namespace Nixway.Volumes.Databases

open Nixway.Theory Nixway.Store
open Nixway.Theory.Prog (query exec atomic ignore)

set_option autoImplicit false

/-! ## Two texts joined by a dash -/

/-- The two texts and the other two are the same, or one first text runs on into the second text
beside it. -/
def Overlap (slug name slug' name' : String) : Prop :=
  (slug = slug' ∧ name = name') ∨
    (∃ m, slug' = slug ++ "-" ++ m ∧ name = m ++ "-" ++ name') ∨
    ∃ m, slug = slug' ++ "-" ++ m ∧ name' = m ++ "-" ++ name

theorem joined_toList (a b : String) : (a ++ "-" ++ b).toList = a.toList ++ '-' :: b.toList := by
  simp [String.toList_append]

/-- A text that is longer than another one by a piece from the dash on. -/
theorem exists_joined {a c b d : String} {piece : List Char} (first : c.toList = a.toList ++ piece)
    (second : '-' :: b.toList = piece ++ '-' :: d.toList) :
    (a = c ∧ b = d) ∨ ∃ m, c = a ++ "-" ++ m ∧ b = m ++ "-" ++ d := by
  cases piece with
  | nil =>
    left
    rw [List.append_nil] at first
    exact ⟨(String.toList_inj.mp first).symm,
      String.toList_inj.mp (List.cons.inj second).2⟩
  | cons x m =>
    right
    obtain ⟨rfl, rest⟩ := List.cons.inj second
    refine ⟨String.ofList m, String.toList_inj.mp ?_, String.toList_inj.mp ?_⟩
    · rw [joined_toList, String.toList_ofList]
      exact first
    · rw [joined_toList, String.toList_ofList]
      exact rest

theorem joined_eq_iff (slug name slug' name' : String) :
    slug ++ "-" ++ name = slug' ++ "-" ++ name' ↔ Overlap slug name slug' name' := by
  constructor
  · intro same
    have letters := congrArg String.toList same
    rw [joined_toList, joined_toList] at letters
    rcases List.append_eq_append_iff.mp letters with ⟨piece, first, second⟩ |
      ⟨piece, first, second⟩
    · rcases exists_joined first second with equal | runs
      · exact .inl equal
      · exact .inr (.inl runs)
    · rcases exists_joined first second with ⟨slugs, names⟩ | runs
      · exact .inl ⟨slugs.symm, names.symm⟩
      · exact .inr (.inr runs)
  · rintro (⟨rfl, rfl⟩ | ⟨m, rfl, rfl⟩ | ⟨m, rfl, rfl⟩)
    · rfl
    · simp only [String.append_assoc]
    · simp only [String.append_assoc]

instance (slug name slug' name' : String) : Decidable (Overlap slug name slug' name') :=
  decidable_of_iff _ (joined_eq_iff slug name slug' name')

/-! ## The names of the rows -/

/-- What a container name starts with after `nw-db-`. -/
def slugOf (project : Project) : String :=
  if project.slug = "" then project.id.short else project.slug

/-- The container is named by the project of the row and its name. -/
def Named (projects : List Project) (d : Database) : Prop :=
  ∃ project, projects.find? (fun p => p.id = d.projectID) = some project ∧
    d.containerName = databaseContainer project d.name

theorem databaseContainer_eq (project : Project) (name : String) :
    databaseContainer project name = "nw-db-" ++ (slugOf project ++ "-" ++ name) := by
  unfold databaseContainer slugOf
  rw [String.append_assoc, String.append_assoc, String.append_assoc]

theorem databaseContainer_eq_iff (project project' : Project) (name name' : String) :
    databaseContainer project name = databaseContainer project' name' ↔
      Overlap (slugOf project) name (slugOf project') name' := by
  rw [databaseContainer_eq, databaseContainer_eq, String.append_right_inj, joined_eq_iff]

section Decidable

variable (t : BoundStore)

/-- Two databases of a server have different containers. -/
def NamesApart : Prop :=
  ∀ d ∈ t.databases.rows, ∀ d' ∈ t.databases.rows, d.id ≠ d'.id → d.serverID = d'.serverID →
    d.containerName ≠ d'.containerName

/-- No two databases of a server overlap with the slugs of their projects. -/
def NoneOverlap : Prop :=
  ∀ d ∈ t.databases.rows, ∀ d' ∈ t.databases.rows, d.id ≠ d'.id → d.serverID = d'.serverID →
    ∀ project ∈ t.getProject d.projectID, ∀ project' ∈ t.getProject d'.projectID,
      ¬ Overlap (slugOf project) d.name (slugOf project') d'.name

instance : Decidable (NamesApart t) :=
  inferInstanceAs (Decidable (∀ d ∈ t.databases.rows, ∀ d' ∈ t.databases.rows, _ → _ → _))

instance : Decidable (NoneOverlap t) :=
  inferInstanceAs (Decidable (∀ d ∈ t.databases.rows, ∀ d' ∈ t.databases.rows, _ → _ → _))

end Decidable

theorem namesApart_iff {t : BoundStore} (named : ∀ d ∈ t.databases.rows, Named t.projects d) :
    NamesApart t ↔ NoneOverlap t := by
  constructor
  · intro apart d member d' member' other together project found project' found' overlap
    obtain ⟨p, here, name⟩ := named d member
    obtain ⟨p', here', name'⟩ := named d' member'
    cases Option.some.inj (here.symm.trans found)
    cases Option.some.inj (here'.symm.trans found')
    refine apart d member d' member' other together ?_
    rw [name, name']
    exact (databaseContainer_eq_iff _ _ _ _).mpr overlap
  · intro none d member d' member' other together same
    obtain ⟨p, here, name⟩ := named d member
    obtain ⟨p', here', name'⟩ := named d' member'
    refine none d member d' member' other together p here p' here' ?_
    rw [name, name'] at same
    exact (databaseContainer_eq_iff _ _ _ _).mp same

/-! ## The requests under interference -/

def face (d : Database) : UUID × UUID × UUID × String × String :=
  (d.id, d.serverID, d.projectID, d.name, d.containerName)

theorem Named.of_face {projects : List Project} {d d' : Database} (same : face d' = face d)
    (named : Named projects d) : Named projects d' := by
  unfold face at same
  simp only [Prod.mk.injEq] at same
  obtain ⟨-, -, project, name, container⟩ := same
  unfold Named
  rw [project, name, container]
  exact named

/-- The projects stay, and a row is an old one or is named by one of these. -/
structure Faces (named : List Project) (s t : BoundStore) : Prop where
  projects : t.projects = s.projects
  rows : ∀ d' ∈ t.databases.rows, (∃ d ∈ s.databases.rows, face d' = face d) ∨ Named named d'

/-- What the others do to a request. -/
def SameProjects (s t : BoundStore) : Prop := t.projects = s.projects

theorem SameProjects.refl (s : BoundStore) : SameProjects s s := rfl

theorem SameProjects.trans {s t u : BoundStore} (first : SameProjects s t)
    (second : SameProjects t u) : SameProjects s u := Eq.trans second first

section Effects

variable {projects : List Project} {β : Type}

/-- An effect that renames nothing. -/
def Keeps (projects : List Project) (effect : BoundStore → BoundStore) : Prop :=
  ∀ s, Faces projects s (effect s)

theorem keeps_same {effect : BoundStore → BoundStore}
    (rest : ∀ s, (effect s).projects = s.projects)
    (rows : ∀ s, ∀ d' ∈ (effect s).databases.rows, ∃ d ∈ s.databases.rows, face d' = face d) :
    Keeps projects effect :=
  fun s => ⟨rest s, fun d' member => .inl (rows s d' member)⟩

theorem keeps_beside {effect : BoundStore → BoundStore}
    (rest : ∀ s, (effect s).projects = s.projects)
    (rows : ∀ s, (effect s).databases = s.databases) : Keeps projects effect := by
  refine keeps_same rest fun s d' member => ⟨d', ?_, rfl⟩
  rw [← rows s]
  exact member

theorem keeps_id : Keeps projects id := keeps_beside (fun _ => rfl) fun _ => rfl

theorem keeps_volume (fails : Bool) (id : UUID) (volumeID : Option UUID) :
    (act fails fun t => t.updateDatabaseVolume id volumeID).Every (Keeps projects) := by
  refine act_every keeps_id (keeps_same (fun s => ?_) fun s d' member => ?_)
  · dsimp only [BoundStore.updateDatabaseVolume]
    split <;> rfl
  · dsimp only [BoundStore.updateDatabaseVolume] at member
    split at member
    · exact ⟨d', member, rfl⟩
    · obtain ⟨d, there, rfl⟩ := List.mem_map.mp member
      refine ⟨d, there, ?_⟩
      split <;> rfl

theorem keeps_onVolumes (p : Prog (VolumeStore Sent) β) :
    (onVolumes p).Every (Keeps projects) := by
  refine Prog.Every.within (fun effect _ => ?_) p.every_true
  refine keeps_same (fun _ => rfl) fun s d' member => ?_
  obtain ⟨d, there, rfl⟩ := BoundStore.mem_databases_putVolumes.mp member
  refine ⟨d, there, ?_⟩
  unfold BoundStore.setNull
  split <;> rfl

end Effects

section Requests

variable {projects : List Project} (fate : Fate)

theorem calm_keeps : Calm fate (Keeps projects) where
  nothing := keeps_id
  status _ _ := by
    refine keeps_same (fun _ => rfl) fun s d' member => ?_
    obtain ⟨d, there, rfl⟩ := List.mem_map.mp member
    refine ⟨d, there, ?_⟩
    split <;> rfl
  stops _ := keeps_beside (fun _ => rfl) fun _ => rfl
  deletes _ := keeps_same (fun _ => rfl) fun _ d' member =>
    ⟨d', (Table.mem_deleteWhere.mp member).1, rfl⟩
  detaches _ _ := keeps_onVolumes _

theorem keeps_runDeployAsync (teamID serverID : UUID) (d : Database) (tmpl : Template)
    (version : Version) (vol : Option Volume) :
    (runDeployAsync fate teamID serverID d tmpl version vol).Every (Keeps projects) :=
  (calm_keeps fate).runDeployAsync_every _ (keeps_beside (fun _ => rfl) fun _ => rfl)

theorem keeps_start (templates : Registry) (dbID : UUID) :
    (start fate templates dbID).Every (Keeps projects) := by
  unfold start
  refine Prog.Every.bind (look_every keeps_id _ _) fun found => ?_
  cases found with
  | none => trivial
  | some d =>
  dsimp only
  split
  · split
    · split
      · trivial
      refine Prog.Every.bind ((Prog.every_query _).mpr (keeps_beside (fun _ => rfl) fun _ => rfl))
        fun vol => ?_
      split
      · trivial
      refine Prog.Every.bind ((calm_keeps fate).status_every _ _ _) fun updated => ?_
      cases updated with
      | none => trivial
      | some updated => exact Prog.Every.bind (keeps_runDeployAsync fate _ _ _ _ _ _) fun _ => trivial
    · trivial
  · trivial

theorem keeps_rebind (oldDB newDB : Database) (volID : UUID) (mountPath : String) :
    (rebind fate oldDB newDB volID mountPath).Every (Keeps projects) := by
  unfold rebind
  refine Prog.Every.bind (keeps_onVolumes _) fun found => ?_
  cases found with
  | none => trivial
  | some vol =>
    dsimp only
    refine Prog.Every.bind ?_ fun detached => ?_
    · split
      · exact Prog.Every.bind (keeps_onVolumes _) fun _ => trivial
      · trivial
    · split
      · trivial
      refine Prog.Every.bind (keeps_onVolumes _) fun attached => ?_
      split
      · trivial
      refine Prog.Every.bind (keeps_volume _ _ _) fun bound => ?_
      cases bound with
      | none => trivial
      | some _ => exact Prog.Every.bind (keeps_volume _ _ _) fun _ => trivial

theorem keeps_rebindVolume (templates : Registry) (oldDBID newDBID : UUID) :
    (rebindVolume fate templates oldDBID newDBID).Every (Keeps projects) := by
  unfold rebindVolume
  split
  · trivial
  refine Prog.Every.bind (look_every keeps_id _ _) fun foundOld => ?_
  cases foundOld with
  | none => trivial
  | some oldDB =>
  refine Prog.Every.bind (look_every keeps_id _ _) fun foundNew => ?_
  cases foundNew with
  | none => trivial
  | some newDB =>
  dsimp only
  split
  · trivial
  split
  · trivial
  split
  · trivial
  cases oldDB.volumeID with
  | none => trivial
  | some volID =>
    dsimp only
    split
    · split
      · trivial
      · exact keeps_rebind fate oldDB newDB _ _
    · trivial

/-- The row that `Provision` inserts is named by the project it has read. -/
theorem keeps_createDatabase {row : Database} (named : Named projects row) (fails : Bool) :
    (act fails fun t => t.createDatabase row).Every (Keeps projects) := by
  refine act_every keeps_id fun s => ?_
  dsimp only
  unfold BoundStore.createDatabase
  split
  · exact ⟨rfl, fun d' member => .inl ⟨d', member, rfl⟩⟩
  split
  · exact ⟨rfl, fun d' member => .inl ⟨d', member, rfl⟩⟩
  · cases inserted : s.databases.insert? row with
    | none => exact ⟨rfl, fun d' member => .inl ⟨d', member, rfl⟩⟩
    | some databases =>
      refine ⟨rfl, fun d' member => ?_⟩
      rcases (Table.mem_insert? inserted).mp member with rfl | old
      · exact .inr named
      · exact .inl ⟨d', old, rfl⟩

theorem keeps_rollbackProvision (teamID volID : UUID) :
    (rollbackProvision fate teamID volID).Every (Keeps projects) :=
  Prog.Every.bind (keeps_onVolumes _) fun _ => trivial

theorem Faces.refl (s : BoundStore) : Faces projects s s :=
  ⟨rfl, fun d' member => .inl ⟨d', member, rfl⟩⟩

/-- What renames nothing is safe where the projects are these. -/
theorem safe_of_keeps {β : Type} {p : Prog BoundStore β} (keeps : p.Every (Keeps projects))
    {s : BoundStore} (start : s.projects = projects) :
    p.Safe SameProjects (Faces projects) (fun _ s => s.projects = projects) s :=
  Prog.Safe.of_known (fun _ _ here moved => Eq.trans moved here)
    (fun _ _ here faces => faces.projects.trans here)
    (keeps.mono fun _ keeps s _ => keeps s) start

/-- **`Provision`** names its row by the project of the request. -/
theorem safe_names_provision (templates : Registry) (fresh : Fresh) (req : ProvisionRequest)
    {s : BoundStore} (start : s.projects = projects) :
    (provision fate templates fresh req).Safe SameProjects (Faces projects) (fun _ _ => True) s := by
  unfold provision
  split
  · next tmpl _ =>
    split
    · next version _ =>
      refine Prog.Safe.bind_query Faces.refl fun t moved => ?_
      have here : t.projects = projects := Eq.trans moved start
      cases found : (if fate.faults .getProject then none else t.getProject req.projectID) with
      | none => exact Prog.Safe.done
      | some project =>
      -- from here on the name of the container is settled
      have listed : projects.find? (fun p => p.id = req.projectID) = some project := by
        split at found
        · cases found
        · rw [← here]
          exact found
      refine Prog.Safe.weaken (fun _ _ acts => acts) (fun _ _ _ => trivial)
        (safe_of_keeps ?_ here)
      dsimp only
      split
      · trivial
      refine Prog.Every.bind ((reads_resolvePlacement fate _ _ _).mono ?_) fun placed => ?_
      · rintro effect rfl
        exact Faces.refl
      cases placed with
      | error error => trivial
      | ok serverID =>
      refine Prog.Every.bind (keeps_onVolumes _) fun created => ?_
      cases created with
      | error error => trivial
      | ok vol =>
      dsimp only
      split
      · exact Prog.Every.bind (keeps_rollbackProvision fate _ _) fun _ => trivial
      refine Prog.Every.bind (keeps_createDatabase ⟨project, listed, rfl⟩ _) fun row => ?_
      cases row with
      | none => exact Prog.Every.bind (keeps_rollbackProvision fate _ _) fun _ => trivial
      | some d => exact Prog.Every.bind (keeps_runDeployAsync fate _ _ _ _ _ _) fun _ => trivial
    · exact Prog.Safe.done
  · exact Prog.Safe.done

theorem Call.safe_names (templates : Registry) (c : Call) {s : BoundStore}
    (start : s.projects = projects) :
    (c.code templates).Safe SameProjects (Faces projects) (fun _ _ => True) s := by
  have quiet : ∀ {β : Type} {p : Prog BoundStore β}, p.Every (Keeps projects) →
      (ignore p).Safe SameProjects (Faces projects) (fun _ _ => True) s :=
    fun keeps => Prog.Safe.bind SameProjects.refl (safe_of_keeps keeps start)
      fun _ _ _ _ _ => trivial
  obtain ⟨operation, fate⟩ := c
  cases operation with
  | provision fresh req =>
    exact Prog.Safe.bind SameProjects.refl (safe_names_provision fate templates fresh req start)
      fun _ _ _ _ _ => trivial
  | start dbID => exact quiet (keeps_start _ _ _)
  | stop dbID => exact quiet ((calm_keeps _).stop_every _)
  | delete dbID => exact quiet ((calm_keeps _).delete_every _)
  | rebindVolume oldDBID newDBID => exact quiet (keeps_rebindVolume _ _ _ _)
  | create id req => exact quiet (keeps_onVolumes _)
  | attach req => exact quiet (keeps_onVolumes _)
  | detach teamID id => exact quiet (keeps_onVolumes _)
  | move req => exact quiet (keeps_onVolumes _)
  | deleteVolume teamID id => exact quiet (keeps_onVolumes _)
  | snapshot teamID id snapshotID => exact quiet (keeps_onVolumes _)
  | resize teamID id newSizeGb => exact quiet (keeps_onVolumes _)

end Requests

/-! ## All interleavings -/

/-- In every state reached, every database is named by its project. -/
theorem named_run {templates : Registry} {calls : List Call} {t : BoundStore}
    (start : ∀ d ∈ t.databases.rows, Named t.projects d) (schedule : List Nat) :
    let s := ((requests templates t calls).run Pool.noSpawn schedule).store
    s.projects = t.projects ∧ ∀ d ∈ s.databases.rows, Named t.projects d := by
  have safe : (requests templates t calls).AllSafe (fun _ => SameProjects)
      (fun _ => Faces t.projects) := by
    intro i p found
    obtain ⟨c, -, rfl⟩ := List.getElem?_map.symm.trans found |> Option.map_eq_some_iff.mp
    exact c.safe_names templates rfl
  have kept : ∀ (i : Nat) (s u : BoundStore), Faces t.projects s u → True →
      (s.projects = t.projects ∧ ∀ d ∈ s.databases.rows, Named t.projects d) →
      (u.projects = t.projects ∧ ∀ d ∈ u.databases.rows, Named t.projects d) := by
    rintro - s u faces - ⟨same, named⟩
    refine ⟨faces.projects.trans same, fun d' member => ?_⟩
    rcases faces.rows d' member with ⟨d, there, face⟩ | new
    · exact (named d there).of_face face
    · exact new
  have within : ∀ (i j : Nat) (s u : BoundStore), i ≠ j → Faces t.projects s u →
      SameProjects s u := fun _ _ _ _ _ faces => faces.projects
  exact Pool.safe_run (fun _ => SameProjects.refl) (fun _ => SameProjects.trans) within
    (fun _ _ _ _ _ p member => absurd member List.not_mem_nil)
    kept safe ⟨rfl, start⟩ (Pool.along_true _ schedule)

/-- **Container names.**  In every state that an interleaving of the requests reaches, the
databases of a server have different containers just if no two of them overlap. -/
theorem names_apart_iff {templates : Registry} {calls : List Call} {t : BoundStore}
    (start : ∀ d ∈ t.databases.rows, Named t.projects d) (schedule : List Nat) :
    NamesApart ((requests templates t calls).run Pool.noSpawn schedule).store ↔
      NoneOverlap ((requests templates t calls).run Pool.noSpawn schedule).store := by
  obtain ⟨same, named⟩ := @named_run templates calls t start schedule
  refine namesApart_iff ?_
  rw [same]
  exact named

/-! ### Two projects on a server -/

def dashedProjects : BoundStore :=
  { twoServerCluster with
    projects := [{ id := 3, teamID := 1, clusterID := 5, name := "A", slug := "a" },
      { id := 4, teamID := 1, clusterID := 5, name := "A-B", slug := "a-b" }] }

def provisionIn (projectID volumeID databaseID : UUID) (name : String) : Call :=
  { operation := .provision { volumeID := volumeID, databaseID := databaseID }
      { teamID := 1, projectID := projectID, clusterID := 5, serverID := some 21
        templateSlug := "postgres", version := "16", name := name } }

def oneByOne : List Nat := List.replicate 20 0 ++ List.replicate 20 1

/-- Without a dash in the names there is nothing to run on. -/
theorem other_names_apart :
    let final := (requests catalog dashedProjects
      [provisionIn 3 7 11 "b", provisionIn 4 8 12 "c"]).run Pool.noSpawn oneByOne
    final.store.databases.rows.map Database.serverID = [21, 21] ∧ NamesApart final.store := by
  have none : NoneOverlap ((requests catalog dashedProjects
      [provisionIn 3 7 11 "b", provisionIn 4 8 12 "c"]).run Pool.noSpawn oneByOne).store := by
    decide +kernel
  exact ⟨by decide +kernel,
    (names_apart_iff (fun _ member => absurd member List.not_mem_nil) oneByOne).mpr none⟩

/-- `c` of the project `a-b` and `b-c` of the project `a`. -/
theorem dashed_names_collide :
    let final := (requests catalog dashedProjects
      [provisionIn 3 7 11 "b-c", provisionIn 4 8 12 "c"]).run Pool.noSpawn oneByOne
    final.Finished ∧ ¬ NamesApart final.store ∧
      final.store.databases.rows.map (fun d => (d.id, d.serverID, d.containerName)) =
        [(12, 21, "nw-db-a-b-c"), (11, 21, "nw-db-a-b-c")] :=
  ⟨by decide +kernel, by decide +kernel, by decide +kernel⟩

end Nixway.Volumes.Databases
