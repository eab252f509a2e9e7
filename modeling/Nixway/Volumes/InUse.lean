/-
# Volumes.InUse -- the volume of a database and `Delete`

`Delete` of the volume service refuses a volume whose status is 'attached', and looks at nothing
else.  That a database has the volume stands on the row of the database; `Provision` leaves the
volume 'unattached'.

`guarded_iff` says for every interleaving of the requests which runs keep every volume of a
database from `Delete`; in `provisioned_volume_deleted` it is deleted right after `Provision`.
-/
import Nixway.Volumes.Placement

namespace Nixway.Volumes.Databases

open Nixway.Theory Nixway.Store
open Nixway.Theory.Prog (query exec atomic ignore)

set_option autoImplicit false

/-- `Delete` of a volume that a database has fails, whoever asks, and leaves the rows as they are
and sends nothing. -/
def Guarded (t : BoundStore) : Prop :=
  ∀ d ∈ t.databases.rows, ∀ id, d.volumeID = some id → ∀ faults link teamID,
    ∃ e, (onVolumes (Volumes.delete faults (dispatchTo link) teamID id)).run t = (t, .error e)

/-- A step that takes a volume out of 'attached' finds no database with that volume, and a step
that gives a volume to a database finds it 'attached'. -/
structure Protects (s t : BoundStore) : Prop where
  releases : ∀ vol ∈ s.vols.volumes.rows, ∀ vol' ∈ t.vols.volumes.rows, vol'.id = vol.id →
    vol.status = .attached → vol'.status ≠ .attached → ∀ d ∈ s.databases.rows,
      d.volumeID ≠ some vol.id
  binds : ∀ d ∈ t.databases.rows, ∀ vol ∈ s.vols.volumes.rows, d.volumeID = some vol.id →
    ¬ Kept s d vol.id → vol.status = .attached

instance (s t : BoundStore) : Decidable (Protects s t) :=
  decidable_of_iff
    ((∀ vol ∈ s.vols.volumes.rows, ∀ vol' ∈ t.vols.volumes.rows, vol'.id = vol.id →
        vol.status = .attached → vol'.status ≠ .attached → ∀ d ∈ s.databases.rows,
          d.volumeID ≠ some vol.id) ∧
      ∀ d ∈ t.databases.rows, ∀ vol ∈ s.vols.volumes.rows, d.volumeID = some vol.id →
        ¬ Kept s d vol.id → vol.status = .attached)
    ⟨fun both => ⟨both.1, both.2⟩, fun protects => ⟨protects.releases, protects.binds⟩⟩

theorem Protects.refl (t : BoundStore) : Protects t t := by
  refine ⟨?_, ?_⟩
  · intro vol there vol' there' same attached released
    have equal : vol' = vol := Table.eq_of_key_eq there' there same
    exact absurd ((congrArg Volume.status equal).trans attached) released
  · intro d member vol _ references fresh
    exact absurd ⟨d, member, rfl, rfl, references⟩ fresh

/-! ## What `Delete` refuses -/

theorem putVolumes_self {t : BoundStore} (known : Referential t) : t.putVolumes t.vols = t := by
  have same : ∀ d ∈ t.databases, BoundStore.setNull t.vols.volumes d = d := by
    intro d member
    unfold BoundStore.setNull
    cases references : d.volumeID with
    | none => rfl
    | some id =>
      rw [Option.all_some, (known d member id references).2]
      rfl
  have born : (t.vols.volumes.rows.map Volume.id).filter (fun id =>
      (t.vols.volumes.find? id).isNone) = [] := by
    refine List.filter_eq_nil_iff.mpr fun id member => ?_
    obtain ⟨vol, there, rfl⟩ := List.mem_map.mp member
    rw [show t.vols.volumes.find? vol.id = some vol from Table.find?_self there]
    exact Bool.false_ne_true
  unfold BoundStore.putVolumes
  rw [Table.updateWhere_of_same same, born, List.append_nil]

theorem run_read {t : BoundStore} (known : Referential t) {β γ : Type} (fails : Bool)
    (g : VolumeStore Sent → Option β) (f : Option β → Prog (VolumeStore Sent) γ) :
    (onVolumes (Volumes.read fails g >>= f)).run t =
      (onVolumes (f (if fails then none else g t.vols))).run t := by
  unfold onVolumes
  rw [Prog.within_bind, Prog.run_bind]
  have first : (Prog.within BoundStore.vols BoundStore.putVolumes (Volumes.read fails g)).run t =
      (t.putVolumes t.vols, if fails then none else g t.vols) := rfl
  rw [first, putVolumes_self known]

/-- An attached volume is refused, whatever else. -/
theorem delete_attached {t : BoundStore} (known : Referential t) {id : UUID} {vol : Volume}
    (found : t.vols.volumes.find? id = some vol) (attached : vol.status = .attached)
    (faults : Faults) (link : Link) (teamID : UUID) :
    ∃ e, (onVolumes (Volumes.delete faults (dispatchTo link) teamID id)).run t = (t, .error e) := by
  unfold Volumes.delete
  rw [run_read known]
  cases read : (if faults .getVolume then none else t.vols.getVolume id teamID) with
  | none => exact ⟨.getVolume, rfl⟩
  | some row =>
    have same : row = vol := by
      split at read
      · cases read
      · exact Option.some.inj ((VolumeStore.getVolume_eq_some_iff.mp read).1.symm.trans found)
    refine ⟨.deleteAttached, ?_⟩
    dsimp only
    rw [same, if_pos attached]
    rfl

/-- Any other volume is deleted, when its team asks and nothing fails. -/
theorem delete_unattached {t : BoundStore} (known : Referential t) {id : UUID} {vol : Volume}
    (found : t.vols.volumes.find? id = some vol) (free : vol.status ≠ .attached) :
    ((onVolumes (Volumes.delete (fun _ => false) (dispatchTo {}) vol.teamID id)).run t).2 =
      .ok () := by
  have row : t.vols.getVolume id vol.teamID = some vol :=
    VolumeStore.getVolume_eq_some_iff.mpr ⟨found, rfl⟩
  unfold Volumes.delete
  rw [run_read known]
  simp only [Bool.false_eq_true, if_false, row, if_neg free]
  rfl

theorem Referential.guarded {t : BoundStore} (known : Referential t) :
    Guarded t ↔ AllGood (fun _ vol => vol.status = .attached) t := by
  refine forall₄_congr fun d member id references => ?_
  obtain ⟨vol, found⟩ := Option.isSome_iff_exists.mp (known d member id references).2
  constructor
  · intro refused
    refine ⟨vol, found, ?_⟩
    by_contra free
    obtain ⟨e, failed⟩ := refused (fun _ => false) {} vol.teamID
    have done := delete_unattached known found free
    rw [failed] at done
    cases done
  · rintro ⟨same, there, attached⟩ faults link teamID
    exact delete_attached known there attached faults link teamID

/-- **One step** keeps the volumes of the databases from `Delete` exactly if it protects them. -/
theorem Step.guards_iff {s t : BoundStore} (step : Step s t) (known : Referential s)
    (before : Guarded s) : Guarded t ↔ Protects s t := by
  have good := known.guarded.mp before
  have carries : ∀ d d' : Database, ∀ vol : Volume, d.serverID = d'.serverID →
      vol.status = .attached → vol.status = .attached := fun _ _ _ _ attached => attached
  refine (step.referential known).guarded.trans ((step.allGood_iff carries good).trans ?_)
  constructor
  · rintro ⟨leaves, binds⟩
    refine ⟨fun vol there vol' there' same _ released d member references => ?_, binds⟩
    exact released (leaves vol there vol' there' same d member references)
  · intro protects
    refine ⟨fun vol there vol' there' same d member references => ?_, protects.binds⟩
    obtain ⟨old, found, attached⟩ := good d member vol.id references
    cases Option.some.inj (found.symm.trans (Table.find?_self there))
    by_contra released
    exact protects.releases vol there vol' there' same attached released d member references

/-- **A volume in use.**  From a store in which the volumes of the databases cannot be deleted, in
every interleaving of the requests of both services, with failures at any statement and on the
way to the agents: `Delete` refuses the volumes of the databases, and leaves the rows and the
agents alone, in all states, exactly if no step takes a volume that a database has out of
'attached', and no step gives a database a volume that is not 'attached'. -/
theorem guarded_iff {templates : Registry} {calls : List Call} {t : BoundStore}
    (known : Referential t) (start : Guarded t)
    (distinct : (calls.filterMap Call.volumeID).Nodup)
    (unborn : ∀ id ∈ calls.filterMap Call.volumeID, id ∉ t.born) (schedule : List Nat) :
    (∀ earlier, earlier <+: schedule →
      Guarded ((requests templates t calls).run Pool.noSpawn earlier).store) ↔
      (requests templates t calls).Along Pool.noSpawn Protects schedule :=
  requests_iff Protects.refl (fun _ _ step known guarded => step.guards_iff known guarded) known
    start distinct unborn schedule

/-! ## A volume that is protected, and one that is not -/

/-- The volume of a database, attached to its container. -/
def boundVolume : Volume :=
  { id := 7, teamID := 1, clusterID := 5, serverID := 21, name := "db-orders", sizeGb := 10
    mountPath := some "/var/lib/postgresql/data", containerName := some "nw-db-shop-orders"
    status := .attached, hostPath := volumeHostPath 7 }

def orders : Database :=
  { id := 11, teamID := 1, projectID := 3, clusterID := 5, serverID := 21, volumeID := some 7
    templateSlug := "postgres", version := "16", name := "orders"
    containerName := "nw-db-shop-orders", status := .running }

def boundCluster : BoundStore :=
  { twoServerCluster with
    vols := { twoServerCluster.vols with volumes := ⟨[boundVolume], by decide⟩ }
    databases := ⟨[orders], by decide⟩
    born := [7] }

theorem referential_boundCluster : Referential boundCluster := by
  intro d member id references
  cases List.mem_singleton.mp member
  cases references
  refine ⟨⟨List.mem_singleton.mpr rfl, fun vol found => ?_⟩, by decide⟩
  have row : boundCluster.vols.volumes.find? 7 = some boundVolume := by decide
  cases Option.some.inj (row.symm.trans found)
  rfl

/-- The database is stopped and started again while another volume comes and goes. -/
def usage : List Call :=
  [{ operation := .stop 11 }, { operation := .start 11 },
    { operation := .create 8 { teamID := 1, clusterID := 5, serverID := 21, name := "logs"
                               sizeGb := 5 } },
    { operation := .attach { teamID := 1, volumeID := 8, containerName := "app"
                             mountPath := "/logs" } },
    { operation := .detach 1 8 }, { operation := .deleteVolume 1 8 }]

def usageInTurns : List Nat :=
  List.replicate 4 0 ++ List.replicate 6 1 ++ List.replicate 4 2 ++ List.replicate 2 3 ++
    List.replicate 2 4 ++ List.replicate 3 5

theorem usage_guarded :
    ((requests catalog boundCluster usage).run Pool.noSpawn usageInTurns).Finished ∧
      ((requests catalog boundCluster usage).run Pool.noSpawn
        usageInTurns).store.databases.rows.map Database.volumeID = [some 7] ∧
      Guarded ((requests catalog boundCluster usage).run Pool.noSpawn usageInTurns).store := by
  have guarded : Guarded boundCluster := by
    refine referential_boundCluster.guarded.mpr fun d member id references => ?_
    cases List.mem_singleton.mp member
    cases references
    exact ⟨boundVolume, by decide, rfl⟩
  have ids : usage.filterMap Call.volumeID = [8] := rfl
  have distinct : (usage.filterMap Call.volumeID).Nodup := by
    rw [ids]
    exact List.nodup_singleton 8
  have unborn : ∀ id ∈ usage.filterMap Call.volumeID, id ∉ boundCluster.born := by
    intro id member born
    rw [ids] at member
    have other : (7 : UUID) = 8 :=
      (List.mem_singleton.mp born).symm.trans (List.mem_singleton.mp member)
    revert other
    decide
  have protects : (requests catalog boundCluster usage).Along Pool.noSpawn Protects
      usageInTurns := by decide
  have all := (guarded_iff referential_boundCluster guarded distinct unborn usageInTurns).mpr
    protects
  exact ⟨by decide, by decide, all usageInTurns List.prefix_rfl⟩

/-- **Deleted behind `Provision`.**  The database has its volume; `Delete` succeeds, removes the
row and has the agent remove the data. -/
theorem provisioned_volume_deleted :
    let provisioned := ((requests catalog twoServerCluster [provisionOn 21 7 11 "orders"]).run
      Pool.noSpawn (List.replicate 12 0)).store
    let after := (onVolumes (Volumes.delete (fun _ => false) (dispatchTo {}) 1 7)).run provisioned
    provisioned.databases.rows.map Database.volumeID = [some 7] ∧ after.2 = .ok () ∧
      after.1.vols.volumes.rows = [] ∧
      after.1.vols.agents.drop provisioned.vols.agents.length =
        [(21, .delete 7 (volumeHostPath 7))] ∧
      after.1.databases.rows.map Database.volumeID = [none] := by
  decide

end Nixway.Volumes.Databases
