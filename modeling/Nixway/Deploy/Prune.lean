/-
# Deploy.Prune -- the images of archived deployments

`archiveOldDeployments` asks the agents that ran an archived deployment to remove its image,
unless a kept deployment still has the tag.  The kept tags are read before any row is archived,
so the rows about to be archived count among the kept ones and keep their own images: a pass
sends nothing at all (`archive_sent`).  That is what the kept set asks for just where each image
in question is shared with a deployment inside the rollback window (`prune_follows_kept_iff`).
-/
import Nixway.Deploy.Archive
import Mathlib.Data.List.Dedup

namespace Nixway.Deploy

open Nixway.Theory Nixway.Store
open Nixway.Theory.Prog (query exec atomic forEach)

set_option autoImplicit false

/-- The command that removes the image of a row. -/
def pruneCommand (row : World.ArchivableRow) : ControlMessage :=
  .execCommand ⟨"prune-" ++ row.id.short, "docker", ["image", "rm", "-f", row.imageTag]⟩

/-- The command is sent to the agent between the two stores. -/
def PruneSent (before after : World) (agentID : String) (row : World.ArchivableRow) : Prop :=
  (agentID, pruneCommand row) ∈ after.sent.drop before.sent.length

/-- A deployment has this tag by its build. -/
def HasTag (w : World) (tag : String) (d : Deployment) : Prop :=
  (w.builds.find? d.buildID).map Build.imageTag = some tag

instance (w : World) (tag : String) : DecidablePred (HasTag w tag) :=
  fun _ => inferInstanceAs (Decidable (_ = _))

/-- A deployment of the (app, environment) that is healthy or superseded has the tag. -/
def Keeps (w : World) (appID envID : UUID) (tag : String) : Prop :=
  ∃ d ∈ w.deployments.rows, World.archivable appID envID d = true ∧ HasTag w tag d

instance (w : World) (appID envID : UUID) (tag : String) : Decidable (Keeps w appID envID tag) :=
  inferInstanceAs (Decidable (∃ _ ∈ _, _))

/-- The image of an archived row is removed on the agents that ran it just if no deployment that
remains has its tag. -/
def PruneFollowsKept (w : World) (appID envID : UUID) (keep : Int) : Prop :=
  ∀ row ∈ w.listArchivableDeploymentsByApp appID envID keep, row.imageTag ≠ "" →
    ∀ agentID ∈ w.listDeploymentServers row.id,
      (PruneSent w ((archiveOldDeployments appID envID keep).out w) agentID row ↔
        ¬ Keeps ((archiveOldDeployments appID envID keep).out w) appID envID row.imageTag)

/-- Each archived image that an agent has is the image of a deployment in the window too. -/
def TagsShared (w : World) (appID envID : UUID) (keep : Int) : Prop :=
  ∀ row ∈ w.listArchivableDeploymentsByApp appID envID keep, row.imageTag ≠ "" →
    w.listDeploymentServers row.id ≠ [] →
      ∃ kept ∈ w.rollbackWindow appID envID keep, HasTag w row.imageTag kept

/-! ## The pass sends nothing -/

theorem kept_of_archivable {w : World} {appID envID : UUID} {keep : Int} {row : World.ArchivableRow}
    (listed : row ∈ w.listArchivableDeploymentsByApp appID envID keep) (tagged : row.imageTag ≠ "") :
    row.imageTag ∈ w.listKeptImageTagsByApp appID envID := by
  obtain ⟨d, sorted, found⟩ := List.mem_filterMap.mp listed
  obtain ⟨build, here, rfl⟩ := Option.map_eq_some_iff.mp found
  obtain ⟨member, meets⟩ := List.mem_filter.mp ((List.mem_insertionSort _).mp sorted)
  simp only [Bool.and_eq_true] at meets
  unfold World.listKeptImageTagsByApp
  rw [List.mem_dedup, List.mem_filterMap]
  refine ⟨d, List.mem_filter.mpr ⟨member, meets.1.1⟩, ?_⟩
  rw [here, Option.bind_some]
  exact if_neg tagged

theorem archiveRow_kept {keptTags : List String} {row : World.ArchivableRow}
    (kept : row.imageTag ≠ "" → row.imageTag ∈ keptTags) (w : World) :
    ((archiveRow keptTags row).out w).sent = w.sent ∧
      ((archiveRow keptTags row).out w).builds = w.builds := by
  have skips : ¬ (row.imageTag ≠ "" ∧ row.imageTag ∉ keptTags) := fun ⟨tagged, out⟩ =>
    out (kept tagged)
  simp only [Prog.out, archiveRow, Prog.run_exec_bind, if_neg skips]
  exact ⟨rfl, rfl⟩

theorem archiveRows_kept {keptTags : List String} {rows : List World.ArchivableRow}
    (kept : ∀ row ∈ rows, row.imageTag ≠ "" → row.imageTag ∈ keptTags) (w : World) :
    ((forEach rows (archiveRow keptTags)).out w).sent = w.sent ∧
      ((forEach rows (archiveRow keptTags)).out w).builds = w.builds := by
  induction rows generalizing w with
  | nil => exact ⟨rfl, rfl⟩
  | cons row rows ih =>
    obtain ⟨sent, builds⟩ := archiveRow_kept (kept row List.mem_cons_self) w
    obtain ⟨later, same⟩ := ih (fun r mem => kept r (List.mem_cons_of_mem row mem))
      ((archiveRow keptTags row).out w)
    rw [Prog.out, Prog.run_forEach_cons]
    exact ⟨later.trans sent, same.trans builds⟩

/-- **No pass removes an image.** -/
theorem archive_sent (appID envID : UUID) (keep : Int) (w : World) :
    ((archiveOldDeployments appID envID keep).out w).sent = w.sent ∧
      ((archiveOldDeployments appID envID keep).out w).builds = w.builds := by
  rw [archive_out]
  exact archiveRows_kept (fun _ listed tagged => kept_of_archivable listed tagged) w

theorem not_pruneSent (w : World) (appID envID : UUID) (keep : Int) (agentID : String)
    (row : World.ArchivableRow) :
    ¬ PruneSent w ((archiveOldDeployments appID envID keep).out w) agentID row := by
  rw [PruneSent, (archive_sent appID envID keep w).1, List.drop_length]
  exact List.not_mem_nil

/-! ## What remains -/

theorem archive_unlisted {w : World} {appID envID : UUID} {keep : Int} {id : UUID}
    (unlisted : id ∉ (w.listArchivableDeploymentsByApp appID envID keep).map
      World.ArchivableRow.id) :
    ((archiveOldDeployments appID envID keep).out w).getDeployment id = w.getDeployment id := by
  rw [archive_out]
  exact (archiveRows_unlisted (w.listKeptImageTagsByApp appID envID) _ unlisted w).1

/-- **The tags that remain are those of the window.** -/
theorem keeps_after_iff (w : World) (appID envID : UUID) (keep : Int) (tag : String) :
    Keeps ((archiveOldDeployments appID envID keep).out w) appID envID tag ↔
      ∃ kept ∈ w.rollbackWindow appID envID keep, HasTag w tag kept := by
  have builds := (archive_sent appID envID keep w).2
  constructor
  · rintro ⟨d, member, archivable, tagged⟩
    rw [HasTag, builds] at tagged
    obtain ⟨build, found, -⟩ := Option.map_eq_some_iff.mp tagged
    have unlisted : d.id ∉ (w.listArchivableDeploymentsByApp appID envID keep).map
        World.ArchivableRow.id := by
      intro listed
      have archived : d.status = .archived := by
        have here := Table.find?_self member
        rw [archive_out] at here
        exact archiveRows_listed _ _ listed w d here
      simp [World.archivable, archived] at archivable
    have there : d ∈ w.deployments := by
      have here : ((archiveOldDeployments appID envID keep).out w).getDeployment d.id = some d :=
        Table.find?_self member
      rw [archive_unlisted unlisted] at here
      exact Table.mem_of_find? here
    rw [mem_archivable_rows_of_build appID envID keep there found] at unlisted
    refine ⟨d, (mem_rollbackWindow_iff there archivable keep).mpr ?_, tagged⟩
    by_contra past
    exact unlisted ⟨archivable, by omega⟩
  · rintro ⟨kept, inside, tagged⟩
    obtain ⟨there, archivable⟩ : kept ∈ w.deployments ∧
        World.archivable appID envID kept = true := by
      rw [rollbackWindow_eq] at inside
      exact mem_candidates.mp (List.mem_of_mem_take inside)
    obtain ⟨build, found, -⟩ := Option.map_eq_some_iff.mp tagged
    have recent := (mem_rollbackWindow_iff there archivable keep).mp inside
    have unlisted : kept.id ∉ (w.listArchivableDeploymentsByApp appID envID keep).map
        World.ArchivableRow.id := by
      rw [mem_archivable_rows_of_build appID envID keep there found]
      rintro ⟨-, past⟩
      omega
    have here : w.getDeployment kept.id = some kept := Table.find?_self there
    rw [← archive_unlisted unlisted] at here
    refine ⟨kept, Table.mem_of_find? here, archivable, ?_⟩
    rw [HasTag, builds]
    exact tagged

/-- **When pruning follows the kept set**: if each archived image that some agent has is still
the image of a deployment in the window. -/
theorem prune_follows_kept_iff (w : World) (appID envID : UUID) (keep : Int) :
    PruneFollowsKept w appID envID keep ↔ TagsShared w appID envID keep := by
  constructor
  · intro follows row listed tagged hosted
    obtain ⟨agentID, host⟩ := List.exists_mem_of_ne_nil _ hosted
    rw [← keeps_after_iff]
    by_contra gone
    exact not_pruneSent w appID envID keep agentID row
      ((follows row listed tagged agentID host).mpr gone)
  · intro shared row listed tagged agentID host
    have kept := shared row listed tagged (List.ne_nil_of_mem host)
    rw [← keeps_after_iff] at kept
    exact iff_of_false (not_pruneSent w appID envID keep agentID row) (not_not_intro kept)

/-! ### Three deployments with an image each -/

def threeImages : World :=
  { builds := ⟨[{ id := 31, imageTag := "web:1" }, { id := 32, imageTag := "web:2" },
      { id := 33, imageTag := "web:3" }], by decide⟩
    deployments := ⟨[1, 2, 3].map fun n =>
      { id := n, appID := 20, environmentID := 40, buildID := 30 + n, createdAt := n.toNat,
        status := .superseded, platformDomain := "web-shop-team.example.org" }, by decide⟩
    servers := ⟨[{ id := 70, teamID := 11, agentID := some "agent-70" }], by decide⟩
    targets := ⟨[{ id := 81, deploymentID := 1, serverID := 70 }], by decide⟩
    agents := ⟨[{ agentID := "agent-70" }], by decide⟩ }

/-- A pass that keeps two archives the oldest, and its image stays. -/
theorem image_of_archived_stays :
    ¬ PruneFollowsKept threeImages 20 40 2 := by
  intro follows
  have sent := follows ⟨1, "web:1"⟩ (by decide) (by decide) "agent-70" (by decide)
  exact not_pruneSent threeImages 20 40 2 "agent-70" ⟨1, "web:1"⟩ (sent.mpr (by decide +kernel))

end Nixway.Deploy
