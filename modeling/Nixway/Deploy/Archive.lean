/-
# Deploy.Archive -- what the archival pass leaves alone

`archiveOldDeployments` keeps the `keep` most recently created deployments of an
(app, environment) that are healthy or superseded, and archives the others.  The
deployment that receives traffic is the one promoted last, which need not be a
recent one.  `archive_untouched_iff` gives the exact condition under which a
deployment and its backends survive the pass, for every store; the serving
deployment is a case of it.
-/
import Nixway.Deploy.Traffic
import Nixway.Store.Integrity

namespace Nixway.Deploy

open Nixway.Theory Nixway.Store
open Nixway.Theory.Prog (query exec atomic forEach)

set_option autoImplicit false

/-- The row of the deployment and all its backends are the same in both stores. -/
def Untouched (before after : World) (deploymentID : UUID) : Prop :=
  after.getDeployment deploymentID = before.getDeployment deploymentID ∧
    after.backendsOf deploymentID = before.backendsOf deploymentID

instance (before after : World) (id : UUID) : Decidable (Untouched before after id) :=
  inferInstanceAs (Decidable (_ ∧ _))

/-! ## The rollback window -/

theorem newer_asymm (a b : Deployment) (h : World.newer a b) : ¬ World.newer b a := by
  simp only [World.newer, BitVec.lt_def] at *
  omega

theorem newer_total {a b : Deployment} (different : a.id ≠ b.id) :
    World.newer a b ∨ World.newer b a := by
  have apart : a.id.toNat ≠ b.id.toNat := fun same => different (BitVec.eq_of_toNat_eq same)
  simp only [World.newer, BitVec.lt_def]
  omega

/-- Rows created no later than each other, as the sort compares them. -/
def notOlder (a b : Deployment) : Prop := ¬ World.newer b a

instance : DecidableRel notOlder := fun _ _ => inferInstanceAs (Decidable (¬ _))

instance : Std.Total notOlder where
  total a b := by
    by_cases h : World.newer b a
    · exact .inr (newer_asymm b a h)
    · exact .inl h

instance : IsTrans Deployment notOlder where
  trans a b c ab bc ca := by
    simp only [notOlder, World.newer, BitVec.lt_def] at *
    omega

def candidates (w : World) (appID envID : UUID) : List Deployment :=
  (w.deployments.rows.filter (World.archivable appID envID)).insertionSort notOlder

theorem rollbackWindow_eq (w : World) (appID envID : UUID) (keep : Int) :
    w.rollbackWindow appID envID keep = (candidates w appID envID).take keep.toNat := rfl

theorem mem_candidates {w : World} {appID envID : UUID} {d : Deployment} :
    d ∈ candidates w appID envID ↔ d ∈ w.deployments ∧ World.archivable appID envID d = true := by
  simp [candidates, Table.mem_def]

/-- Distinct rows have distinct ids, so the sort orders the candidates strictly. -/
theorem candidates_ordered (w : World) (appID envID : UUID) :
    (candidates w appID envID).Pairwise World.newer := by
  have ids : (candidates w appID envID).Pairwise fun a b => a.id ≠ b.id := by
    have unique : ((w.deployments.rows.filter (World.archivable appID envID)).map
        Deployment.id).Nodup :=
      w.deployments.unique.sublist (List.filter_sublist.map Deployment.id)
    have sorted : ((candidates w appID envID).map Deployment.id).Nodup :=
      ((List.perm_insertionSort notOlder _).map Deployment.id).nodup_iff.mpr unique
    exact List.pairwise_map.mp sorted
  have order : (candidates w appID envID).Pairwise notOlder :=
    List.pairwise_insertionSort notOlder _
  refine (ids.and order).imp ?_
  rintro a b ⟨different, older⟩
  exact (newer_total different).resolve_right older

/-- How many deployments that the pass considers were created after `d`. -/
def createdAfter (w : World) (appID envID : UUID) (d : Deployment) : Nat :=
  (w.deployments.rows.filter (World.archivable appID envID)).countP fun a => World.newer a d

/-- **The window by counting.**  A candidate is kept exactly when fewer than `keep`
candidates were created after it. -/
theorem mem_rollbackWindow_iff {w : World} {appID envID : UUID} {d : Deployment}
    (member : d ∈ w.deployments) (archivable : World.archivable appID envID d = true)
    (keep : Int) :
    d ∈ w.rollbackWindow appID envID keep ↔ createdAfter w appID envID d < keep.toNat := by
  have inside : d ∈ candidates w appID envID := mem_candidates.mpr ⟨member, archivable⟩
  rw [rollbackWindow_eq, mem_take_iff_countP newer_asymm (candidates_ordered w appID envID) inside]
  have counted : (candidates w appID envID).countP (fun a => World.newer a d) =
      createdAfter w appID envID d :=
    (List.perm_insertionSort notOlder _).countP_eq _
  rw [counted]

/-- A deployment with a build is listed for archival exactly when it is a candidate
outside the window. -/
theorem mem_archivable_rows_of_build {w : World} (appID envID : UUID) (keep : Int)
    {d : Deployment} (member : d ∈ w.deployments) {build : Build}
    (found : w.builds.find? d.buildID = some build) :
    d.id ∈ (w.listArchivableDeploymentsByApp appID envID keep).map World.ArchivableRow.id ↔
      World.archivable appID envID d = true ∧ keep.toNat ≤ createdAfter w appID envID d := by
  have inWindow : (∃ kept ∈ w.rollbackWindow appID envID keep, kept.id = d.id) ↔
      d ∈ w.rollbackWindow appID envID keep := by
    constructor
    · rintro ⟨kept, inside, same⟩
      have keptMember : kept ∈ w.deployments := by
        rw [rollbackWindow_eq] at inside
        exact (mem_candidates.mp (List.mem_of_mem_take inside)).1
      rwa [← Table.eq_of_key_eq keptMember member same]
    · exact fun inside => ⟨d, inside, rfl⟩
  have listed : d.id ∈ (w.listArchivableDeploymentsByApp appID envID keep).map
        World.ArchivableRow.id ↔
      World.archivable appID envID d = true ∧ d ∉ w.rollbackWindow appID envID keep := by
    simp only [World.listArchivableDeploymentsByApp, List.mem_map, List.mem_filterMap,
      List.mem_insertionSort, List.mem_filter, Bool.and_eq_true, Bool.not_eq_true',
      Option.map_eq_some_iff]
    constructor
    · rintro ⟨row, ⟨d', ⟨member', ⟨archivable, -⟩, outside⟩, b, -, rfl⟩, same⟩
      obtain rfl : d' = d := Table.eq_of_key_eq member' member same
      refine ⟨archivable, fun inside => ?_⟩
      rw [List.any_eq_false] at outside
      exact outside d' inside (decide_eq_true rfl)
    · rintro ⟨archivable, outside⟩
      refine ⟨⟨d.id, build.imageTag⟩, ⟨d, ⟨member, ⟨archivable, by rw [found]; rfl⟩, ?_⟩,
        build, found, rfl⟩, rfl⟩
      rw [List.any_eq_false]
      intro kept inside same
      exact outside (inWindow.mp ⟨kept, inside, by simpa using same⟩)
  rw [listed]
  constructor
  · rintro ⟨archivable, outside⟩
    rw [mem_rollbackWindow_iff member archivable] at outside
    exact ⟨archivable, by omega⟩
  · rintro ⟨archivable, past⟩
    rw [mem_rollbackWindow_iff member archivable]
    exact ⟨archivable, by omega⟩

theorem mem_archivable_rows {w : World} (refs : w.References) (appID envID : UUID) (keep : Int)
    {d : Deployment} (member : d ∈ w.deployments) :
    d.id ∈ (w.listArchivableDeploymentsByApp appID envID keep).map World.ArchivableRow.id ↔
      World.archivable appID envID d = true ∧ keep.toNat ≤ createdAfter w appID envID d := by
  obtain ⟨build, found⟩ := Option.isSome_iff_exists.mp (refs.deploymentBuild d member)
  exact mem_archivable_rows_of_build appID envID keep member found

/-! ## One row of the pass -/

theorem sendToAgent_frame {δ : Type} (view : World → δ) (agentID : String) (msg : ControlMessage)
    (blind : ∀ w sent, view { w with sent := sent } = view w) (w : World) :
    view (sendToAgent agentID msg w).1 = view w := by
  obtain ⟨err, failed⟩ | sent := sendToAgent_cases agentID msg w
  · rw [failed]
  · rw [sent]
    exact blind w _

theorem pruneImage_frame {δ : Type} (view : World → δ) (row : World.ArchivableRow)
    (blind : ∀ w sent, view { w with sent := sent } = view w) :
    (pruneImage row).Every fun effect => ∀ w, view (effect w) = view w := by
  refine Prog.Every.bind (by simp) fun agentIDs => Prog.Every.forEach _ fun agentID _ => ?_
  refine Prog.Every.bind ?_ fun _ => Prog.every_done _
  rw [Prog.every_atomic]
  exact sendToAgent_frame view agentID _ blind

theorem archiveRow_tables (keptTags : List String) (row : World.ArchivableRow) (w : World) :
    ((archiveRow keptTags row).out w).deployments =
        (w.setDeploymentStatusSimple row.id .archived).deployments ∧
      ((archiveRow keptTags row).out w).backends =
        (w.deleteTrafficBackendsByDeployment row.id).backends := by
  let tables := fun w : World => (w.deployments, w.backends)
  have pruned := (pruneImage_frame tables row fun _ _ => rfl).run_unchanged tables
  simp only [Prog.out, archiveRow, Prog.run_exec_bind]
  split
  · rw [Prog.run_bind, Prog.run_exec]
    have same := pruned (w.deleteTrafficBackendsByDeployment row.id)
    simp only [tables, Prod.mk.injEq] at same
    constructor
    · simp only [World.setDeploymentStatusSimple]
      rw [same.1]
      rfl
    · simp only [World.setDeploymentStatusSimple]
      rw [same.2]
  · exact ⟨rfl, rfl⟩

theorem archiveRow_other (keptTags : List String) (row : World.ArchivableRow) (w : World)
    {id : UUID} (other : id ≠ row.id) : Untouched w ((archiveRow keptTags row).out w) id := by
  obtain ⟨deployments, backends⟩ := archiveRow_tables keptTags row w
  constructor
  · rw [World.getDeployment, deployments, World.setDeploymentStatusSimple,
      Table.find?_update_ne other]
  · rw [World.backendsOf, backends, World.backendsOf]
    simp only [World.deleteTrafficBackendsByDeployment, Table.deleteWhere, List.filter_filter]
    apply List.filter_congr
    intro b _
    by_cases here : b.deploymentID = id <;> simp [here, other]

theorem archiveRow_self (keptTags : List String) (row : World.ArchivableRow) (w : World) :
    ((archiveRow keptTags row).out w).getDeployment row.id =
      (w.getDeployment row.id).map fun d => { d with status := .archived } := by
  obtain ⟨deployments, -⟩ := archiveRow_tables keptTags row w
  rw [World.getDeployment, deployments, World.setDeploymentStatusSimple, Table.find?_update_self]

/-! ## The pass -/

theorem Untouched.trans {a b c : World} {id : UUID} (ab : Untouched a b id)
    (bc : Untouched b c id) : Untouched a c id :=
  ⟨bc.1.trans ab.1, bc.2.trans ab.2⟩

theorem archiveRows_unlisted (keptTags : List String) (rows : List World.ArchivableRow)
    {id : UUID} (unlisted : id ∉ rows.map World.ArchivableRow.id) (w : World) :
    Untouched w ((forEach rows (archiveRow keptTags)).out w) id := by
  induction rows generalizing w with
  | nil => exact ⟨rfl, rfl⟩
  | cons row rows ih =>
    simp only [List.map_cons, List.mem_cons, not_or] at unlisted
    have first := archiveRow_other keptTags row w unlisted.1
    rw [Prog.out, Prog.run_forEach_cons]
    exact first.trans (ih unlisted.2 _)

theorem archiveRows_listed (keptTags : List String) (rows : List World.ArchivableRow)
    {id : UUID} (listed : id ∈ rows.map World.ArchivableRow.id) (w : World) :
    ∀ d, ((forEach rows (archiveRow keptTags)).out w).getDeployment id = some d →
      d.status = .archived := by
  induction rows generalizing w with
  | nil => cases listed
  | cons row rows ih =>
    intro d found
    rw [Prog.out, Prog.run_forEach_cons] at found
    by_cases again : id ∈ rows.map World.ArchivableRow.id
    · exact ih again _ d found
    · have here : id = row.id := by
        rcases List.mem_cons.mp listed with here | there
        · exact here
        · exact absurd there again
      subst here
      have rest := archiveRows_unlisted keptTags rows again ((archiveRow keptTags row).out w)
      rw [Prog.out, Prog.out] at rest
      rw [rest.1] at found
      have archived := archiveRow_self keptTags row w
      rw [Prog.out] at archived
      rw [archived, Option.map_eq_some_iff] at found
      obtain ⟨old, -, rfl⟩ := found
      rfl

theorem archive_out (appID envID : UUID) (keep : Int) (w : World) :
    (archiveOldDeployments appID envID keep).out w =
      (forEach (w.listArchivableDeploymentsByApp appID envID keep)
        (archiveRow (w.listKeptImageTagsByApp appID envID))).out w := by
  simp only [Prog.out, archiveOldDeployments, Prog.run_query_bind]
  split
  · rename_i nothing
    rw [nothing]
    rfl
  · rfl

/-- A deployment survives the pass exactly when it is no candidate of it or fewer
than `keep` candidates were created after it. -/
theorem archive_untouched_iff {w : World} (refs : w.References) (appID envID : UUID) (keep : Int)
    {d : Deployment} (member : d ∈ w.deployments) :
    Untouched w ((archiveOldDeployments appID envID keep).out w) d.id ↔
      (World.archivable appID envID d = true →
        createdAfter w appID envID d < keep.toNat) := by
  have listed := mem_archivable_rows refs appID envID keep member
  rw [archive_out]
  constructor
  · intro untouched archivable
    by_contra past
    have hit := archiveRows_listed (w.listKeptImageTagsByApp appID envID) _
      (listed.mpr ⟨archivable, by omega⟩) w
    have status := hit d (by rw [untouched.1]; exact Table.find?_self member)
    simp [World.archivable, status] at archivable
  · intro kept
    apply archiveRows_unlisted
    intro inRows
    obtain ⟨archivable, past⟩ := listed.mp inRows
    have := kept archivable
    omega

/-! ## The serving deployment -/

/-- The pass leaves every routed deployment of the (app, environment) alone. -/
def ArchiveSparesRouted (w : World) (appID envID : UUID) (keep : Int) : Prop :=
  ∀ d ∈ w.deployments.rows, d.appID = appID → d.environmentID = envID → w.Routed d.id →
    Untouched w ((archiveOldDeployments appID envID keep).out w) d.id

instance (w : World) (appID envID : UUID) (keep : Int) :
    Decidable (ArchiveSparesRouted w appID envID keep) :=
  inferInstanceAs (Decidable (∀ _ ∈ _, _))

/-- **The pass spares the routed deployments exactly when they are recent.**  Every
routed deployment of the (app, environment) that is healthy or superseded must
have fewer than `keep` healthy or superseded deployments created after it. -/
theorem archive_spares_routed_iff {w : World} (refs : w.References) (appID envID : UUID)
    (keep : Int) :
    ArchiveSparesRouted w appID envID keep ↔
      ∀ d ∈ w.deployments.rows, d.appID = appID → d.environmentID = envID → w.Routed d.id →
        d.status = .healthy ∨ d.status = .superseded →
        createdAfter w appID envID d < keep.toNat := by
  constructor
  · intro spares d member ofApp ofEnv routed status
    apply (archive_untouched_iff refs appID envID keep member).mp
      (spares d member ofApp ofEnv routed)
    simpa [World.archivable, ofApp, ofEnv] using status
  · intro recent d member ofApp ofEnv routed
    apply (archive_untouched_iff refs appID envID keep member).mpr
    intro archivable
    apply recent d member ofApp ofEnv routed
    simpa [World.archivable, ofApp, ofEnv] using archivable

section LateFinisher

/-- Three deployments of one environment, created in the order 1, 2, 3. -/
def threeDeployments : World :=
  { projects := .single shopOfTeam
    apps := .single webApp
    builds := .single builtWeb
    deployments := ⟨[1, 2, 3].map fun n =>
      { id := n, appID := 20, environmentID := 40, buildID := 30, createdAt := n.toNat,
        status := .deploying, platformDomain := "web-shop-team.example.org" }, by decide⟩ }

/-- The second and the third finish first; the first one, slow, is promoted last. -/
def lateFinisher : World :=
  ((completeAndPromote 1 51 61).out ((completeAndPromote 3 51 63).out
    ((completeAndPromote 2 51 62).out threeDeployments)))

/-- Deployment 1 is the one that receives traffic, and a pass that keeps two
deployments archives it. -/
theorem archive_hits_late_finisher :
    lateFinisher.Serving 1 ∧ ¬ ArchiveSparesRouted lateFinisher 20 40 2 := by decide

/-- The three deployments promoted in the order they were created in. -/
def promotedInOrder : World :=
  ((completeAndPromote 3 51 63).out ((completeAndPromote 2 51 62).out
    ((completeAndPromote 1 51 61).out threeDeployments)))

theorem promotedInOrder_references : promotedInOrder.References where
  deploymentBuild := by decide
  backendDeployment := by decide
  backendRoute := by decide
  targetServer := by decide
  targetDeployment := by decide
  uniqueBackend := by decide
  uniqueRoute := by decide

/-- The pass archives the oldest one, and spares the newest, which serves. -/
theorem archive_spares_latest :
    promotedInOrder.Serving 3 ∧ ArchiveSparesRouted promotedInOrder 20 40 2 ∧
      (((archiveOldDeployments 20 40 2).out promotedInOrder).getDeployment 1).map Deployment.status =
        some .archived :=
  ⟨by decide, (archive_spares_routed_iff promotedInOrder_references 20 40 2).mpr (by decide), by decide⟩

end LateFinisher

end Nixway.Deploy
