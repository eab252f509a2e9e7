/-
# Apps.SetDomain -- what SetDomain reverts

`SetDomain` reads the whole row of the app and writes the whole row back with another
domain.  Beside `Update` and `ScaleApp` requests on the same app, run the same schedule
once with the request and once with nothing in its place.  `setDomain_columns_iff`: the
columns other than the domain and its flag are the same all along exactly when the write
of `SetDomain` finds the columns as its read left them.

The other requests may read columns the first run changed, so the two runs are compared
request by request (`Theory.Lockstep`): they are in lockstep up to the statement that
writes the row, and leave the row alone from there on.
-/
import Nixway.Apps.Requests
import Nixway.Theory.Lockstep

namespace Nixway.Apps

open Nixway.Theory Nixway.Store Nixway.Deploy
open Nixway.Theory.Prog (query exec atomic ignore)
open Nixway.Access (Refusal)

set_option autoImplicit false

/-! ## The other columns -/

/-- The row without its domain and the flag of it. -/
def sansDomain (app : App) : App := { app with customDomain := none, domainVerified := false }

def columns (appID : UUID) (w : World) : Option App := (w.getApp appID).map sansDomain

/-- Stores with the same other columns. -/
def SameColumns (appID : UUID) (s t : World) : Prop := columns appID s = columns appID t

/-- An effect that leaves the other columns alone. -/
def KeepsColumns (appID : UUID) (effect : World → World) : Prop :=
  ∀ w, columns appID (effect w) = columns appID w

section Columns

variable {appID : UUID} {s t : World}

theorem keepsColumns_of_apps {effect : World → World} (same : ∀ w, (effect w).apps = w.apps) :
    KeepsColumns appID effect := by
  intro w
  rw [columns, World.getApp, same w]
  rfl

theorem congr_of_sansDomain {β : Type} (f : App → β) (outside : ∀ app, f (sansDomain app) = f app)
    {app app' : App} (same : sansDomain app = sansDomain app') : f app = f app' := by
  rw [← outside app, same, outside app']

theorem sansDomain_eq_of_found {app app' : App} (same : SameColumns appID s t)
    (found : s.getApp appID = some app) (found' : t.getApp appID = some app') :
    sansDomain app = sansDomain app' := by
  unfold SameColumns columns at same
  rw [found, found'] at same
  exact Option.some.inj same

theorem getApp_none_iff (same : SameColumns appID s t) :
    s.getApp appID = none ↔ t.getApp appID = none := by
  unfold SameColumns columns at same
  rw [← Option.map_eq_none_iff (f := sansDomain), same, Option.map_eq_none_iff]

theorem SameColumns.update (same : SameColumns appID s t) (f : App → App)
    (keeps : ∀ a, Keyed.key (f a) = Keyed.key a) {s' t' : World}
    (left : s'.apps = s.apps.update appID f keeps) (right : t'.apps = t.apps.update appID f keeps)
    (rows : ∀ app app', sansDomain app = sansDomain app' →
      sansDomain (f app) = sansDomain (f app')) : SameColumns appID s' t' := by
  unfold SameColumns columns at same ⊢
  rw [World.getApp, left, Table.find?_update_self, World.getApp, right, Table.find?_update_self]
  rw [World.getApp, World.getApp] at same
  cases here : s.apps.find? appID with
  | none =>
    cases there : t.apps.find? appID with
    | none => rfl
    | some app' => rw [here, there] at same; cases same
  | some app =>
    cases there : t.apps.find? appID with
    | none => rw [here, there] at same; cases same
    | some app' =>
      rw [here, there] at same
      exact congrArg some (rows app app' (Option.some.inj same))

end Columns

/-! ## The requests beside it -/

/-- A request on the same app. -/
inductive Writer where
  | update (req : UpdateAppRequest)
  | scaleApp (draw : Draw) (req : ScaleAppRequest)

section Writers

variable (cluster : World → UUID → Cluster) (appID : UUID)

def Writer.prog : Writer → Prog World Unit
  | .update req => ignore (AppHandler.update appID req)
  | .scaleApp draw req => ignore (DeployHandler.scaleApp cluster draw appID req)

/-- What `Update` reads of the row besides its key is outside the domain. -/
theorem updateParams_sansDomain (req : UpdateAppRequest) (pinned : List UUID) {app app' : App}
    (same : sansDomain app = sansDomain app') :
    AppHandler.updateParams appID app req pinned = AppHandler.updateParams appID app' req pinned := by
  have strategy : app.placementStrategy = app'.placementStrategy :=
    congr_of_sansDomain App.placementStrategy (fun _ => rfl) same
  have constraints : app.placementConstraints = app'.placementConstraints :=
    congr_of_sansDomain App.placementConstraints (fun _ => rfl) same
  unfold AppHandler.updateParams AppHandler.strategy
  rw [strategy, constraints]

theorem pinned_sansDomain (req : UpdateAppRequest) {app app' : App}
    (same : sansDomain app = sansDomain app') :
    AppHandler.pinned app req = AppHandler.pinned app' req := by
  have pinned : app.pinnedServerIDs = app'.pinnedServerIDs := congr_of_sansDomain App.pinnedServerIDs (fun _ => rfl) same
  unfold AppHandler.pinned
  rw [pinned]

/-- `UpdateApp` with the same arguments writes the same other columns. -/
theorem sansDomain_row (arg : World.UpdateAppParams) {app app' : App}
    (same : sansDomain app = sansDomain app') : sansDomain (arg.row app) = sansDomain (arg.row app') :=
  congr_of_sansDomain (fun app => sansDomain (arg.row app)) (fun _ => rfl) same

theorem update_lockstep (req : UpdateAppRequest) :
    Prog.Lockstep (SameColumns appID) (KeepsColumns appID) (AppHandler.update appID req)
      (AppHandler.update appID req) := by
  refine Prog.Lockstep.bind_query fun s t same => ?_
  cases found : s.getApp appID with
  | none =>
    rw [(getApp_none_iff same).mp found]
    exact .done _ _
  | some app =>
    cases found' : t.getApp appID with
    | none => rw [(getApp_none_iff same).mpr found'] at found; cases found
    | some app' =>
      have rows := sansDomain_eq_of_found same found found'
      dsimp only
      rw [pinned_sansDomain req rows]
      cases AppHandler.pinned app' req with
      | none => exact .done _ _
      | some pinned =>
        dsimp only
        rw [updateParams_sansDomain appID req pinned rows]
        cases params : AppHandler.updateParams appID app' req pinned with
        | none => exact .done _ _
        | some arg =>
          have own := AppHandler.id_of_updateParams params
          subst own
          refine Prog.Lockstep.bind_atomic (fun s t same => ?_) fun s t same => ?_
          · exact same.update arg.row arg.key_row rfl rfl fun _ _ => sansDomain_row arg
          · cases (writeApp arg s).2 <;> cases (writeApp arg t).2 <;> exact .done _ _

/-- `ScaleApp` of the service, on two rows of the app that agree outside the domain. -/
theorem scaleApp_lockstep (draw : Draw) (req : Scale.ScaleRequest) {app app' : App}
    (own : app.id = appID) (same : sansDomain app = sansDomain app') :
    Prog.Lockstep (SameColumns appID) (KeepsColumns appID)
      (Scale.scaleApp (Service.triggerDeploy cluster draw) id app req)
      (Scale.scaleApp (Service.triggerDeploy cluster draw) id app' req) := by
  have ids : app.id = app'.id := congr_of_sansDomain App.id (fun _ => rfl) same
  have strategies : app.placementStrategy = app'.placementStrategy :=
    congr_of_sansDomain App.placementStrategy (fun _ => rfl) same
  have keeps : ∀ effect : World → World, (∀ w, (effect w).apps = w.apps) →
      KeepsColumns appID effect := fun _ => keepsColumns_of_apps
  unfold Scale.scaleApp
  rw [strategies]
  split
  · exact .done _ _
  · dsimp only
    split
    · exact .done _ _
    · next strategy known =>
      rw [← ids, own]
      refine Prog.Lockstep.bind_atomic (fun s t same => ?_) fun s t same => ?_
      · let scale (app : App) : App :=
          { app with
            replicas := req.replicas
            placementStrategy := strategy
            placementConstraints := req.placementConstraints
            pinnedServerIDs := req.pinnedServerIDs }
        exact same.update scale (fun _ => rfl) rfl rfl fun a a' rows =>
          congr_of_sansDomain (fun app => sansDomain (scale app)) (fun _ => rfl) rows
      · -- from here on neither side writes an app
        refine .calm ?_ ?_
        · split
          · exact afterScaling_every cluster draw app req strategy _ keeps
          · trivial
        · split
          · exact afterScaling_every cluster draw app' req strategy _ keeps
          · trivial

theorem scaleHandler_lockstep (draw : Draw) (req : ScaleAppRequest) :
    Prog.Lockstep (SameColumns appID) (KeepsColumns appID)
      (DeployHandler.scaleApp cluster draw appID req)
      (DeployHandler.scaleApp cluster draw appID req) := by
  refine Prog.Lockstep.bind_query fun s t same => ?_
  cases found : s.getApp appID with
  | none =>
    rw [(getApp_none_iff same).mp found]
    exact .done _ _
  | some app =>
    cases found' : t.getApp appID with
    | none => rw [(getApp_none_iff same).mpr found'] at found; cases found
    | some app' =>
      have rows := sansDomain_eq_of_found same found found'
      have pinned : req.pinned app = req.pinned app' := by
        unfold ScaleAppRequest.pinned
        rw [show app.pinnedServerIDs = app'.pinnedServerIDs from
          congr_of_sansDomain App.pinnedServerIDs (fun _ => rfl) rows]
      have asked : ∀ ids, req.request app ids = req.request app' ids := by
        intro ids
        unfold ScaleAppRequest.request
        rw [show app.placementStrategy = app'.placementStrategy from
            congr_of_sansDomain App.placementStrategy (fun _ => rfl) rows,
          show app.placementConstraints = app'.placementConstraints from
            congr_of_sansDomain App.placementConstraints (fun _ => rfl) rows]
      dsimp only
      split
      · exact .done _ _
      · rw [pinned]
        cases req.pinned app' with
        | none => exact .done _ _
        | some ids =>
          dsimp only
          rw [asked ids]
          refine Prog.Lockstep.bind_query fun s t same => ?_
          cases found : s.getApp appID with
          | none =>
            rw [(getApp_none_iff same).mp found]
            exact .done _ _
          | some current =>
            cases found' : t.getApp appID with
            | none => rw [(getApp_none_iff same).mpr found'] at found; cases found
            | some current' =>
              have rows := sansDomain_eq_of_found same found found'
              have own : current.id = appID := Table.key_of_find? found
              refine (scaleApp_lockstep cluster appID draw _ own rows).bind_calm ?_ ?_
              · intro answer
                cases answer <;> trivial
              · intro answer
                cases answer <;> trivial

theorem Writer.lockstep (writer : Writer) :
    Prog.Lockstep (SameColumns appID) (KeepsColumns appID) (writer.prog cluster appID)
      (writer.prog cluster appID) := by
  cases writer with
  | update req => exact (update_lockstep appID req).bind_calm (fun _ => trivial) fun _ => trivial
  | scaleApp draw req =>
    exact (scaleHandler_lockstep cluster appID draw req).bind_calm (fun _ => trivial)
      fun _ => trivial

end Writers

/-! ## The request itself -/

/-- How far `SetDomain` is; once it has read the row it holds it. -/
inductive Progress where
  | begun
  | lowered
  | holding (app : App)
  | finished

section Progress

variable (appID : UUID) (domain : String)

/-- The statement it performs next, and how far it is then. -/
def Progress.act : Progress → Option ((World → World) × (World → Progress))
  | .begun => some (fun w => w.setAppDomainVerified appID false, fun _ => .lowered)
  | .lowered => some (id, fun w =>
    match w.getApp appID with
    | none => .finished
    | some app => .holding app)
  | .holding app =>
    some (fun w => (writeApp (AppHandler.domainParams appID app domain) w).1, fun _ => .finished)
  | .finished => none

def Progress.prog : Progress → Prog World Unit
  | .begun => do
    exec fun w => w.setAppDomainVerified appID false
    let found ← query fun w => w.getApp appID
    match found with
    | none => return ()
    | some app => ignore (atomic (writeApp (AppHandler.domainParams appID app domain)))
  | .lowered => do
    let found ← query fun w => w.getApp appID
    match found with
    | none => return ()
    | some app => ignore (atomic (writeApp (AppHandler.domainParams appID app domain)))
  | .holding app => ignore (atomic (writeApp (AppHandler.domainParams appID app domain)))
  | .finished => return ()

/-- A blank domain is refused before any statement. -/
def Progress.start : Progress := if domain = "" then .finished else .begun

theorem Progress.presents : (⟨Progress.act appID domain⟩ : Flow World Progress).Presents
    (Progress.prog appID domain) where
  halted progress here := by
    cases progress with
    | finished => rfl
    | begun => cases here
    | lowered => cases here
    | holding app => cases here
  moves progress effect next here := by
    cases progress with
    | finished => cases here
    | begun => cases here; rfl
    | lowered =>
      cases here
      show Prog.step _ _ = Prog.step _ _
      congr 1
      funext w
      cases found : w.getApp appID with
      | none => simp only [found]; rfl
      | some app => simp only [found]; rfl
    | holding app => cases here; rfl

/-- The handler is the first point of the graph. -/
theorem setDomain_eq_prog :
    ignore (AppHandler.setDomain appID domain) = (Progress.start domain).prog appID domain := by
  unfold AppHandler.setDomain Progress.start
  split
  · rfl
  · show Prog.step _ _ = Prog.step _ _
    congr 1
    funext _
    show Prog.step _ _ = Prog.step _ _
    congr 1
    funext w
    beta_reduce
    cases w.getApp appID with
    | none => rfl
    | some app =>
      show Prog.step _ _ = Prog.step _ _
      congr 1
      funext w
      beta_reduce
      cases (writeApp (AppHandler.domainParams appID app domain) w).2 <;> rfl

end Progress

/-! ## With the request and without it -/

section Comparison

variable (cluster : World → UUID → Cluster) (appID : UUID) (domain : String)

/-- The request beside the others. -/
def withRequest (w : World) (writers : List Writer) : Pool World :=
  ⟨w, ignore (AppHandler.setDomain appID domain) :: writers.map (Writer.prog cluster appID)⟩

/-- The same, as if the request had not happened. -/
def without (w : World) (writers : List Writer) : Pool World :=
  ⟨w, .done ⟨⟩ :: writers.map (Writer.prog cluster appID)⟩

/-- If the request is about to write the row, the columns are as it has read them. -/
def Progress.Still (w : World) : Progress → Prop
  | .holding app =>
    (w.getApp appID).all fun row =>
      AppHandler.domainParams appID row domain = AppHandler.domainParams appID app domain
  | _ => True

instance (w : World) : (progress : Progress) → Decidable (progress.Still appID domain w)
  | .begun => inferInstanceAs (Decidable True)
  | .lowered => inferInstanceAs (Decidable True)
  | .holding _ => inferInstanceAs (Decidable (_ = true))
  | .finished => inferInstanceAs (Decidable True)

def Progress.next (w : World) (progress : Progress) : Progress :=
  match progress.act appID domain with
  | none => progress
  | some (_, next) => next w

/-- Whenever the request writes the row, it finds the columns as it has read them. -/
def Undisturbed : Progress → Pool World → List Nat → Prop
  | _, _, [] => True
  | progress, c, 0 :: schedule =>
    progress.Still appID domain c.store ∧
      Undisturbed (progress.next appID domain c.store) (c.advance Pool.noSpawn 0) schedule
  | progress, c, (i + 1) :: schedule =>
    Undisturbed progress (c.advance Pool.noSpawn (i + 1)) schedule

instance undisturbedDecidable : ∀ (progress : Progress) (c : Pool World) (schedule : List Nat),
    Decidable (Undisturbed appID domain progress c schedule)
  | _, _, [] => isTrue trivial
  | progress, c, 0 :: schedule =>
    have := undisturbedDecidable (progress.next appID domain c.store)
      (c.advance Pool.noSpawn 0) schedule
    inferInstanceAs (Decidable (_ ∧ _))
  | progress, c, (i + 1) :: schedule =>
    undisturbedDecidable progress (c.advance Pool.noSpawn (i + 1)) schedule

variable {cluster appID domain}

/-- The write of the request changes the other columns exactly when it finds them changed. -/
theorem columns_domainParams_iff (app : App) (w : World) :
    columns appID (writeApp (AppHandler.domainParams appID app domain) w).1 = columns appID w ↔
      (Progress.holding app).Still appID domain w := by
  have after : (writeApp (AppHandler.domainParams appID app domain) w).1.getApp appID =
      (w.getApp appID).map (AppHandler.domainParams appID app domain).row := by
    show (w.updateApp (AppHandler.domainParams appID app domain)).getApp
      (AppHandler.domainParams appID app domain).id = _
    rw [World.getApp, World.updateApp, Table.find?_update_self]
    rfl
  unfold columns Progress.Still
  rw [after]
  cases w.getApp appID with
  | none => simp
  | some row =>
    simp only [Option.map_some, Option.some.injEq, Option.all_some, decide_eq_true_eq]
    constructor
    · intro same
      have written := congr_of_sansDomain (fun row => AppHandler.domainParams appID row domain)
        (fun _ => rfl) same.symm
      exact written
    · intro same
      rw [← same]
      rfl

theorem sameColumns_left (effect : World → World) (keeps : KeepsColumns appID effect) (s t : World)
    (same : SameColumns appID s t) : SameColumns appID (effect s) t :=
  (keeps s).trans same

theorem sameColumns_right (effect : World → World) (keeps : KeepsColumns appID effect)
    (s t : World) (same : SameColumns appID s t) : SameColumns appID s (effect t) :=
  Eq.trans same (keeps t).symm

theorem keepsColumns_lower : KeepsColumns appID fun w => w.setAppDomainVerified appID false := by
  intro w
  unfold columns
  rw [getApp_setAppDomainVerified, Option.map_map]
  rfl

/-- A pick of the request keeps the other columns exactly when it is not about to write
them back changed. -/
theorem columns_act_iff {progress : Progress} {effect : World → World}
    {next : World → Progress} (edge : progress.act appID domain = some (effect, next)) (w : World) :
    columns appID (effect w) = columns appID w ↔ progress.Still appID domain w := by
  cases progress with
  | begun => cases edge; exact iff_of_true (keepsColumns_lower w) trivial
  | lowered => cases edge; exact iff_of_true rfl trivial
  | holding app => cases edge; exact columns_domainParams_iff app w
  | finished => cases edge

/-- From any point of the request, beside requests in lockstep. -/
theorem same_columns_iff (progress : Progress) {s t : World} {ps qs : List (Prog World Unit)}
    (alike : Pool.Alike (SameColumns appID) (KeepsColumns appID) ⟨s, ps⟩ ⟨t, qs⟩)
    (schedule : List Nat) :
    (∀ earlier, earlier <+: schedule → SameColumns appID
        ((⟨s, progress.prog appID domain :: ps⟩ : Pool World).run Pool.noSpawn earlier).store
        ((⟨t, .done ⟨⟩ :: qs⟩ : Pool World).run Pool.noSpawn earlier).store) ↔
      Undisturbed appID domain progress ⟨s, progress.prog appID domain :: ps⟩ schedule := by
  induction schedule generalizing progress s t ps qs with
  | nil => exact forall_prefix_nil.trans (iff_of_true alike.stores trivial)
  | cons i schedule ih =>
    rw [forall_prefix_cons]
    simp only [Pool.run_cons]
    have here : SameColumns appID
        ((⟨s, progress.prog appID domain :: ps⟩ : Pool World).run Pool.noSpawn []).store
        ((⟨t, .done ⟨⟩ :: qs⟩ : Pool World).run Pool.noSpawn []).store := alike.stores
    cases i with
    | succ i =>
      -- another request moves, on both sides
      have later := alike.advance sameColumns_left sameColumns_right i
      rw [Undisturbed, Pool.advance_cons_succ, Pool.advance_cons_succ]
      exact (and_iff_right here).trans (ih progress later)
    | zero =>
      rw [Undisturbed, Pool.advance_cons_done, and_iff_right here]
      cases edge : progress.act appID domain with
      | none =>
        have halted := (Progress.presents appID domain).halted progress edge
        have stays : progress.next appID domain s = progress := by
          rw [Progress.next, edge]
        have still : progress.Still appID domain s := by
          cases progress with
          | holding app => cases edge
          | _ => trivial
        have idle : (⟨s, progress.prog appID domain :: ps⟩ : Pool World).advance
            Pool.noSpawn 0 = ⟨s, progress.prog appID domain :: ps⟩ := by
          rw [halted]
          rfl
        rw [stays, and_iff_right still, idle]
        exact ih progress alike
      | some move =>
        obtain ⟨effect, next⟩ := move
        have moves := (Progress.presents appID domain).moves progress effect next edge
        have goes : progress.next appID domain s = next s := by
          rw [Progress.next, edge]
        have kept := columns_act_iff edge s
        rw [moves, Pool.advance_cons_zero, goes, ← kept]
        by_cases same : columns appID (effect s) = columns appID s
        · have later : Pool.Alike (SameColumns appID) (KeepsColumns appID)
              ⟨effect s, ps⟩ ⟨t, qs⟩ :=
            ⟨same.trans alike.stores, alike.threads⟩
          rw [and_iff_right same]
          exact ih (next s) later
        · refine iff_of_false (fun throughout => same ?_) fun both => same both.1
          have first : SameColumns appID (effect s) t := throughout [] List.nil_prefix
          exact Eq.trans first (Eq.symm alike.stores)

/-- **What SetDomain reverts.**  The columns other than the domain and its flag are what they
would be without the request, in every state of a schedule, exactly when the request finds
the columns unchanged whenever it writes the row. -/
theorem setDomain_columns_iff (w : World) (writers : List Writer) (schedule : List Nat) :
    (∀ earlier, earlier <+: schedule →
        columns appID ((withRequest cluster appID domain w writers).run Pool.noSpawn earlier).store =
          columns appID ((without cluster appID w writers).run Pool.noSpawn earlier).store) ↔
      Undisturbed appID domain (Progress.start domain) (withRequest cluster appID domain w writers)
        schedule := by
  have alike : Pool.Alike (SameColumns appID) (KeepsColumns appID)
      ⟨w, writers.map (Writer.prog cluster appID)⟩ ⟨w, writers.map (Writer.prog cluster appID)⟩ := by
    refine ⟨rfl, List.forall₂_same.mpr fun p mem => ?_⟩
    obtain ⟨writer, -, rfl⟩ := List.mem_map.mp mem
    exact writer.lockstep cluster appID
  unfold withRequest without
  rw [setDomain_eq_prog]
  exact same_columns_iff (Progress.start domain) alike schedule

end Comparison

/-! ## A count that is lost -/

/-- An app with one replica, and the environment of its project. -/
def oneReplica : World :=
  { apps := ⟨[{ id := 7, projectID := 1, name := "web", slug := "web" }], by decide⟩
    environments := .single ⟨1, 1, "production", "production", true⟩ }

def scaleToThree : Writer := .scaleApp ⟨1, fun _ => 1, []⟩ { replicas := 3 }

/-- `ScaleApp` between the read and the write of `SetDomain`: everything has finished, and
the app has one replica where it would have three. -/
theorem setDomain_reverts_replicas :
    ((withRequest (fun _ _ => ⟨[], []⟩) 7 "shop.example" oneReplica [scaleToThree]).run
        Pool.noSpawn [0, 0, 1, 1, 1, 1, 1, 1, 0]).Finished ∧
      ((without (fun _ _ => ⟨[], []⟩) 7 oneReplica [scaleToThree]).run
        Pool.noSpawn [0, 0, 1, 1, 1, 1, 1, 1, 0]).Finished ∧
      (((withRequest (fun _ _ => ⟨[], []⟩) 7 "shop.example" oneReplica [scaleToThree]).run
        Pool.noSpawn [0, 0, 1, 1, 1, 1, 1, 1, 0]).store.getApp 7).map App.replicas = some 1 ∧
      (((without (fun _ _ => ⟨[], []⟩) 7 oneReplica [scaleToThree]).run
        Pool.noSpawn [0, 0, 1, 1, 1, 1, 1, 1, 0]).store.getApp 7).map App.replicas = some 3 := by
  decide

/-- `ScaleApp` after `SetDomain` finds a run that is undisturbed. -/
example : Undisturbed 7 "shop.example" (Progress.start "shop.example")
    (withRequest (fun _ _ => ⟨[], []⟩) 7 "shop.example" oneReplica [scaleToThree])
    [1, 0, 0, 0, 1, 1, 1, 1, 1] := by
  decide

end Nixway.Apps
