/-
# Deploy.Reweigh -- what a write of the split leaves behind

`UpdateTrafficWeights` checks the sum of the list it is given and then writes the list row by
row.  The sum of the rows is another one where the list leaves out a backend of the route that
has a weight, or names one twice: `adds_up_iff` says when the two agree.  A row that cannot be
written ends the loop and the rows before it stay written: `unchanged_iff` says when such a call
leaves every weight as it was.
-/
import Nixway.Deploy.Weights
import Nixway.Deploy.Promotion
import Nixway.Deploy.Archive
import Mathlib.Algebra.BigOperators.Group.List.Basic
import Mathlib.Algebra.Group.Int.Defs

namespace Nixway.Deploy

open Nixway.Theory Nixway.Store
open Nixway.Theory.Prog (query exec atomic)

set_option autoImplicit false

/-! ## The sum of the rows -/

def backendsOn (w : World) (route : TrafficRoute) : List TrafficBackend :=
  w.backends.rows.filter fun b => b.routeID = route.id

/-- The weights stored on the route sum to a hundred, and every listed backend of it has the
weight listed. -/
structure AddsUp (w : World) (route : TrafficRoute) (weights : List TrafficWeight) : Prop where
  total : ((backendsOn w route).map TrafficBackend.weight).sum = 100
  listed : ∀ x ∈ weights, ∃ b, onRoute w route b ∧ b.id = x.backendID ∧ b.weight = x.weight.toInt

/-- The sum of the list, as an integer. -/
def listedSum (weights : List TrafficWeight) : Int := (weights.map fun x => x.weight.toInt).sum

/-- What the list counts of a backend that it names again further on. -/
def repeatedSum : List TrafficWeight → Int
  | [] => 0
  | x :: rest =>
    (if given x.backendID rest = none then 0 else x.weight.toInt) + repeatedSum rest

/-- The weights of the backends of the route that the list leaves out. -/
def leftOut (w : World) (route : TrafficRoute) (weights : List TrafficWeight) : Int :=
  (((backendsOn w route).filter fun b => given b.id weights = none).map TrafficBackend.weight).sum

/-- The list gives a backend one weight, and the backends it leaves out have what it counts
twice. -/
structure Balanced (w : World) (route : TrafficRoute) (weights : List TrafficWeight) : Prop where
  once : ∀ x ∈ weights, ∀ y ∈ weights, x.backendID = y.backendID → x.weight = y.weight
  left : leftOut w route weights + listedSum weights = 100 + repeatedSum weights

/-! ### Sums -/

theorem sum_at {rows : List TrafficBackend} {id : UUID}
    (distinct : (rows.map TrafficBackend.id).Nodup) (there : ∃ b ∈ rows, b.id = id) (c : Int) :
    (rows.map fun b => if b.id = id then c else 0).sum = c := by
  have absent : ∀ {l : List TrafficBackend}, (∀ b ∈ l, b.id ≠ id) →
      (l.map fun b => if b.id = id then c else 0).sum = 0 := by
    intro l other
    refine List.sum_eq_zero fun x mem => ?_
    obtain ⟨b, inside, rfl⟩ := List.mem_map.mp mem
    exact if_neg (other b inside)
  induction rows with
  | nil =>
    obtain ⟨b, mem, -⟩ := there
    cases mem
  | cons b rows ih =>
    rw [List.map_cons, List.nodup_cons] at distinct
    rw [List.map_cons, List.sum_cons]
    by_cases here : b.id = id
    · rw [if_pos here, absent, add_zero]
      intro b' mem same
      exact distinct.1 (List.mem_map.mpr ⟨b', mem, same.trans here.symm⟩)
    · rw [if_neg here, zero_add]
      obtain ⟨b', mem, same⟩ := there
      rcases List.mem_cons.mp mem with rfl | mem
      · exact absurd same here
      · exact ih distinct.2 ⟨b', mem, same⟩

/-- The list's sum counts every backend it names once, and the repetitions. -/
theorem sum_given {rows : List TrafficBackend} (distinct : (rows.map TrafficBackend.id).Nodup)
    {weights : List TrafficWeight} (known : ∀ x ∈ weights, ∃ b ∈ rows, b.id = x.backendID) :
    (rows.map fun b => ((given b.id weights).map Int32.toInt).getD 0).sum + repeatedSum weights =
      listedSum weights := by
  induction weights with
  | nil =>
    have none : (rows.map fun b => ((given b.id []).map Int32.toInt).getD 0).sum = 0 :=
      List.sum_eq_zero fun x mem => by
        obtain ⟨b, -, rfl⟩ := List.mem_map.mp mem
        rfl
    rw [none]
    rfl
  | cons x rest ih =>
    have before := ih fun y mem => known y (List.mem_cons_of_mem x mem)
    have one := sum_at distinct (known x List.mem_cons_self)
    have split : ∀ b : TrafficBackend, ((given b.id (x :: rest)).map Int32.toInt).getD 0 =
        ((given b.id rest).map Int32.toInt).getD 0 +
          if b.id = x.backendID then
            (if given x.backendID rest = none then x.weight.toInt else 0) else 0 := by
      intro b
      by_cases here : b.id = x.backendID
      · rw [given, if_pos here.symm, here, if_pos rfl]
        cases given x.backendID rest with
        | none => simp
        | some weight => simp
      · rw [given, if_neg (Ne.symm here), Option.or_none, if_neg here, add_zero]
    simp only [split, List.sum_map_add, one, repeatedSum, listedSum, List.map_cons,
      List.sum_cons] at before ⊢
    split <;> omega

theorem sum_filter_none (rows : List TrafficBackend) (weights : List TrafficWeight) :
    ((rows.filter fun b => given b.id weights = none).map TrafficBackend.weight).sum =
      (rows.map fun b => if given b.id weights = none then b.weight else 0).sum := by
  induction rows with
  | nil => rfl
  | cons b rows ih =>
    by_cases out : given b.id weights = none
    · rw [List.filter_cons, if_pos (decide_eq_true out), List.map_cons, List.sum_cons, ih,
        List.map_cons, List.sum_cons, if_pos out]
    · rw [List.filter_cons, if_neg (by simpa using out), ih, List.map_cons, List.sum_cons,
        if_neg out, zero_add]

/-- **The sum behind a write.** -/
theorem sum_reweigh {rows : List TrafficBackend} (distinct : (rows.map TrafficBackend.id).Nodup)
    {weights : List TrafficWeight} (known : ∀ x ∈ weights, ∃ b ∈ rows, b.id = x.backendID) :
    (rows.map fun b => (reweigh weights b).weight).sum + repeatedSum weights =
      ((rows.filter fun b => given b.id weights = none).map TrafficBackend.weight).sum +
        listedSum weights := by
  have split : ∀ b : TrafficBackend, (reweigh weights b).weight =
      (if given b.id weights = none then b.weight else 0) +
        ((given b.id weights).map Int32.toInt).getD 0 := by
    intro b
    cases mentioned : given b.id weights with
    | none => rw [reweigh_unmentioned mentioned, if_pos rfl]; exact (add_zero _).symm
    | some weight => rw [reweigh_given mentioned, if_neg nofun, zero_add]; rfl
  have counted := sum_given distinct known
  simp only [split, List.sum_map_add]
  rw [sum_filter_none]
  omega

/-! ## The loop, with statements that fail -/

/-- `UpdateTrafficBackendWeight`; `fault` is the store's error, if it has one. -/
def updateWeight (fault : Option String) (routeID : UUID) (x : TrafficWeight) (w : World) :
    World × Except String TrafficBackend :=
  match fault with
  | some err => (w, .error err)
  | none =>
    match w.updateTrafficBackendWeight x.backendID routeID x.weight.toInt with
    | (w', some b) => (w', .ok b)
    | (w', none) => (w', .error "no rows in result set")

/-- The loop of `UpdateTrafficWeights`; `fault n` is the error of its statement `n`. -/
def tryWeights (fault : Nat → Option String) (routeID : UUID) :
    Nat → List TrafficWeight → Prog World (Except String Unit)
  | _, [] => return .ok ()
  | n, x :: rest => do
    match ← atomic (updateWeight (fault n) routeID x) with
    | .error err => return .error ("update backend weight: " ++ err)
    | .ok _ => tryWeights fault routeID (n + 1) rest

theorem tryWeights_working (routeID : UUID) (n : Nat) (weights : List TrafficWeight) (w : World) :
    ((tryWeights (fun _ => none) routeID n weights).run w).1 =
        ((writeWeights routeID weights).run w).1 ∧
      (((tryWeights (fun _ => none) routeID n weights).run w).2.toBool =
        ((writeWeights routeID weights).run w).2.toBool) := by
  induction weights generalizing n w with
  | nil => exact ⟨rfl, rfl⟩
  | cons x rest ih =>
    unfold tryWeights writeWeights
    rw [Prog.run_atomic_bind, Prog.run_atomic_bind, updateWeight]
    obtain failed | ⟨b, updated⟩ :=
      updateTrafficBackendWeight_cases w x.backendID routeID x.weight.toInt
    · rw [failed]
      exact ⟨rfl, rfl⟩
    · rw [updated]
      exact ih (n + 1) _

/-- The pair names a backend of the route, and its statement does not fail. -/
def writable (w : World) (fault : Nat → Option String) (routeID : UUID) (n : Nat)
    (x : TrafficWeight) : Bool :=
  (fault n).isNone && (w.backendAt x.backendID routeID).isSome &&
    decide (0 ≤ x.weight.toInt ∧ x.weight.toInt ≤ 100)

/-- The pairs before the first that cannot be written. -/
def written (w : World) (fault : Nat → Option String) (routeID : UUID) :
    Nat → List TrafficWeight → List TrafficWeight
  | _, [] => []
  | n, x :: rest =>
    if writable w fault routeID n x then x :: written w fault routeID (n + 1) rest else []

theorem written_congr {w w' : World} {fault : Nat → Option String} {routeID : UUID}
    (same : ∀ id, (w'.backendAt id routeID).isSome = (w.backendAt id routeID).isSome) (n : Nat)
    (weights : List TrafficWeight) :
    written w' fault routeID n weights = written w fault routeID n weights := by
  induction weights generalizing n with
  | nil => rfl
  | cons x rest ih =>
    have first : writable w' fault routeID n x = writable w fault routeID n x := by
      rw [writable, writable, same]
    rw [written, written, first, ih]

def weighed (x : TrafficWeight) (w : World) : World :=
  { w with backends := w.backends.update x.backendID fun b => { b with weight := x.weight.toInt } }

theorem isSome_backendAt_weighed (x : TrafficWeight) (routeID : UUID) (w : World) (id : UUID) :
    ((weighed x w).backendAt id routeID).isSome = (w.backendAt id routeID).isSome := by
  unfold World.backendAt weighed
  dsimp only
  rw [Table.find?_update]
  split
  · cases w.backends.find? id with
    | none => rfl
    | some b =>
      rw [Option.map_some, Option.filter_some, Option.filter_some]
      by_cases here : b.routeID = routeID
      · rw [if_pos (decide_eq_true here), if_pos (decide_eq_true here)]
        rfl
      · rw [if_neg (by simpa using here), if_neg (by simpa using here)]
  · rfl

theorem updateWeight_writable {w : World} {fault : Nat → Option String} {routeID : UUID} {n : Nat}
    {x : TrafficWeight} (ok : writable w fault routeID n x = true) :
    ∃ b, updateWeight (fault n) routeID x w = (weighed x w, .ok b) := by
  obtain ⟨⟨working, found⟩, range⟩ : ((fault n).isNone = true ∧
      (w.backendAt x.backendID routeID).isSome = true) ∧
        (0 ≤ x.weight.toInt ∧ x.weight.toInt ≤ 100) := by
    simpa only [writable, Bool.and_eq_true, decide_eq_true_eq] using ok
  obtain ⟨b, here⟩ := Option.isSome_iff_exists.mp found
  refine ⟨{ b with weight := x.weight.toInt }, ?_⟩
  simp only [updateWeight, Option.isNone_iff_eq_none.mp working, World.updateTrafficBackendWeight,
    here, if_pos range]
  rfl

theorem updateWeight_unwritable {w : World} {fault : Nat → Option String} {routeID : UUID} {n : Nat}
    {x : TrafficWeight} (no : ¬ writable w fault routeID n x = true) :
    ∃ err, updateWeight (fault n) routeID x w = (w, .error err) := by
  cases broken : fault n with
  | some err => exact ⟨err, rfl⟩
  | none =>
    refine ⟨"no rows in result set", ?_⟩
    simp only [updateWeight, World.updateTrafficBackendWeight]
    cases found : w.backendAt x.backendID routeID with
    | none => rfl
    | some b =>
      have outside : ¬ (0 ≤ x.weight.toInt ∧ x.weight.toInt ≤ 100) := by
        intro range
        refine no ?_
        rw [writable, broken, found, decide_eq_true range]
        rfl
      dsimp only
      rw [if_neg outside]

/-- **What the loop does**: the pairs before the first that cannot be written are written, and
it answers without an error just if these are all. -/
theorem tryWeights_spec (fault : Nat → Option String) (routeID : UUID) (n : Nat)
    (weights : List TrafficWeight) (w : World) :
    ∃ backends : Table TrafficBackend,
      ((tryWeights fault routeID n weights).run w).1 = { w with backends := backends } ∧
        backends.rows = w.backends.rows.map (reweigh (written w fault routeID n weights)) ∧
          (((tryWeights fault routeID n weights).run w).2 = .ok () ↔
            written w fault routeID n weights = weights) := by
  induction weights generalizing w n with
  | nil =>
    refine ⟨w.backends, rfl, ?_, iff_of_true rfl rfl⟩
    exact ((List.map_congr_left fun b _ => rfl).trans (List.map_id _)).symm
  | cons x rest ih =>
    have still : w.backends.rows = w.backends.rows.map (reweigh []) :=
      ((List.map_congr_left fun b _ => rfl).trans (List.map_id _)).symm
    unfold tryWeights
    rw [Prog.run_atomic_bind, written]
    by_cases ok : writable w fault routeID n x = true
    · rw [if_pos ok]
      obtain ⟨b, updated⟩ := updateWeight_writable ok
      rw [updated]
      obtain ⟨backends, out, rows, answer⟩ := ih (n + 1) (weighed x w)
      rw [written_congr (isSome_backendAt_weighed x routeID w)] at rows answer
      refine ⟨backends, out, ?_, ?_⟩
      · rw [rows, weighed, Table.update, Table.updateWhere, List.map_map]
        refine List.map_congr_left fun b _ => ?_
        rw [reweigh_cons, Function.comp_apply]
        simp only [key_backend, decide_eq_true_eq]
      · rw [List.cons.injEq, and_iff_right rfl]
        exact answer
    · rw [if_neg ok]
      obtain ⟨err, failed⟩ := updateWeight_unwritable ok
      rw [failed]
      exact ⟨w.backends, rfl, still, iff_of_false (fun same => by cases same) fun same => by cases same⟩

/-! ## The call -/

/-- The errors of the statements of `UpdateTrafficWeights` before the sync. -/
structure WeightFaults where
  getTraffic : Option String := none
  update : Nat → Option String := fun _ => none

/-- `UpdateTrafficWeights` up to the event and the sync. -/
def beforeSync (faults : WeightFaults) (appID : UUID) (weights : List TrafficWeight) :
    Prog World (Except String TrafficRoute) := do
  match faults.getTraffic, ← getTraffic appID with
  | some err, _ => return .error err
  | none, .error err => return .error err
  | none, .ok view =>
    match view.route with
    | none => return .error "no traffic route exists yet"
    | some route =>
      match checkWeights weights with
      | .error err => return .error err
      | .ok () =>
        match ← tryWeights faults.update route.id 0 weights with
        | .error err => return .error err
        | .ok () => return .ok route

/-- What the call writes, if it writes: the pairs written to the app's route. -/
theorem beforeSync_cases (faults : WeightFaults) (appID : UUID) (weights : List TrafficWeight)
    (w : World) :
    (((beforeSync faults appID weights).run w).1 = w ∧
        (∃ err, ((beforeSync faults appID weights).run w).2 = .error err) ∧
        ∀ view route, faults.getTraffic = none → trafficAt w appID = .ok view →
          view.route = some route → checkWeights weights ≠ .ok ()) ∨
      ∃ view route, faults.getTraffic = none ∧ trafficAt w appID = .ok view ∧
        view.route = some route ∧ checkWeights weights = .ok () ∧
        ((beforeSync faults appID weights).run w).1 =
          ((tryWeights faults.update route.id 0 weights).run w).1 ∧
        ((∃ err, ((beforeSync faults appID weights).run w).2 = .error err) ↔
          ((tryWeights faults.update route.id 0 weights).run w).2 ≠ .ok ()) := by
  unfold beforeSync
  rw [Prog.run_bind, getTraffic_run]
  dsimp only
  cases broken : faults.getTraffic with
  | some err => exact .inl ⟨rfl, ⟨err, rfl⟩, nofun⟩
  | none =>
    cases read : trafficAt w appID with
    | error err => exact .inl ⟨rfl, ⟨err, rfl⟩, fun _ _ _ => nofun⟩
    | ok view =>
      dsimp only
      cases routed : view.route with
      | none =>
        refine .inl ⟨rfl, ⟨_, rfl⟩, fun view' route _ same there => ?_⟩
        cases same
        rw [routed] at there
        cases there
      | some route =>
        cases checked : checkWeights weights with
        | error err => exact .inl ⟨rfl, ⟨err, rfl⟩, fun _ _ _ _ _ => nofun⟩
        | ok _ =>
          refine .inr ⟨view, route, rfl, rfl, routed, rfl, ?_⟩
          dsimp only
          rw [Prog.run_bind]
          cases answer : ((tryWeights faults.update route.id 0 weights).run w).2 with
          | error err => exact ⟨rfl, iff_of_true ⟨err, rfl⟩ nofun⟩
          | ok _ => exact ⟨rfl, iff_of_false nofun fun other => other rfl⟩

/-! ## When the stored weights add up -/

theorem backendAt_of_written {w : World} {fault : Nat → Option String} {routeID : UUID} {n : Nat}
    {weights : List TrafficWeight} (all : written w fault routeID n weights = weights) :
    ∀ x ∈ weights, (w.backendAt x.backendID routeID).isSome := by
  induction weights generalizing n with
  | nil => exact fun x mem => nomatch mem
  | cons y rest ih =>
    rw [written] at all
    by_cases ok : writable w fault routeID n y = true
    · rw [if_pos ok, List.cons.injEq, and_iff_right rfl] at all
      intro x mem
      rcases List.mem_cons.mp mem with rfl | later
      · simp only [writable, Bool.and_eq_true] at ok
        exact ok.1.2
      · exact ih all x later
    · rw [if_neg ok] at all
      cases all

/-- A loop without an error has written every pair to a backend of the route. -/
theorem writeWeights_rows {routeID : UUID} {weights : List TrafficWeight} {w : World}
    (ok : ((writeWeights routeID weights).run w).2 = .ok ()) :
    ∃ backends : Table TrafficBackend,
      ((writeWeights routeID weights).run w).1 = { w with backends := backends } ∧
        backends.rows = w.backends.rows.map (reweigh weights) ∧
        ∀ x ∈ weights, ∃ b ∈ w.backends.rows, b.routeID = routeID ∧ b.id = x.backendID := by
  obtain ⟨same, agree⟩ := tryWeights_working routeID 0 weights w
  obtain ⟨backends, out, rows, answer⟩ := tryWeights_spec (fun _ => none) routeID 0 weights w
  have all : written w (fun _ => none) routeID 0 weights = weights := by
    refine answer.mp ?_
    rw [ok] at agree
    cases result : ((tryWeights (fun _ => none) routeID 0 weights).run w).2 with
    | error err =>
      rw [result] at agree
      cases agree
    | ok _ => rfl
  refine ⟨backends, same.symm.trans out, all ▸ rows, fun x mem => ?_⟩
  obtain ⟨b, found⟩ := Option.isSome_iff_exists.mp (backendAt_of_written all x mem)
  obtain ⟨here, own⟩ := Option.filter_eq_some_iff.mp found
  exact ⟨b, Table.mem_of_find? here, of_decide_eq_true own, Table.key_of_find? here⟩

/-- The last weight the list gives a backend is one it lists for it. -/
theorem mem_of_given {id : UUID} {weight : Int32} {weights : List TrafficWeight}
    (mentioned : given id weights = some weight) : ⟨id, weight⟩ ∈ weights := by
  induction weights with
  | nil => cases mentioned
  | cons x rest ih =>
    rw [given] at mentioned
    cases later : given id rest with
    | some weight' =>
      rw [later, Option.some_or] at mentioned
      exact List.mem_cons_of_mem _ (ih (later.trans mentioned))
    | none =>
      rw [later, Option.none_or] at mentioned
      by_cases here : x.backendID = id
      · rw [if_pos here] at mentioned
        cases mentioned
        rw [← here]
        exact List.mem_cons_self
      · rw [if_neg here] at mentioned
        cases mentioned

theorem given_isSome {x : TrafficWeight} {weights : List TrafficWeight} (mem : x ∈ weights) :
    (given x.backendID weights).isSome := by
  induction weights with
  | nil => cases mem
  | cons y rest ih =>
    rw [given]
    rcases List.mem_cons.mp mem with rfl | later
    · rw [if_pos rfl]
      cases given x.backendID rest <;> rfl
    · obtain ⟨weight, found⟩ := Option.isSome_iff_exists.mp (ih later)
      rw [found]
      rfl

/-- **When a written list adds up.** -/
theorem addsUp_iff_balanced {w w' : World} {route : TrafficRoute} {weights : List TrafficWeight}
    (rows : w'.backends.rows = w.backends.rows.map (reweigh weights))
    (known : ∀ x ∈ weights, ∃ b ∈ w.backends.rows, b.routeID = route.id ∧ b.id = x.backendID) :
    AddsUp w' route weights ↔ Balanced w route weights := by
  have on : backendsOn w' route = (backendsOn w route).map (reweigh weights) := by
    rw [backendsOn, rows, List.filter_map]
    rfl
  have distinct : ((backendsOn w route).map TrafficBackend.id).Nodup :=
    w.backends.unique.sublist (List.filter_sublist.map TrafficBackend.id)
  have named : ∀ x ∈ weights, ∃ b ∈ backendsOn w route, b.id = x.backendID := fun x mem => by
    obtain ⟨b, there, here, own⟩ := known x mem
    exact ⟨b, List.mem_filter.mpr ⟨there, decide_eq_true here⟩, own⟩
  have counted := sum_reweigh distinct named
  have total : ((backendsOn w' route).map TrafficBackend.weight).sum + repeatedSum weights =
      leftOut w route weights + listedSum weights := by
    rw [on, List.map_map]
    exact counted
  constructor
  · rintro ⟨sum, listed⟩
    refine ⟨fun x memX y memY same => ?_, by omega⟩
    obtain ⟨b, here, own, weight⟩ := listed x memX
    obtain ⟨b', here', own', weight'⟩ := listed y memY
    obtain rfl : b = b' :=
      Table.eq_of_key_eq here.1 here'.1 (own.trans (same.trans own'.symm))
    exact Int32.toInt_inj.mp (weight.symm.trans weight')
  · rintro ⟨once, left⟩
    refine ⟨by omega, fun x mem => ?_⟩
    obtain ⟨b, there, here, own⟩ := known x mem
    obtain ⟨weight, mentioned⟩ := Option.isSome_iff_exists.mp (given_isSome mem)
    refine ⟨reweigh weights b, ⟨?_, here⟩, own, ?_⟩
    · change reweigh weights b ∈ w'.backends.rows
      rw [rows]
      exact List.mem_map_of_mem there
    · rw [← own] at mentioned
      rw [reweigh_given mentioned, once x mem _ (mem_of_given mentioned) own.symm]

theorem applyWeights_backends {appID : UUID} {route : TrafficRoute} {weights : List TrafficWeight}
    {actorType : String} {w : World} (ok : ((writeWeights route.id weights).run w).2 = .ok ()) :
    ((applyWeights appID route weights actorType).run w).1.backends =
      ((writeWeights route.id weights).run w).1.backends := by
  have synced : ∀ v : World, ((syncTrafficRoute route.id).run v).1.backends = v.backends := by
    have quiet := syncTrafficRoute_every (P := fun effect => ∀ v, (effect v).backends = v.backends)
      (fun v => rfl) (fun agentID msg v => sendToAgent_frame World.backends agentID msg
        (fun _ _ => rfl) v) route.id
    exact quiet.run_unchanged World.backends
  unfold applyWeights
  rw [Prog.run_bind, ok]
  dsimp only
  rw [Prog.run_exec_bind, Prog.run_bind]
  generalize known : World.createTrafficEvent ((writeWeights route.id weights).run w).1 _ = v
  have same : v.backends = ((writeWeights route.id weights).run w).1.backends := by
    rw [← known]
    rfl
  cases answer : ((syncTrafficRoute route.id).run v).2 with
  | error err => exact (synced v).trans same
  | ok _ =>
    dsimp only
    rw [getTraffic_run]
    exact (synced v).trans same

/-- **When an accepted list adds up**: if each backend has one weight in it, and the weights of
the backends it leaves out make up for what it counts twice. -/
theorem adds_up_iff (w : World) (appID : UUID) (weights : List TrafficWeight) (actorType : String)
    (view : TrafficView)
    (accepted : ((updateTrafficWeights appID weights actorType).run w).2 = .ok view) :
    ∃ app route, w.getApp appID = some app ∧ routeOf w app = some route ∧
      (AddsUp ((updateTrafficWeights appID weights actorType).run w).1 route weights ↔
        Balanced w route weights) := by
  unfold updateTrafficWeights at accepted ⊢
  rw [Prog.run_bind, getTraffic_run] at accepted ⊢
  cases read : trafficAt w appID with
  | error err =>
    rw [read] at accepted
    cases accepted
  | ok current =>
    rw [read] at accepted
    dsimp only at accepted ⊢
    cases routed : current.route with
    | none =>
      rw [routed] at accepted
      cases accepted
    | some route =>
      rw [routed] at accepted
      dsimp only at accepted ⊢
      cases checked : checkWeights weights with
      | error err =>
        rw [checked] at accepted
        cases accepted
      | ok _ =>
        rw [checked] at accepted
        dsimp only at accepted ⊢
        obtain ⟨app, found, ofApp, -⟩ := trafficAt_eq_ok read routed
        have ok : ((writeWeights route.id weights).run w).2 = .ok () := by
          unfold applyWeights at accepted
          rw [Prog.run_bind] at accepted
          cases answer : ((writeWeights route.id weights).run w).2 with
          | error err =>
            rw [answer] at accepted
            cases accepted
          | ok _ => rfl
        obtain ⟨backends, out, rows, known⟩ := writeWeights_rows ok
        refine ⟨app, route, found, ofApp, addsUp_iff_balanced ?_ known⟩
        rw [applyWeights_backends ok, out]
        exact rows

/-! ## When a call that fails leaves the weights alone -/

/-- No backend of any route has another weight. -/
def Unchanged (w w' : World) : Prop :=
  ∀ id, (w'.backends.find? id).map TrafficBackend.weight =
    (w.backends.find? id).map TrafficBackend.weight

/-- Should the call come to write: it can write every pair, or the pairs before the first that
cannot be written give every backend the weight it has. -/
def Harmless (w : World) (faults : WeightFaults) (appID : UUID) (weights : List TrafficWeight) :
    Prop :=
  ∀ view route, faults.getTraffic = none → trafficAt w appID = .ok view →
    view.route = some route → checkWeights weights = .ok () →
      written w faults.update route.id 0 weights = weights ∨
        ∀ b ∈ w.backends.rows, ∀ weight ∈ given b.id (written w faults.update route.id 0 weights),
          weight.toInt = b.weight

theorem find?_reweigh {t t' : Table TrafficBackend} {weights : List TrafficWeight}
    (rows : t'.rows = t.rows.map (reweigh weights)) (id : UUID) :
    t'.find? id = (t.find? id).map (reweigh weights) := by
  unfold Table.find?
  rw [rows, List.find?_map]
  rfl

theorem unchanged_of_rows {w w' : World} {weights : List TrafficWeight}
    (rows : w'.backends.rows = w.backends.rows.map (reweigh weights)) :
    Unchanged w w' ↔
      ∀ b ∈ w.backends.rows, ∀ weight ∈ given b.id weights, weight.toInt = b.weight := by
  have find := find?_reweigh rows
  constructor
  · intro same b mem weight mentioned
    have here := same b.id
    rw [find, show w.backends.find? b.id = some b from Table.find?_self mem] at here
    exact (reweigh_given mentioned).symm.trans (Option.some.inj here)
  · intro equal id
    rw [find]
    cases found : w.backends.find? id with
    | none => rfl
    | some b =>
      rw [Option.map_some, Option.map_some, Option.map_some]
      cases mentioned : given b.id weights with
      | none => rw [reweigh_unmentioned mentioned]
      | some weight =>
        rw [reweigh_given mentioned, equal b (Table.mem_of_find? found) weight mentioned]

/-- The call answers with an error before the sync. -/
def FailsEarly (w : World) (faults : WeightFaults) (appID : UUID) (weights : List TrafficWeight) :
    Prop :=
  ∃ err, ((beforeSync faults appID weights).run w).2 = .error err

/-- **When a call that fails before the sync leaves every weight as it was.** -/
theorem unchanged_iff (w : World) (faults : WeightFaults) (appID : UUID)
    (weights : List TrafficWeight) :
    (FailsEarly w faults appID weights →
        Unchanged w ((beforeSync faults appID weights).run w).1) ↔
      Harmless w faults appID weights := by
  obtain ⟨same, -, refused⟩ | ⟨view, route, working, read, routed, checked, out, answer⟩ :=
    beforeSync_cases faults appID weights w
  · rw [same]
    exact iff_of_true (fun _ _ => rfl) fun view route working read routed checked =>
      absurd checked (refused view route working read routed)
  · obtain ⟨backends, left, rows, complete⟩ := tryWeights_spec faults.update route.id 0 weights w
    have fails : FailsEarly w faults appID weights ↔
        written w faults.update route.id 0 weights ≠ weights := by
      exact answer.trans (not_congr complete)
    rw [out, left, fails, @unchanged_of_rows w { w with backends := backends } _ rows]
    constructor
    · intro equal view' route' _ read' routed' _
      cases read.symm.trans read'
      cases routed.symm.trans routed'
      exact or_iff_not_imp_left.mpr equal
    · exact fun harmless =>
        or_iff_not_imp_left.mp (harmless view route working read routed checked)

/-! ### A list that leaves out the serving backend, and one with an unknown id -/

/-- Backend 61 is given everything, and 62 keeps its hundred. -/
theorem partial_list_adds_up_not :
    (((updateTrafficWeights 20 [⟨61, 100⟩] "user").run afterPromotion).2.toBool = true) ∧
      ¬ AddsUp ((updateTrafficWeights 20 [⟨61, 100⟩] "user").run afterPromotion).1
        afterPromotionRoute [⟨61, 100⟩] := by
  refine ⟨by decide +kernel, fun adds => ?_⟩
  have sum : ((backendsOn ((updateTrafficWeights 20 [⟨61, 100⟩] "user").run afterPromotion).1
      afterPromotionRoute).map TrafficBackend.weight).sum = 200 := by
    decide +kernel
  exact absurd (sum.symm.trans adds.total) (by decide)

theorem full_list_adds_up :
    AddsUp ((updateTrafficWeights 20 [⟨61, 30⟩, ⟨62, 70⟩] "user").run afterPromotion).1
      afterPromotionRoute [⟨61, 30⟩, ⟨62, 70⟩] := by
  obtain ⟨view, accepted⟩ : ∃ view,
      ((updateTrafficWeights 20 [⟨61, 30⟩, ⟨62, 70⟩] "user").run afterPromotion).2 = .ok view := by
    have fine : ((updateTrafficWeights 20 [⟨61, 30⟩, ⟨62, 70⟩] "user").run
        afterPromotion).2.toBool = true := by decide +kernel
    cases answer : ((updateTrafficWeights 20 [⟨61, 30⟩, ⟨62, 70⟩] "user").run afterPromotion).2 with
    | error err =>
      rw [answer] at fine
      cases fine
    | ok view => exact ⟨view, rfl⟩
  obtain ⟨app, route, found, routed, iff⟩ := adds_up_iff afterPromotion 20 [⟨61, 30⟩, ⟨62, 70⟩]
    "user" view accepted
  obtain rfl : afterPromotionApp = app := Option.some.inj (afterPromotion_app.symm.trans found)
  obtain rfl : afterPromotionRoute = route := Option.some.inj (afterPromotion_route.symm.trans routed)
  refine iff.mpr ⟨?_, by decide +kernel⟩
  decide +kernel

/-- The first pair is written before the second is found to name no backend. -/
theorem unknown_backend_changes :
    FailsEarly afterPromotion {} 20 [⟨61, 100⟩, ⟨99, 0⟩] ∧
      ¬ Unchanged afterPromotion ((beforeSync {} 20 [⟨61, 100⟩, ⟨99, 0⟩]).run afterPromotion).1 := by
  refine ⟨⟨"update backend weight: no rows in result set", by decide +kernel⟩, fun same => ?_⟩
  have before : (afterPromotion.backends.find? 61).map TrafficBackend.weight = some 0 := by
    decide +kernel
  have after : (((beforeSync {} 20 [⟨61, 100⟩, ⟨99, 0⟩]).run afterPromotion).1.backends.find?
      61).map TrafficBackend.weight = some 100 := by
    decide +kernel
  rw [same 61, before] at after
  cases after

end Nixway.Deploy
