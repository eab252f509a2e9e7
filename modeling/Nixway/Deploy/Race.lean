/-
# Deploy.Race -- the two halves of AllocateServerPort

`Deploy.Dispatch` takes a host port in one step.  The statement first reads its snapshot,
the lowest port without a live row, and then inserts a row for it.  Under READ COMMITTED
what other statements commit in between is no part of the snapshot, but the partial unique
index refuses a second live row.  Here the two halves are steps of their own; with nothing
between them they are the one step (`halves_allocate`).

The comment on the query says that the caller can retry.  `dispatchDeploy` does not: an
error of the statement fails its target.  So every run gets a port exactly as long as no
run takes its snapshot while another one on the server is between its two halves
(`ports_obtained_iff`), however many ports are free.
-/
import Nixway.Deploy.Settle

namespace Nixway.Store.World

open Nixway.Theory

set_option autoImplicit false

/-! ## The two halves -/

/-- The snapshot: the lowest port without a live row. -/
def nextPort (w : World) (serverID : UUID) : Option Int :=
  portRange.find? fun port => !w.portTaken serverID port

/-- The INSERT for what the snapshot found. -/
def insertPort (w : World) (serverID targetID : UUID) : Option Int → World × Except String Int
  | none => (w, .error "no rows in result set")
  | some port =>
    if w.portTaken serverID port then
      (w, .error ("ERROR: duplicate key value violates unique constraint " ++
        "\"idx_server_port_allocations_live\" (SQLSTATE 23505)"))
    else ({ w with ports := ⟨serverID, port, some targetID, none⟩ :: w.ports }, .ok port)

/-- The unallocated ports of the server. -/
def freePorts (w : World) (serverID : UUID) : Nat :=
  portRange.countP fun port => !w.portTaken serverID port

/-- The live row for the port is the target's. -/
def Reserved (w : World) (serverID targetID : UUID) (port : Int) : Prop :=
  (⟨serverID, port, some targetID, none⟩ : ServerPortAllocation) ∈ w.ports

variable {w w' : World} {serverID targetID : UUID} {port : Int}

/-- **With nothing in between the two halves are the statement.** -/
theorem halves_allocate (w : World) (serverID targetID : UUID) :
    w.allocateServerPort serverID targetID =
      ((w.insertPort serverID targetID (w.nextPort serverID)).1,
        (w.insertPort serverID targetID (w.nextPort serverID)).2.toOption) := by
  unfold allocateServerPort nextPort
  split
  · next port found =>
    have free : w.portTaken serverID port = false := by simpa using List.find?_some found
    simp [insertPort, free, Except.toOption, found]
  · next full => simp [insertPort, Except.toOption, full]

theorem portTaken_congr (same : w'.ports = w.ports) (serverID : UUID) :
    w'.portTaken serverID = w.portTaken serverID := by
  funext port
  rw [portTaken, portTaken, same]

theorem freePorts_congr (same : w'.ports = w.ports) (serverID : UUID) :
    w'.freePorts serverID = w.freePorts serverID := by
  rw [freePorts, freePorts, portTaken_congr same]

theorem nextPort_congr (same : w'.ports = w.ports) (serverID : UUID) :
    w'.nextPort serverID = w.nextPort serverID := by
  rw [nextPort, nextPort, portTaken_congr same]

theorem nextPort_other {serverID : UUID} (same : w'.portTaken serverID = w.portTaken serverID) :
    w.nextPort serverID = w'.nextPort serverID := by
  rw [nextPort, nextPort, same]

theorem Reserved.taken (reserved : w.Reserved serverID targetID port) :
    w.portTaken serverID port = true :=
  List.any_eq_true.mpr ⟨_, reserved, by simp⟩

theorem portTaken_insert (same : w'.ports = ⟨serverID, port, some targetID, none⟩ :: w.ports)
    (other : UUID) (n : Int) :
    w'.portTaken other n = (decide (serverID = other ∧ port = n) || w.portTaken other n) := by
  simp [portTaken, same]

theorem nextPort_free (found : w.nextPort serverID = some port) :
    w.portTaken serverID port = false := by
  simpa using List.find?_some found

theorem exists_nextPort (room : 0 < w.freePorts serverID) :
    ∃ port, w.nextPort serverID = some port := by
  rw [freePorts, List.countP_pos_iff] at room
  rw [← Option.isSome_iff_exists, nextPort, List.find?_isSome]
  exact room

theorem portRange_nodup : portRange.Nodup := by
  have upTo (count : Nat) : ((List.range count).map fun n => 30000 + (n : Int)).Nodup := by
    refine List.Nodup.map (fun a b same => by simpa using same) ?_
    change ((List.range count).flatMap fun n : Nat => [(n : Int)]).Nodup
    rw [← List.map_eq_flatMap]
    exact List.nodup_range.map fun a b => Int.ofNat.inj
  exact upTo 2768

theorem freePorts_insert (same : w'.ports = ⟨serverID, port, some targetID, none⟩ :: w.ports)
    (other : UUID) :
    w.freePorts other ≤ w'.freePorts other + (decide (serverID = other)).toNat := by
  by_cases here : serverID = other
  · subst here
    have once : portRange.countP (· == port) ≤ 1 := by
      rw [← List.count_eq_countP]
      exact List.nodup_iff_count_le_one.mp portRange_nodup port
    have split : w.freePorts serverID ≤
        w'.freePorts serverID + portRange.countP (· == port) := by
      unfold freePorts
      generalize portRange = ports
      induction ports with
      | nil => simp
      | cons n ports ih =>
        simp only [List.countP_cons, portTaken_insert same] at ih ⊢
        grind -ring -linarith
    simpa using split.trans (Nat.add_le_add_left once _)
  · have unchanged : w'.portTaken other = w.portTaken other := by
      funext n
      simp [portTaken_insert same, here]
    rw [freePorts, freePorts, unchanged]
    exact Nat.le_add_right _ _

end Nixway.Store.World

namespace Nixway.Deploy

open Nixway.Theory Nixway.Store

set_option autoImplicit false

/-! ## Runs of dispatchDeploy -/

/-- The control points of a run: up to its snapshot, between its snapshot and its INSERT,
and behind the INSERT with the port it got. -/
inductive Allocating where
  | early (point : Dispatch)
  | insert (platform : String) (snapshot : Option Int)
  | late (port : Option Int) (point : Dispatch)

namespace Allocating

def act (dns : DnsConfig) (job : Job) : Allocating → Option ((World → World) × (World → Allocating))
  | .early (.allocate platform) =>
    some (id, fun w => .insert platform (w.nextPort job.member.serverID))
  | .early point => (point.act dns job).map fun move => (move.1, fun w => .early (move.2 w))
  | .insert platform snapshot =>
    some (fun w => (w.insertPort job.member.serverID job.target.id snapshot).1, fun w =>
      match (w.insertPort job.member.serverID job.target.id snapshot).2 with
      | .ok port => .late (some port) (.bind platform port)
      | .error err => .late none (.fail ("allocate host port: " ++ err)))
  | .late port point => (point.act dns job).map fun move => (move.1, fun w => .late port (move.2 w))

/-- The next step is the snapshot. -/
def snapshots : Allocating → Bool
  | .early (.allocate _) => true
  | _ => false

/-- The run is between its snapshot and its INSERT. -/
def inserting : Allocating → Bool
  | .insert _ _ => true
  | _ => false

/-- The run has not got its port yet. -/
def waits : Allocating → Bool
  | .late _ _ => false
  | _ => true

def port : Allocating → Option Int
  | .late port _ => port
  | _ => none

end Allocating

/-- The runs beside each other; a run keeps its arguments. -/
def raceFlow (dns : DnsConfig) : Flow World (Job × Allocating) := .indexed fun job => ⟨Allocating.act dns job⟩

def race (dns : DnsConfig) (w : World) (jobs : List Job) (schedule : List Nat) :
    World × List (Job × Allocating) :=
  (raceFlow dns).run (fun _ _ => []) (w, jobs.map fun job => (job, .early .online)) schedule

/-! ## The property -/

/-- The target's error is that of a failed allocation. -/
def PortFailed (w : World) (targetID : UUID) : Prop :=
  ∃ t ∈ w.targets, t.id = targetID ∧ ∃ err, t.error = some ("allocate host port: " ++ err)

/-- The server and the port of a run that has one. -/
def heldPort (run : Job × Allocating) : Option (UUID × Int) :=
  run.2.port.map fun port => (run.1.member.serverID, port)

/-- No run has left its allocation without a port; the ports are reserved for the targets and
distinct on each server; and no target has failed for want of one since `w₀`. -/
structure Obtains (w₀ : World) (c : World × List (Job × Allocating)) : Prop where
  obtained : ∀ job point, (job, .late none point) ∉ c.2
  reserved : ∀ run ∈ c.2, ∀ port ∈ run.2.port,
    c.1.Reserved run.1.member.serverID run.1.target.id port
  distinct : (c.2.filterMap heldPort).Nodup
  blameless : ∀ targetID, PortFailed c.1 targetID → PortFailed w₀ targetID

/-- A run that takes its snapshot finds no other run on its server between its snapshot and
its INSERT. -/
def Apart (c : World × List (Job × Allocating)) (i : Nat) : Prop :=
  ∀ run ∈ c.2[i]?, run.2.snapshots = true → ∀ other ∈ c.2,
    other.1.member.serverID = run.1.member.serverID → other.2.inserting = false

instance (c : World × List (Job × Allocating)) (i : Nat) : Decidable (Apart c i) :=
  inferInstanceAs (Decidable (∀ run ∈ c.2[i]?, run.2.snapshots = true → ∀ other ∈ c.2,
    other.1.member.serverID = run.1.member.serverID → other.2.inserting = false))

/-- The snapshots of the schedule are taken apart. -/
def RunsApart (dns : DnsConfig) (w : World) (jobs : List Job) (schedule : List Nat) : Prop :=
  (raceFlow dns).Along (fun _ _ => []) Apart (w, jobs.map fun job => (job, .early .online)) schedule

def Ended (dns : DnsConfig) (c : World × List (Job × Allocating)) : Prop :=
  ∀ run ∈ c.2, run.2.act dns run.1 = none

/-! ## The steps around the allocation -/

/-- The point does not fail the target for want of a port. -/
def Dispatch.Blameless : Dispatch → Prop
  | .fail msg => ∀ err, msg ≠ "allocate host port: " ++ err
  | _ => True

theorem Dispatch.blameless_afterEnv (job : Job) (entries : EnvMap) (platform : String)
    (edgeEnabled : Bool) : (afterEnv job entries platform edgeEnabled).Blameless := by
  unfold afterEnv
  split
  · trivial
  · split <;> trivial

theorem ne_allocate_message {msg : String}
    (other : ¬ "allocate host port: ".toList <+: msg.toList) (err : String) :
    msg ≠ "allocate host port: " ++ err := by
  rintro rfl
  rw [String.toList_append] at other
  exact other (List.prefix_append _ _)

section Steps

variable {dns : DnsConfig} {job : Job} {point : Dispatch} {effect : World → World}
  {next : World → Dispatch}

/-- Only the allocation writes ports, and only it blames them. -/
theorem Dispatch.apart (edge : point.act dns job = some (effect, next))
    (other : ∀ platform, point ≠ .allocate platform) (w : World) :
    (effect w).ports = w.ports ∧ (next w).Blameless := by
  cases point with
  | allocate platform => exact absurd rfl (other platform)
  | online =>
    cases edge
    refine ⟨rfl, ?_⟩
    beta_reduce
    split
    · trivial
    · exact ne_allocate_message (by decide +kernel)
  | domain platform edgeEnabled => cases edge; exact ⟨rfl, blameless_afterEnv _ _ _ _⟩
  | assign entry rest platform edgeEnabled => cases edge; exact ⟨rfl, blameless_afterEnv _ _ _ _⟩
  | send platform labels =>
    cases edge
    beta_reduce
    refine ⟨?_, ?_⟩
    · obtain ⟨err, failed⟩ | sent := sendToAgent_cases job.member.serverID.text
        (message job platform labels w) w
      · rw [failed]
      · rw [sent]
    · split
      · trivial
      · refine ne_allocate_message fun begins => ?_
        rw [String.toList_append] at begins
        exact absurd (List.cons_prefix_cons.mp begins).1 (by decide)
  | fail msg =>
    cases edge
    refine ⟨?_, trivial⟩
    unfold World.updateDeploymentTargetStatus
    split <;> rfl
  | halt => cases edge
  | _ => cases edge; exact ⟨rfl, trivial⟩

/-- An UPDATE that writes no row the error of a failed allocation. -/
theorem PortFailed.of_update {w w' : World} {id targetID : UUID}
    {f : DeploymentTarget → DeploymentTarget} (keeps : ∀ t, (f t).id = t.id)
    (targets : w'.targets = w.targets.update id f keeps)
    (written : ∀ t, (f t).error = t.error ∨
      ∀ err, (f t).error ≠ some ("allocate host port: " ++ err))
    (failed : PortFailed w' targetID) : PortFailed w targetID := by
  obtain ⟨t, member, named, err, blamed⟩ := failed
  rw [targets] at member
  obtain ⟨old, stored, rfl⟩ := (Table.mem_update keeps).mp member
  split at blamed
  · next updated =>
    rw [if_pos updated, keeps] at named
    obtain same | other := written old
    · exact ⟨old, stored, named, err, same.symm.trans blamed⟩
    · exact absurd blamed (other err)
  · next updated =>
    rw [if_neg updated] at named
    exact ⟨old, stored, named, err, blamed⟩

theorem Dispatch.portFailed (edge : point.act dns job = some (effect, next))
    (blameless : point.Blameless) {w : World} {targetID : UUID}
    (failed : PortFailed (effect w) targetID) : PortFailed w targetID := by
  have unwritten (same : (effect w).targets = w.targets) : PortFailed w targetID := by
    rwa [PortFailed, ← same]
  cases point with
  | allocate platform =>
    simp only [act, Option.some.injEq, Prod.mk.injEq] at edge
    obtain ⟨rfl, rfl⟩ := edge
    refine unwritten ?_
    beta_reduce
    obtain full | ⟨port, allocated⟩ := w.allocateServerPort_cases job.member.serverID job.target.id
    · rw [full]
    · rw [allocated]
  | bind platform port =>
    cases edge
    refine failed.of_update ?keeps rfl ?written
    case keeps => exact fun _ => rfl
    case written => exact fun t => .inl rfl
  | send platform labels =>
    cases edge
    refine unwritten ?_
    beta_reduce
    obtain ⟨err, refused⟩ | sent := sendToAgent_cases job.member.serverID.text
      (message job platform labels w) w
    · rw [refused]
    · rw [sent]
  | fail msg =>
    cases edge
    refine failed.of_update ?keeps rfl ?written
    case keeps => exact fun _ => rfl
    case written => exact fun t => .inr fun err same => blameless err (Option.some.inj same)
  | halt => cases edge
  | _ => cases edge; exact unwritten rfl

/-- Behind the allocation no point leads back to it. -/
theorem Dispatch.stays_behind (edge : point.act dns job = some (effect, next))
    (behind : point.awaits = false) (w : World) : (next w).awaits = false := by
  cases point with
  | bind platform port => cases edge; rfl
  | send platform labels =>
    cases edge
    beta_reduce
    split <;> rfl
  | fail msg => cases edge; rfl
  | halt => cases edge
  | _ => cases behind

end Steps

namespace Allocating

/-- Behind the INSERT nothing allocates, and a run that has a port, or none yet, blames no
allocation. -/
def Sound : Allocating → Prop
  | .early point => point.Blameless
  | .insert _ _ => True
  | .late port point => point.awaits = false ∧ (port.isSome = true → point.Blameless)

/-- A step off the allocation. -/
structure Aside (w w' : World) (k k' : Allocating) : Prop where
  ports : w'.ports = w.ports
  waits : k'.waits = k.waits
  port : k'.port = k.port
  before : k.inserting = false
  after : k'.inserting = false
  sound : k'.Sound
  blame : k.waits = true ∨ k.port.isSome = true →
    ∀ targetID, PortFailed w' targetID → PortFailed w targetID

/-- What one step of a run does. -/
inductive Moves (job : Job) (w : World) : Allocating → World → Allocating → Prop where
  | aside {k k' : Allocating} {w' : World} :
      k.snapshots = false → Aside w w' k k' → Moves job w k w' k'
  | snapshot (platform : String) :
      Moves job w (.early (.allocate platform)) w
        (.insert platform (w.nextPort job.member.serverID))
  | refused {platform : String} {snapshot : Option Int} (err : String) :
      (∀ port ∈ snapshot, w.portTaken job.member.serverID port = true) →
      Moves job w (.insert platform snapshot) w
        (.late none (.fail ("allocate host port: " ++ err)))
  | inserted {platform : String} {port : Int} {w' : World} :
      w.portTaken job.member.serverID port = false →
      w'.ports = ⟨job.member.serverID, port, some job.target.id, none⟩ :: w.ports →
      w'.targets = w.targets →
      Moves job w (.insert platform (some port)) w' (.late (some port) (.bind platform port))

theorem moves_of_dispatch {dns : DnsConfig} {job : Job} {point : Dispatch}
    {effect : World → World} {next : World → Dispatch} (wrap : Dispatch → Allocating)
    (edge : point.act dns job = some (effect, next))
    (other : ∀ platform, point ≠ .allocate platform) (blameless : ∀ w targetID,
      (wrap point).waits = true ∨ (wrap point).port.isSome = true →
        PortFailed (effect w) targetID → PortFailed w targetID)
    (waits : ∀ p, (wrap p).waits = (wrap point).waits)
    (port : ∀ p, (wrap p).port = (wrap point).port)
    (inserting : ∀ p, (wrap p).inserting = false) (snapshots : (wrap point).snapshots = false)
    (sound : ∀ w, (next w).Blameless → (wrap (next w)).Sound) (w : World) :
    Moves job w (wrap point) (effect w) (wrap (next w)) := by
  obtain ⟨ports, later⟩ := Dispatch.apart edge other w
  exact .aside snapshots
    { ports, waits := waits _, port := port _, before := inserting _, after := inserting _
      sound := sound w later, blame := fun able targetID => blameless w targetID able }

theorem moves {dns : DnsConfig} {job : Job} {k : Allocating} {effect : World → World}
    {next : World → Allocating} (edge : k.act dns job = some (effect, next)) (sound : k.Sound)
    (w : World) : Moves job w k (effect w) (next w) := by
  cases k with
  | early point =>
    by_cases allocates : ∃ platform, point = .allocate platform
    · obtain ⟨platform, rfl⟩ := allocates
      cases edge
      exact .snapshot platform
    · have other : ∀ platform, point ≠ .allocate platform := fun platform same =>
        allocates ⟨platform, same⟩
      have plain : (Allocating.early point).act dns job = (point.act dns job).map fun move =>
          (move.1, fun w => .early (move.2 w)) := by
        cases point with
        | allocate platform => exact absurd rfl (other platform)
        | _ => rfl
      obtain ⟨⟨effect', next'⟩, edge', same⟩ := Option.map_eq_some_iff.mp (plain.symm.trans edge)
      cases same
      refine moves_of_dispatch .early edge' other (fun w _ _ => Dispatch.portFailed edge' sound)
        (fun _ => rfl) (fun _ => rfl) (fun _ => rfl) ?_ (fun _ later => later) w
      cases point with
      | allocate platform => exact absurd rfl (other platform)
      | _ => rfl
  | insert platform snapshot =>
    cases edge
    cases snapshot with
    | none => exact .refused "no rows in result set" fun _ mem => nomatch mem
    | some port =>
      by_cases taken : w.portTaken job.member.serverID port = true
      · simp only [World.insertPort, if_pos taken]
        exact .refused _ fun n mem => by rwa [← Option.some.inj mem]
      · simp only [World.insertPort, if_neg taken]
        exact .inserted (Bool.eq_false_iff.mpr taken) rfl rfl
  | late port point =>
    obtain ⟨⟨effect', next'⟩, edge', same⟩ := Option.map_eq_some_iff.mp edge
    cases same
    obtain ⟨behind, blameless⟩ := sound
    have other : ∀ platform, point ≠ .allocate platform := by
      rintro platform rfl
      cases behind
    refine moves_of_dispatch (.late port) edge' other ?_ (fun _ => rfl) (fun _ => rfl)
      (fun _ => rfl) rfl (fun w later => ⟨Dispatch.stays_behind edge' behind w, fun _ => later⟩) w
    intro w targetID able
    exact Dispatch.portFailed edge' (blameless (able.resolve_left Bool.false_ne_true))

end Allocating

/-! ## Snapshots taken apart -/

/-- The server of a run between its snapshot and its INSERT. -/
def insertServer (run : Job × Allocating) : Option UUID :=
  if run.2.inserting then some run.1.member.serverID else none

/-- The runs on the server that have not got their port yet. -/
def waiting (runs : List (Job × Allocating)) (serverID : UUID) : Nat :=
  runs.countP fun run => decide (run.1.member.serverID = serverID) && run.2.waits

/-- What snapshots taken apart keep: on each server at most one run is between its two halves,
its snapshot is still what a new one would find, and there are ports for all that wait. -/
structure Tidy (w₀ : World) (c : World × List (Job × Allocating)) : Prop extends Obtains w₀ c where
  sound : ∀ run ∈ c.2, run.2.Sound
  room : ∀ serverID, waiting c.2 serverID ≤ c.1.freePorts serverID
  current : ∀ job platform snapshot, (job, .insert platform snapshot) ∈ c.2 →
    snapshot = c.1.nextPort job.member.serverID
  sole : (c.2.filterMap insertServer).Nodup

section Tidy

variable {w₀ w w' : World} {ts : List (Job × Allocating)} {i : Nat} {job : Job}
  {k k' : Allocating}

theorem Tidy.exists_nextPort (tidy : Tidy w₀ (w, ts)) (member : (job, k) ∈ ts)
    (waits : k.waits = true) : ∃ port, w.nextPort job.member.serverID = some port := by
  refine World.exists_nextPort (Nat.lt_of_lt_of_le ?_ (tidy.room job.member.serverID))
  exact List.countP_pos_iff.mpr ⟨_, member, by simp [waits]⟩

theorem waiting_set (here : ts[i]? = some (job, k)) (k' : Allocating) (serverID : UUID) :
    waiting (ts.set i (job, k')) serverID +
        (decide (job.member.serverID = serverID) && k.waits).toNat =
      waiting ts serverID + (decide (job.member.serverID = serverID) && k'.waits).toNat :=
  countP_set _ here (job, k')

theorem heldPort_congr (same : k'.port = k.port) : heldPort (job, k') = heldPort (job, k) := by
  simp only [heldPort, same]

/-- A step that changes no port and no INSERT keeps what is collected. -/
theorem nodup_set {β : Type} {f : Job × Allocating → Option β} (here : ts[i]? = some (job, k))
    (same : f (job, k') = f (job, k)) (distinct : (ts.filterMap f).Nodup) :
    ((ts.set i (job, k')).filterMap f).Nodup := by
  rw [(filterMap_set_perm f here _).nodup_iff, same, ← (filterMap_perm f here).nodup_iff]
  exact distinct

theorem nodup_set_none {β : Type} {f : Job × Allocating → Option β}
    (here : ts[i]? = some (job, k)) (nothing : f (job, k') = none)
    (distinct : (ts.filterMap f).Nodup) : ((ts.set i (job, k')).filterMap f).Nodup := by
  rw [(filterMap_set_perm f here _).nodup_iff, nothing]
  rw [(filterMap_perm f here).nodup_iff, List.nodup_append] at distinct
  exact distinct.2.1

theorem nodup_set_some {β : Type} {f : Job × Allocating → Option β} {b : β}
    (here : ts[i]? = some (job, k)) (something : f (job, k') = some b)
    (other : ∀ run ∈ ts.eraseIdx i, f run ≠ some b) (distinct : (ts.filterMap f).Nodup) :
    ((ts.set i (job, k')).filterMap f).Nodup := by
  rw [(filterMap_set_perm f here _).nodup_iff, something]
  rw [(filterMap_perm f here).nodup_iff, List.nodup_append] at distinct
  refine List.nodup_cons.mpr ⟨fun member => ?_, distinct.2.1⟩
  obtain ⟨run, stays, same⟩ := List.mem_filterMap.mp member
  exact other run stays same

theorem Tidy.aside (tidy : Tidy w₀ (w, ts)) (here : ts[i]? = some (job, k))
    (aside : Allocating.Aside w w' k k') : Tidy w₀ (w', ts.set i (job, k')) := by
  have member : (job, k) ∈ ts := List.mem_of_getElem? here
  have able : k.waits = true ∨ k.port.isSome = true := by
    cases k with
    | late port point =>
      cases port with
      | none => exact absurd member (tidy.obtained job point)
      | some port => exact .inr rfl
    | _ => exact .inl rfl
  refine { obtained := ?_, reserved := ?_, distinct := ?_, blameless := ?_, sound := ?_
           room := ?_, current := ?_, sole := ?_ }
  · intro job' point lost
    rcases (mem_set_iff here).mp lost with new | old
    · obtain ⟨rfl, rfl⟩ := Prod.mk.inj new
      have waits : false = k.waits := aside.waits
      have port : none = k.port := aside.port
      simp [← waits, ← port] at able
    · exact tidy.obtained job' point (List.mem_of_mem_eraseIdx old)
  · intro run stays port held
    show _ ∈ w'.ports
    rw [aside.ports]
    rcases (mem_set_iff here).mp stays with rfl | old
    · rw [aside.port] at held
      exact tidy.reserved _ member port held
    · exact tidy.reserved run (List.mem_of_mem_eraseIdx old) port held
  · exact nodup_set here (heldPort_congr aside.port) tidy.distinct
  · exact fun targetID failed => tidy.blameless targetID (aside.blame able targetID failed)
  · intro run stays
    rcases (mem_set_iff here).mp stays with rfl | old
    · exact aside.sound
    · exact tidy.sound run (List.mem_of_mem_eraseIdx old)
  · intro serverID
    have moved := waiting_set here k' serverID
    rw [aside.waits] at moved
    rw [World.freePorts_congr aside.ports, Nat.add_right_cancel moved]
    exact tidy.room serverID
  · intro job' platform snapshot stays
    rw [World.nextPort_congr aside.ports]
    rcases (mem_set_iff here).mp stays with new | old
    · obtain ⟨rfl, rfl⟩ := Prod.mk.inj new
      exact absurd aside.after Bool.true_eq_false_eq_False
    · exact tidy.current job' platform snapshot (List.mem_of_mem_eraseIdx old)
  · exact nodup_set_none here (by simp [insertServer, aside.after]) tidy.sole

/-- A snapshot with no other run on the server between its two halves. -/
theorem Tidy.snapshot (tidy : Tidy w₀ (w, ts)) {platform : String}
    (here : ts[i]? = some (job, .early (.allocate platform)))
    (apart : ∀ other ∈ ts, other.1.member.serverID = job.member.serverID →
      other.2.inserting = false) :
    Tidy w₀ (w, ts.set i (job, .insert platform (w.nextPort job.member.serverID))) := by
  refine { obtained := ?_, reserved := ?_, distinct := ?_, blameless := tidy.blameless
           sound := ?_, room := ?_, current := ?_, sole := ?_ }
  · intro job' point lost
    rcases (mem_set_iff here).mp lost with new | old
    · cases new
    · exact tidy.obtained job' point (List.mem_of_mem_eraseIdx old)
  · intro run stays port held
    rcases (mem_set_iff here).mp stays with rfl | old
    · cases held
    · exact tidy.reserved run (List.mem_of_mem_eraseIdx old) port held
  · exact nodup_set_none here rfl tidy.distinct
  · intro run stays
    rcases (mem_set_iff here).mp stays with rfl | old
    · trivial
    · exact tidy.sound run (List.mem_of_mem_eraseIdx old)
  · intro serverID
    have moved := waiting_set here (.insert platform (w.nextPort job.member.serverID)) serverID
    rw [Nat.add_right_cancel moved]
    exact tidy.room serverID
  · intro job' platform' snapshot stays
    rcases (mem_set_iff here).mp stays with new | old
    · cases new
      rfl
    · exact tidy.current job' platform' snapshot (List.mem_of_mem_eraseIdx old)
  · refine nodup_set_some here (b := job.member.serverID) rfl ?_ tidy.sole
    intro other stays same
    have between : other.2.inserting = true ∧ other.1.member.serverID = job.member.serverID := by
      simpa [insertServer] using same
    rw [apart other (List.mem_of_mem_eraseIdx stays) between.2] at between
    cases between.1

/-- The INSERT of a run whose snapshot is still current. -/
theorem Tidy.inserted (tidy : Tidy w₀ (w, ts)) {platform : String} {port : Int}
    (here : ts[i]? = some (job, .insert platform (some port)))
    (free : w.portTaken job.member.serverID port = false)
    (ports : w'.ports = ⟨job.member.serverID, port, some job.target.id, none⟩ :: w.ports)
    (targets : w'.targets = w.targets) :
    Tidy w₀ (w', ts.set i (job, .late (some port) (.bind platform port))) := by
  have elsewhere : ∀ other ∈ ts.eraseIdx i, other.2.inserting = true →
      other.1.member.serverID ≠ job.member.serverID := by
    intro other stays between same
    have sole := tidy.sole
    rw [(filterMap_perm insertServer here).nodup_iff] at sole
    refine (List.nodup_cons.mp sole).1 (List.mem_filterMap.mpr ⟨other, stays, ?_⟩)
    simp [insertServer, between, same]
  refine { obtained := ?_, reserved := ?_, distinct := ?_, blameless := ?_
           sound := ?_, room := ?_, current := ?_, sole := ?_ }
  · intro job' point lost
    rcases (mem_set_iff here).mp lost with new | old
    · cases new
    · exact tidy.obtained job' point (List.mem_of_mem_eraseIdx old)
  · intro run stays n held
    show _ ∈ w'.ports
    rw [ports]
    rcases (mem_set_iff here).mp stays with rfl | old
    · cases held
      exact List.mem_cons_self
    · exact List.mem_cons_of_mem _ (tidy.reserved run (List.mem_of_mem_eraseIdx old) n held)
  · refine nodup_set_some here (b := (job.member.serverID, port)) rfl ?_ tidy.distinct
    intro other stays same
    obtain ⟨n, held, named⟩ := Option.map_eq_some_iff.mp same
    obtain ⟨server, rfl⟩ := Prod.mk.inj named
    have taken := (tidy.reserved other (List.mem_of_mem_eraseIdx stays) n held).taken
    rw [server, free] at taken
    cases taken
  · intro targetID failed
    refine tidy.blameless targetID ?_
    rwa [PortFailed, ← targets]
  · intro run stays
    rcases (mem_set_iff here).mp stays with rfl | old
    · exact ⟨rfl, fun _ => trivial⟩
    · exact tidy.sound run (List.mem_of_mem_eraseIdx old)
  · intro serverID
    have moved := waiting_set here (.late (some port) (.bind platform port)) serverID
    have taken := World.freePorts_insert ports serverID
    have room : waiting ts serverID ≤ w.freePorts serverID := tidy.room serverID
    simp only [Allocating.waits, Bool.and_true, Bool.and_false, Bool.toNat_false] at moved
    show waiting (ts.set i _) serverID ≤ w'.freePorts serverID
    omega
  · intro job' platform' snapshot stays
    rcases (mem_set_iff here).mp stays with new | old
    · cases new
    · have other : job.member.serverID ≠ job'.member.serverID := Ne.symm (elsewhere _ old rfl)
      rw [tidy.current job' platform' snapshot (List.mem_of_mem_eraseIdx old)]
      refine World.nextPort_other ?_
      funext n
      simp [World.portTaken_insert ports, other]
  · exact nodup_set_none here rfl tidy.sole

/-- **A step whose snapshot, if it takes one, is taken apart.** -/
theorem Tidy.step (tidy : Tidy w₀ (w, ts)) (here : ts[i]? = some (job, k))
    (apart : k.snapshots = true → ∀ other ∈ ts,
      other.1.member.serverID = job.member.serverID → other.2.inserting = false)
    (moves : Allocating.Moves job w k w' k') : Tidy w₀ (w', ts.set i (job, k')) := by
  have member : (job, k) ∈ ts := List.mem_of_getElem? here
  cases moves with
  | aside _ aside => exact tidy.aside here aside
  | snapshot platform => exact tidy.snapshot here (apart rfl)
  | inserted free ports targets => exact tidy.inserted here free ports targets
  | refused err full =>
    -- the snapshot is current and there was room, so its port is free
    obtain ⟨port, found⟩ := tidy.exists_nextPort member rfl
    have current := tidy.current _ _ _ member
    have taken := full port (current.trans found)
    rw [World.nextPort_free found] at taken
    cases taken

end Tidy

/-! ## Snapshots that overlap -/

/-- Some run will not get a port: two runs of one server have the same snapshot, or the port
of a snapshot is taken, or the INSERT was refused. -/
inductive Beaten (c : World × List (Job × Allocating)) : Prop where
  | overlap {i j : Nat} {job job' : Job} {platform platform' : String} {port : Int} :
      i ≠ j → c.2[i]? = some (job, .insert platform (some port)) →
      c.2[j]? = some (job', .insert platform' (some port)) →
      job'.member.serverID = job.member.serverID → Beaten c
  | late {job : Job} {platform : String} {port : Int} :
      (job, .insert platform (some port)) ∈ c.2 →
      c.1.portTaken job.member.serverID port = true → Beaten c
  | refused {job : Job} {point : Dispatch} : (job, .late none point) ∈ c.2 → Beaten c

section Beaten

variable {w w' : World} {ts : List (Job × Allocating)} {i : Nat} {job : Job}
  {k k' : Allocating}

/-- No run gives a port back. -/
theorem Allocating.Moves.taken (moves : Moves job w k w' k') {serverID : UUID} {port : Int}
    (taken : w.portTaken serverID port = true) : w'.portTaken serverID port = true := by
  cases moves with
  | aside _ aside => rwa [World.portTaken_congr aside.ports]
  | snapshot platform => exact taken
  | refused err full => exact taken
  | inserted free ports => rw [World.portTaken_insert ports, taken, Bool.or_true]

/-- The INSERT of a snapshot takes its port, or is refused. -/
theorem Beaten.of_insert {platform : String} {port : Int}
    (here : ts[i]? = some (job, .insert platform (some port)))
    (moves : Allocating.Moves job w (.insert platform (some port)) w' k') :
    w'.portTaken job.member.serverID port = true ∨ Beaten (w', ts.set i (job, k')) := by
  cases moves with
  | aside _ aside => cases aside.before
  | refused err full => exact .inr (.refused (mem_set_new here _))
  | inserted free ports => exact .inl (by simp [World.portTaken_insert ports])

theorem Beaten.step (beaten : Beaten (w, ts)) (here : ts[i]? = some (job, k))
    (moves : Allocating.Moves job w k w' k') : Beaten (w', ts.set i (job, k')) := by
  cases beaten with
  | @overlap a b first second platform platform' port different one two same =>
    by_cases atFirst : i = a
    · subst atFirst
      cases here.symm.trans one
      obtain taken | beaten := Beaten.of_insert here moves
      · have stays : (second, .insert platform' (some port)) ∈ ts.set i (job, k') :=
          List.mem_of_getElem? ((List.getElem?_set_ne different).trans two)
        exact .late stays (same ▸ taken)
      · exact beaten
    · by_cases atSecond : i = b
      · subst atSecond
        cases here.symm.trans two
        obtain taken | beaten := Beaten.of_insert here moves
        · have stays : (first, .insert platform (some port)) ∈ ts.set i (job, k') :=
            List.mem_of_getElem? ((List.getElem?_set_ne atFirst).trans one)
          exact .late stays (same ▸ taken)
        · exact beaten
      · exact .overlap different ((List.getElem?_set_ne atFirst).trans one)
          ((List.getElem?_set_ne atSecond).trans two) same
  | @late first platform port member taken =>
    obtain picked | stays := mem_set_or_eq here member (job, k')
    · cases picked
      cases moves with
      | aside _ aside => cases aside.before
      | refused err full => exact .refused (mem_set_new here _)
      | inserted free =>
        rw [taken] at free
        cases free
    · exact .late stays (moves.taken taken)
  | @refused first point member =>
    obtain picked | stays := mem_set_or_eq here member (job, k')
    · cases picked
      cases moves with
      | aside _ aside =>
        cases k' with
        | late port point' =>
          have none : port = .none := aside.port
          subst none
          exact .refused (mem_set_new here _)
        | _ => cases aside.waits
    · exact .refused stays

end Beaten

/-! ## Runs -/

theorem race_step (dns : DnsConfig) {w : World} {ts : List (Job × Allocating)} (i : Nat)
    (sound : ∀ run ∈ ts, run.2.Sound) :
    (raceFlow dns).advance (fun _ _ => []) (w, ts) i = (w, ts) ∨
      ∃ job k w' k', ts[i]? = some (job, k) ∧ Allocating.Moves job w k w' k' ∧
        (raceFlow dns).advance (fun _ _ => []) (w, ts) i = (w', ts.set i (job, k')) := by
  obtain same | ⟨⟨job, k⟩, effect, next, here, edge, moved⟩ :=
    Flow.advance_cases (raceFlow dns) (fun _ _ => []) (w, ts) i
  · exact .inl same
  · obtain ⟨next', edge', same⟩ := Flow.indexed_act edge
    refine .inr ⟨job, k, effect w, next' w, here,
      Allocating.moves edge' (sound _ (List.mem_of_getElem? here)) w, ?_⟩
    rw [moved, same, List.append_nil]

/-- Every run keeps to its points, whatever the order. -/
theorem Allocating.Moves.sound {job : Job} {w w' : World} {k k' : Allocating}
    (moves : Allocating.Moves job w k w' k') : k'.Sound := by
  cases moves with
  | aside _ aside => exact aside.sound
  | snapshot platform => trivial
  | refused err full => exact ⟨rfl, fun some => nomatch some⟩
  | inserted free ports targets => exact ⟨rfl, fun _ => trivial⟩

theorem sound_set {ts : List (Job × Allocating)} (sound : ∀ run ∈ ts, run.2.Sound) {i : Nat}
    {job : Job} {k' : Allocating} (new : k'.Sound) : ∀ run ∈ ts.set i (job, k'), run.2.Sound := by
  intro run stays
  rcases List.mem_or_eq_of_mem_set stays with old | rfl
  · exact sound run old
  · exact new

theorem tidy_start {w : World} {jobs : List Job}
    (enough : ∀ serverID, jobs.countP (fun job => job.member.serverID = serverID) ≤
      w.freePorts serverID) :
    Tidy w (w, jobs.map fun job => (job, .early .online)) := by
  have each : ∀ run ∈ jobs.map fun job => (job, Allocating.early .online),
      run.2 = .early .online := by
    intro run member
    obtain ⟨job, -, rfl⟩ := List.mem_map.mp member
    rfl
  have collects {β : Type} (f : Job × Allocating → Option β)
      (nothing : ∀ job, f (job, .early .online) = none) :
      ((jobs.map fun job => (job, Allocating.early .online)).filterMap f).Nodup := by
    rw [List.filterMap_map, List.filterMap_eq_nil_iff.mpr ?_]
    · exact List.nodup_nil
    · exact fun job _ => nothing job
  refine { obtained := ?_, reserved := ?_, distinct := collects _ fun _ => rfl
           blameless := fun _ failed => failed, sound := ?_, room := ?_, current := ?_
           sole := collects _ fun _ => rfl }
  · intro job point lost
    cases each _ lost
  · intro run member port held
    rw [each run member] at held
    cases held
  · intro run member
    rw [each run member]
    trivial
  · intro serverID
    rw [waiting, List.countP_map]
    simpa [Function.comp_def, Allocating.waits] using enough serverID
  · intro job platform snapshot lost
    cases each _ lost

section Runs

variable (dns : DnsConfig) (w : World) (jobs : List Job)

theorem tidy_advance {w₀ : World} (c : World × List (Job × Allocating)) (i : Nat)
    (tidy : Tidy w₀ c) (apart : Apart c i) :
    Tidy w₀ ((raceFlow dns).advance (fun _ _ => []) c i) := by
  obtain ⟨w, ts⟩ := c
  obtain same | ⟨job, k, w', k', here, moves, moved⟩ := race_step dns i tidy.sound
  · rwa [same]
  · rw [moved]
    exact tidy.step here (fun snapshots => apart _ here snapshots) moves

/-- **A snapshot that overlaps another is the same**, so one of the two runs will be refused. -/
theorem beaten_advance {w₀ : World} (c : World × List (Job × Allocating)) (i : Nat)
    (tidy : Tidy w₀ c) (overlaps : ¬ Apart c i) :
    Beaten ((raceFlow dns).advance (fun _ _ => []) c i) ∧
      ∀ run ∈ ((raceFlow dns).advance (fun _ _ => []) c i).2, run.2.Sound := by
  obtain ⟨w, ts⟩ := c
  simp only [Apart, not_forall, Bool.not_eq_false] at overlaps
  obtain ⟨⟨job, k⟩, here, snapshots, ⟨job', k'⟩, member, same, between⟩ := overlaps
  cases k with
  | early point =>
    cases point with
    | allocate platform =>
      cases k' with
      | insert platform' snapshot =>
        have here : ts[i]? = some (job, .early (.allocate platform)) := here
        obtain ⟨port, found⟩ := tidy.exists_nextPort member rfl
        obtain rfl := (tidy.current _ _ _ member).trans found
        obtain ⟨j, there⟩ := List.mem_iff_getElem?.mp member
        have there : ts[j]? = some (job', .insert platform' (some port)) := there
        have different : i ≠ j := by
          rintro rfl
          cases here.symm.trans there
        have mine : w.nextPort job.member.serverID = some port := by rw [← same, found]
        have moved : (raceFlow dns).advance (fun _ _ => []) (w, ts) i =
            (w, ts.set i (job, .insert platform (some port))) := by
          simp only [Flow.advance, here]
          show (w, ts.set i (job, .insert platform (w.nextPort job.member.serverID)) ++ []) = _
          rw [mine, List.append_nil]
        obtain ⟨bound, -⟩ := List.getElem?_eq_some_iff.mp here
        rw [moved]
        exact ⟨.overlap different (List.getElem?_set_self bound)
          ((List.getElem?_set_ne different).trans there) same, sound_set tidy.sound trivial⟩
      | _ => cases between
    | _ => cases snapshots
  | _ => cases snapshots

theorem beaten_stays (c : World × List (Job × Allocating)) (i : Nat)
    (lost : Beaten c ∧ ∀ run ∈ c.2, run.2.Sound) :
    Beaten ((raceFlow dns).advance (fun _ _ => []) c i) ∧
      ∀ run ∈ ((raceFlow dns).advance (fun _ _ => []) c i).2, run.2.Sound := by
  obtain ⟨w, ts⟩ := c
  obtain ⟨beaten, sound⟩ := lost
  obtain same | ⟨job, k, w', k', here, moves, moved⟩ := race_step dns i sound
  · rw [same]
    exact ⟨beaten, sound⟩
  · rw [moved]
    exact ⟨beaten.step here moves, sound_set sound moves.sound⟩

/-- Once every run has ended, the one that was beaten has no port. -/
theorem Beaten.ended {dns : DnsConfig} {w₀ : World} {c : World × List (Job × Allocating)}
    (beaten : Beaten c) (ended : Ended dns c) : ¬ Obtains w₀ c := by
  intro obtains
  cases beaten with
  | overlap _ here _ _ => cases ended _ (List.mem_of_getElem? here)
  | late member _ => cases ended _ member
  | refused member => exact obtains.obtained _ _ member

/-- **When concurrent runs obtain their ports.**  On servers with a free port for each run:
while the snapshots are taken apart, every state reached has given every run that is past its
allocation a port of its own; and when the runs have ended and all have one, the snapshots
were taken apart. -/
theorem ports_obtained_iff
    (enough : ∀ serverID, jobs.countP (fun job => job.member.serverID = serverID) ≤
      w.freePorts serverID) (schedule : List Nat) :
    (RunsApart dns w jobs schedule →
      ∀ earlier, earlier <+: schedule → Obtains w (race dns w jobs earlier)) ∧
    (Ended dns (race dns w jobs schedule) → Obtains w (race dns w jobs schedule) →
      RunsApart dns w jobs schedule) := by
  have start := tidy_start enough
  constructor
  · rintro apart earlier ⟨later, rfl⟩
    have tidy : Tidy w (race dns w jobs earlier) :=
      (Flow.along_append.mp apart).1.invariant
        (fun c i apart tidy => tidy_advance dns c i tidy apart) start
    exact tidy.toObtains
  · intro ended obtains
    obtain apart | ⟨beaten, -⟩ := Flow.along_or_trapped
      (fun c i tidy apart => tidy_advance dns  c i tidy apart)
      (fun c i tidy overlaps => beaten_advance dns c i tidy overlaps)
      (beaten_stays dns) start schedule
    · exact apart
    · exact absurd obtains (beaten.ended ended)

end Runs

section TwoReplicas

/-- A worker behind an edge server, with two targets that wait for their dispatch. -/
def behindEdge : World :=
  { teams := .single ⟨11, "acme"⟩
    projects := .single shopOfTeam
    apps := .single webApp
    builds := .single builtWeb
    servers := ⟨[{ id := 70, teamID := 11, clusterID := some 12, role := .edge },
      { id := 71, teamID := 11, clusterID := some 12, agentID := some (UUID.text 71) }], by decide⟩
    deployments := ⟨[{ id := 1, appID := 20, environmentID := 40, buildID := 30 }], by decide⟩
    targets := ⟨[{ id := 81, deploymentID := 1, serverID := 71 },
      { id := 82, deploymentID := 1, serverID := 71 }], by decide⟩
    agents := .single { agentID := UUID.text 71 } }

def dispatchOf (targetID : UUID) : Job :=
  { deployment := { id := 1, appID := 20, environmentID := 40, buildID := 30 }
    target := { id := targetID, deploymentID := 1, serverID := 71 }
    build := builtWeb
    app := webApp
    project := shopOfTeam
    member := { serverID := 71, wireguardIp := "10.0.0.1" } }

theorem behindEdge_room (serverID : UUID) :
    [dispatchOf 81, dispatchOf 82].countP (fun job => job.member.serverID = serverID) ≤
      behindEdge.freePorts serverID := by
  have all : behindEdge.freePorts serverID = World.portRange.length := by
    rw [World.freePorts, List.countP_eq_length]
    exact fun port _ => rfl
  rw [all]
  exact List.countP_le_length.trans (by decide +kernel)

/-- The second run takes its snapshot after the INSERT of the first. -/
def insertBetween : List Nat := List.replicate 19 0 ++ List.replicate 19 1

theorem behindEdge_apart : RunsApart {} behindEdge [dispatchOf 81, dispatchOf 82] insertBetween := by
  unfold RunsApart
  decide +kernel

theorem ports_obtained_apart :
    Obtains behindEdge (race {} behindEdge [dispatchOf 81, dispatchOf 82] insertBetween) :=
  (ports_obtained_iff {} behindEdge _ behindEdge_room insertBetween).1 behindEdge_apart _
    List.prefix_rfl

/-- Both runs take their snapshots before either inserts. -/
def bothSnapshots : List Nat :=
  List.replicate 16 0 ++ List.replicate 16 1 ++ List.replicate 3 0 ++ List.replicate 2 1

/-- The run has left its allocation without a port. -/
def Allocating.withoutPort : Allocating → Bool
  | .late none _ => true
  | _ => false

/-- With 2768 ports free the second of two targets fails for want of one. -/
theorem port_refused_with_ports_free :
    (∀ serverID, [dispatchOf 81, dispatchOf 82].countP
        (fun job => job.member.serverID = serverID) ≤ behindEdge.freePorts serverID) ∧
      behindEdge.freePorts 71 = 2768 ∧
      ¬ Obtains behindEdge (race {} behindEdge [dispatchOf 81, dispatchOf 82] bothSnapshots) ∧
      ((race {} behindEdge [dispatchOf 81, dispatchOf 82] bothSnapshots).1.targets.find? 82).map
        (fun t => (t.status, t.error)) = some (.failed, some
          ("allocate host port: ERROR: duplicate key value violates unique constraint " ++
            "\"idx_server_port_allocations_live\" (SQLSTATE 23505)")) := by
  have refused : (race {} behindEdge [dispatchOf 81, dispatchOf 82] bothSnapshots).2.any
      (fun run => run.2.withoutPort) = true := by decide +kernel
  refine ⟨behindEdge_room, by decide +kernel, fun obtains => ?_, by decide +kernel⟩
  obtain ⟨⟨job, k⟩, member, without⟩ := List.any_eq_true.mp refused
  cases k with
  | late port point =>
    cases port with
    | none => exact obtains.obtained job point member
    | some port => cases without
  | _ => cases without

end TwoReplicas

end Nixway.Deploy
