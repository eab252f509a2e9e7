/-
# Volumes.Removal -- what the agents remove

`HandleVolumeDelete` and `HandleVolumeMove` of `apps/agent/volume.go` unmount a directory, remove
the image behind it and remove the directory with everything below.  The first looks where the
path leads before it does so; the second does not.

A row is inserted with the path `/` and gets its own path by a second statement.  When that fails
the row stays, and a `Move` of the volume that is carried out removes `/` on the source server.
`removed_below_root_iff` says that this is the only way anything outside the volumes root is
removed.
-/
import Nixway.Volumes.Service
import Nixway.Theory.Paths

namespace Nixway.Volumes

open Nixway.Theory Nixway.Store
open Nixway.Theory.Prog (query exec atomic ignore)

set_option autoImplicit false

/-! ## The handlers -/

def volumesRoot : String := "/var/lib/nixway/volumes"

def imagePathFor (hostPath : String) : String := Text.trimRight '/' hostPath ++ ".img"

/-- A directory that was unmounted and removed with everything below it, and the image file that
was removed with it. -/
structure Removal where
  directory : String
  image : String
deriving DecidableEq

/-- How an agent fares with a command: whether the command reaches it, whether the tools it runs
succeed, and whether its result comes back in time. -/
structure Agent where
  reached : Bool := true
  works : Bool := true
  answers : Bool := true

def handleVolumeDelete (works : Bool) (hostPath : String) : List Removal × VolumeResult :=
  if hostPath = "" then
    ([], { success := false })
  else if !Text.hasPrefix (Paths.clean hostPath) (volumesRoot ++ "/") then
    ([], { success := false })
  else
    ([⟨hostPath, imagePathFor hostPath⟩], { success := works })

def handleVolumeMove (works : Bool) (sourcePath targetWireguardIp targetPath : String) :
    List Removal × VolumeResult :=
  if sourcePath = "" ∨ targetWireguardIp = "" ∨ targetPath = "" then
    ([], { success := false })
  else if !works then
    ([], { success := false })
  else
    ([⟨sourcePath, imagePathFor sourcePath⟩], {})

/-- What an agent removes at a command, and its result.  The other handlers remove nothing. -/
def handleRemoving (works : Bool) : VolumeCommand → List Removal × VolumeResult
  | .delete _ hostPath => handleVolumeDelete works hostPath
  | .move _ sourcePath ip targetPath => handleVolumeMove works sourcePath ip targetPath
  | .snapshot _ _ _ outputPath => ([], { success := works, snapshotPath := outputPath })
  | .create .. => ([], { success := works })
  | .resize .. => ([], { success := works })

/-- The agents' record of removals. -/
abbrev RemovalStore := VolumeStore (List Removal)

/-- The way of a command to an agent and of the result back. -/
def dispatchTo (agent : Agent) : Dispatch (List Removal) := fun _ _ command =>
  atomic fun s =>
    if !agent.reached then (s, none)
    else
      ({ s with agents := s.agents ++ (handleRemoving agent.works command).1 },
        if agent.answers then some (handleRemoving agent.works command).2 else none)

/-- The directory is strictly below the volumes root, and the image is the one of it. -/
structure BelowRoot (removal : Removal) : Prop where
  directory : Text.hasPrefix (Paths.clean removal.directory) (volumesRoot ++ "/")
  image : Paths.clean removal.image = Paths.clean removal.directory ++ ".img"

/-! ## The paths of volumes -/

theorem slash_not_mem_text (id : UUID) : '/' ∉ id.text.toList := by
  have digit : ∀ n < 16, Nat.digitChar n ≠ '/' := by decide
  have digits : '/' ∉ id.digits := by
    intro mem
    obtain ⟨i, -, same⟩ := List.mem_map.mp mem
    exact digit _ (Nat.mod_lt _ (by decide)) same
  have taken : ∀ n, '/' ∉ id.digits.take n := fun n mem => digits (List.mem_of_mem_take mem)
  have dropped : ∀ n, '/' ∉ id.digits.drop n := fun n mem => digits (List.mem_of_mem_drop mem)
  have inner : ∀ n m, '/' ∉ (id.digits.drop n).take m :=
    fun n m mem => dropped n (List.mem_of_mem_take mem)
  simp [UUID.text, taken, dropped, inner]

theorem length_text (id : UUID) : id.text.toList.length = 36 := by
  simp [UUID.text, UUID.digits]

theorem plain_text (id : UUID) (ending : List Char) (noSlash : '/' ∉ ending) :
    Paths.Plain (id.text.toList ++ ending) := by
  have long : 36 ≤ (id.text.toList ++ ending).length := by
    rw [List.length_append, length_text]
    omega
  refine ⟨?_, ?_, ?_, ?_⟩
  · simp [slash_not_mem_text, noSlash]
  · intro same
    rw [same] at long
    simp at long
  · intro same
    rw [same] at long
    simp at long
  · intro same
    rw [same] at long
    simp at long

/-- The names from the root to a volume, or to a file beside it. -/
def volumeNames (id : UUID) (ending : List Char) : List (List Char) :=
  ["var".toList, "lib".toList, "nixway".toList, "volumes".toList, id.text.toList ++ ending]

theorem rooted_volumeNames (id : UUID) (ending : String) :
    Paths.rooted (volumeNames id ending.toList) = volumeHostPath id ++ ending := by
  apply String.toList_inj.mp
  have root : Text.trimRight '/' hostPathRoot = hostPathRoot := by decide
  rw [volumeHostPath, root]
  simp [Paths.rooted, volumeNames, hostPathRoot]

theorem clean_volumeHostPath (id : UUID) (ending : String) (noSlash : '/' ∉ ending.toList) :
    Paths.clean (volumeHostPath id ++ ending) = volumeHostPath id ++ ending := by
  rw [← rooted_volumeNames]
  refine Paths.clean_rooted (List.cons_ne_nil _ _) fun part mem => ?_
  simp only [volumeNames, List.mem_cons, List.not_mem_nil, or_false] at mem
  rcases mem with rfl | rfl | rfl | rfl | rfl
  · exact ⟨by decide, by decide, by decide, by decide⟩
  · exact ⟨by decide, by decide, by decide, by decide⟩
  · exact ⟨by decide, by decide, by decide, by decide⟩
  · exact ⟨by decide, by decide, by decide, by decide⟩
  · exact plain_text id ending.toList noSlash

theorem volumeHostPath_eq (id : UUID) : volumeHostPath id = volumesRoot ++ "/" ++ id.text := by
  have root : Text.trimRight '/' hostPathRoot = volumesRoot := by decide
  rw [volumeHostPath, root]

theorem imagePathFor_volumeHostPath (id : UUID) :
    imagePathFor (volumeHostPath id) = volumeHostPath id ++ ".img" := by
  have some : id.text.toList ≠ [] := by
    intro empty
    have length := length_text id
    rw [empty] at length
    cases length
  have last : id.text.toList.getLast some ≠ '/' := by
    intro slash
    exact slash_not_mem_text id (slash ▸ List.getLast_mem some)
  rw [imagePathFor, volumeHostPath_eq,
    Text.trimRight_of_last (List.getLast?_eq_some_getLast some) last]

theorem belowRoot_volumeHostPath (id : UUID) :
    BelowRoot ⟨volumeHostPath id, imagePathFor (volumeHostPath id)⟩ := by
  have dir : Paths.clean (volumeHostPath id) = volumeHostPath id := by
    have same := clean_volumeHostPath id "" (by simp)
    simpa using same
  refine ⟨?_, ?_⟩
  · rw [dir, Text.hasPrefix_iff, volumeHostPath_eq, String.toList_append (t := id.text)]
    exact List.prefix_append _ _
  · rw [dir, imagePathFor_volumeHostPath]
    exact clean_volumeHostPath id ".img" (by decide)

theorem not_belowRoot_placeholder (image : String) : ¬ BelowRoot ⟨"/", image⟩ := by
  intro below
  have outside : Text.hasPrefix (Paths.clean "/") (volumesRoot ++ "/") = false := by decide
  have inside := below.directory
  rw [outside] at inside
  cases inside

/-! ## The calls -/

inductive Operation where
  | create (id : UUID) (req : CreateRequest)
  | delete (teamID id : UUID)
  | attach (req : AttachRequest)
  | detach (teamID id : UUID)
  | move (req : MoveRequest)
  | snapshot (teamID id snapshotID : UUID)
  | resize (teamID id : UUID) (newSizeGb : Int)

/-- A call of the service, with what fails on its way. -/
structure Call where
  operation : Operation
  faults : Faults := fun _ => false
  agent : Agent := {}

def Call.code (c : Call) : Prog RemovalStore Unit :=
  match c.operation with
  | .create id req => ignore (create c.faults (dispatchTo c.agent) id req)
  | .delete teamID id => ignore (delete c.faults (dispatchTo c.agent) teamID id)
  | .attach req => ignore (attach c.faults req)
  | .detach teamID id => ignore (detach c.faults teamID id)
  | .move req => ignore (move c.faults (dispatchTo c.agent) req)
  | .snapshot teamID id snapshotID =>
    ignore (snapshot c.faults (dispatchTo c.agent) teamID id snapshotID)
  | .resize teamID id newSizeGb => ignore (resize c.faults (dispatchTo c.agent) teamID id newSizeGb)

/-- The store after the calls, one after another. -/
def perform (s : RemovalStore) (calls : List Call) : RemovalStore :=
  calls.foldl (fun s c => c.code.out s) s

/-- **The invariant.**  A stored path is the placeholder or the path of the volume. -/
def Pathed (s : RemovalStore) : Prop :=
  ∀ vol ∈ s.volumes.rows, vol.hostPath = "/" ∨ vol.hostPath = volumeHostPath vol.id

/-- The row and target for which a `Move` sends its command. -/
def MoveRequest.sends (faults : Faults) (req : MoveRequest) (s : RemovalStore) :
    Option (Volume × ClusterMember) :=
  ((if faults .getVolume then none else s.getVolume req.volumeID req.teamID).filter fun vol =>
      (vol.status = .unattached ∨ vol.status = .attached) ∧
        req.targetServerID ≠ vol.serverID).bind fun vol =>
    ((if faults .getMember then none else s.members.find? req.targetServerID).filter fun target =>
      target.clusterID = vol.clusterID ∧ faults .markStatus = false).map fun target => (vol, target)

/-- The call is a `Move` of a volume whose path is still the placeholder, and the agent carries
it out: the command reaches it and rsync succeeds. -/
def Call.movesPlaceholder (c : Call) (s : RemovalStore) : Bool :=
  match c.operation with
  | .move req =>
    (req.sends c.faults s).any fun sent =>
      sent.1.hostPath = "/" ∧ sent.2.wireguardIp ≠ "" ∧ c.agent.reached ∧ c.agent.works
  | _ => false

/-- No call of the list does. -/
def Placed : RemovalStore → List Call → Prop
  | _, [] => True
  | s, c :: calls => c.movesPlaceholder s = false ∧ Placed (c.code.out s) calls

instance placedDecidable : ∀ (s : RemovalStore) (calls : List Call), Decidable (Placed s calls)
  | _, [] => isTrue trivial
  | s, c :: calls =>
    have := placedDecidable (c.code.out s) calls
    inferInstanceAs (Decidable (_ ∧ _))

/-! ## What the statements do to the paths -/

theorem Pathed.createVolume {vol : Volume} (fresh : vol.hostPath = "/") (s : RemovalStore)
    (pathed : Pathed s) : Pathed (s.createVolume vol).1 := by
  dsimp only [VolumeStore.createVolume]
  split
  · exact pathed
  · cases inserted : s.volumes.insert? vol with
    | none => exact pathed
    | some volumes =>
      intro other member
      rcases (Table.mem_insert? inserted).mp member with rfl | old
      · exact .inl fresh
      · exact pathed other old

theorem createVolume_silent (vol : Volume) (s : RemovalStore) :
    (s.createVolume vol).1.agents = s.agents := by
  dsimp only [VolumeStore.createVolume]
  split
  · rfl
  · split <;> rfl

theorem mild_pathed :
    Mild fun effect : RemovalStore → RemovalStore => ∀ s, Pathed s → Pathed (effect s) where
  nothing := fun _ pathed => pathed
  places := by
    intro id s pathed vol member
    obtain ⟨old, there, rfl⟩ := VolumeStore.mem_updateVolumeHostPath.mp member
    split
    · next here => exact .inr (congrArg volumeHostPath here.symm)
    · exact pathed old there
  updates := by
    intro id teamID f keeps path s pathed vol member
    obtain ⟨old, there, rfl⟩ := VolumeStore.mem_updateVolume.mp member
    split
    · rw [path, keeps]
      exact pathed old there
    · exact pathed old there
  deletes := by
    intro id teamID s pathed vol member
    exact pathed vol (Table.mem_deleteWhere.mp member).1
  records := fun _ _ pathed => pathed

theorem mild_silent :
    Mild fun effect : RemovalStore → RemovalStore => ∀ s, (effect s).agents = s.agents where
  nothing := fun _ => rfl
  places := fun _ _ => rfl
  updates := fun _ _ _ _ _ _ => rfl
  deletes := fun _ _ _ => rfl
  records := fun _ _ => rfl

theorem dispatchTo_pathed (agent : Agent) (teamID serverID : UUID) (command : VolumeCommand) :
    (dispatchTo agent teamID serverID command).Every fun effect =>
      ∀ s, Pathed s → Pathed (effect s) := by
  refine (Prog.every_atomic _).mpr fun s pathed => ?_
  dsimp only
  split
  · exact pathed
  · exact pathed

theorem dispatchTo_silent (agent : Agent) (teamID serverID : UUID) {command : VolumeCommand}
    (none : (handleRemoving agent.works command).1 = []) :
    (dispatchTo agent teamID serverID command).Every fun effect =>
      ∀ s, (effect s).agents = s.agents := by
  refine (Prog.every_atomic _).mpr fun s => ?_
  dsimp only
  split
  · rfl
  · simp [none]

/-- **Every call keeps the invariant.** -/
theorem Pathed.call {s : RemovalStore} (pathed : Pathed s) (c : Call) : Pathed (c.code.out s) := by
  have every : c.code.Every fun effect => ∀ s, Pathed s → Pathed (effect s) := by
    unfold Call.code
    split
    · exact Prog.Every.bind
        (mild_pathed.create_every (fun _ => Pathed.createVolume)
          (fun _ _ _ _ _ => dispatchTo_pathed _ _ _ _) _ _)
        fun _ => trivial
    · exact Prog.Every.bind
        (mild_pathed.delete_every (fun _ _ _ _ => dispatchTo_pathed _ _ _ _) _ _)
        fun _ => trivial
    · exact Prog.Every.bind (mild_pathed.attach_every _) fun _ => trivial
    · exact Prog.Every.bind (mild_pathed.detach_every _ _) fun _ => trivial
    · exact Prog.Every.bind
        (mild_pathed.move_every (fun _ _ _ _ _ _ => dispatchTo_pathed _ _ _ _) _)
        fun _ => trivial
    · exact Prog.Every.bind
        (mild_pathed.snapshot_every (fun _ _ _ _ _ _ => dispatchTo_pathed _ _ _ _) _ _ _)
        fun _ => trivial
    · exact Prog.Every.bind
        (mild_pathed.resize_every (fun _ _ _ _ _ => dispatchTo_pathed _ _ _ _) _ _ _)
        fun _ => trivial
  exact every.run_preserves pathed

/-! ## What a call removes -/

/-- The row for which a `Delete` sends its command. -/
def deleteSends (faults : Faults) (teamID id : UUID) (s : RemovalStore) : Option Volume :=
  (if faults .getVolume then none else s.getVolume id teamID).filter fun vol =>
    vol.status ≠ .attached

/-- What the agents remove at the command of a call. -/
def Call.removals (c : Call) (s : RemovalStore) : List Removal :=
  if !c.agent.reached then []
  else
    match c.operation with
    | .delete teamID id =>
      ((deleteSends c.faults teamID id s).map fun vol =>
        (handleVolumeDelete c.agent.works vol.hostPath).1).getD []
    | .move req =>
      ((req.sends c.faults s).map fun sent =>
        (handleVolumeMove c.agent.works sent.1.hostPath sent.2.wireguardIp
          (volumeHostPath sent.1.id)).1).getD []
    | _ => []

section Removing

variable (faults : Faults) (agent : Agent) (s : RemovalStore)

/-- What a command adds to the record, and a silent rest does not. -/
theorem dispatch_then_silent {β : Type} {teamID serverID : UUID} {command : VolumeCommand}
    {rest : Option VolumeResult → Prog RemovalStore β}
    (silent : ∀ answer, (rest answer).Every fun effect => ∀ s, (effect s).agents = s.agents) :
    ((dispatchTo agent teamID serverID command >>= rest).out s).agents =
      s.agents ++ if agent.reached then (handleRemoving agent.works command).1 else [] := by
  unfold Prog.out dispatchTo
  rw [Prog.run_atomic_bind, Prog.Every.run_unchanged (fun s : RemovalStore => s.agents) (silent _)]
  cases agent.reached with
  | true => rfl
  | false => exact (List.append_nil _).symm

theorem delete_removes (teamID id : UUID) :
    ((delete faults (dispatchTo agent) teamID id).out s).agents =
      s.agents ++ if agent.reached then
        ((deleteSends faults teamID id s).map fun vol =>
          (handleVolumeDelete agent.works vol.hostPath).1).getD []
      else [] := by
  unfold delete Prog.out read deleteSends
  rw [Prog.run_query_bind]
  cases (if faults .getVolume then none else s.getVolume id teamID) with
  | none => simp
  | some vol =>
    dsimp only
    by_cases attached : vol.status = .attached
    · simp [attached, Option.filter]
    · rw [if_neg attached]
      refine (dispatch_then_silent agent s fun answer => ?_).trans ?_
      · refine Prog.Every.bind
          (every_statement mild_silent.nothing (mild_silent.deletes _ _) _) fun done => ?_
        cases done <;> trivial
      · simp [attached, Option.filter, handleRemoving]

theorem move_removes (req : MoveRequest) :
    ((move faults (dispatchTo agent) req).out s).agents =
      s.agents ++ if agent.reached then
        ((req.sends faults s).map fun sent =>
          (handleVolumeMove agent.works sent.1.hostPath sent.2.wireguardIp
            (volumeHostPath sent.1.id)).1).getD []
      else [] := by
  unfold move Prog.out read MoveRequest.sends
  rw [Prog.run_query_bind]
  cases found : (if faults .getVolume then none else s.getVolume req.volumeID req.teamID) with
  | none => simp
  | some vol =>
    have again : s.getVolume vol.id req.teamID = some vol := by
      split at found
      · cases found
      · exact VolumeStore.getVolume_self found
    dsimp only
    by_cases busy : vol.status ≠ .unattached ∧ vol.status ≠ .attached
    · simp [busy, Option.filter]
    rw [if_neg busy]
    have ready : vol.status = .unattached ∨ vol.status = .attached := by
      by_contra neither
      rw [not_or] at neither
      exact busy neither
    by_cases same : req.targetServerID = vol.serverID
    · simp [same, Option.filter]
    rw [if_neg same, Prog.run_query_bind]
    cases (if faults .getMember then none else s.members.find? req.targetServerID) with
    | none => simp [Option.filter]
    | some target =>
      dsimp only
      by_cases other : target.clusterID ≠ vol.clusterID
      · simp [ready, same, other, Option.filter]
      rw [if_neg other]
      rw [not_not] at other
      unfold statement
      rw [Prog.run_atomic_bind]
      cases faults .markStatus with
      | true => simp [ready, same, Option.filter]
      | false =>
        have row : (s.updateVolumeStatus vol.id req.teamID .moving).2 =
            some { vol with status := .moving } := by
          show (s.getVolume vol.id req.teamID).map _ = _
          rw [again]
          rfl
        simp only [Bool.false_eq_true, if_false, row]
        refine (dispatch_then_silent agent _ fun answer =>
          mild_silent.settleMove_every req vol answer).trans ?_
        simp [ready, same, other, Option.filter, handleRemoving]
        rfl

end Removing

theorem out_ignore {σ β : Type} (p : Prog σ β) (s : σ) : (ignore p).out s = p.out s := by
  unfold ignore Prog.out
  rw [Prog.run_bind]
  rfl

/-- **What a call adds to the record.** -/
theorem Call.agents_out (c : Call) (s : RemovalStore) :
    (c.code.out s).agents = s.agents ++ c.removals s := by
  have silent : (c.code.Every fun effect => ∀ s, (effect s).agents = s.agents) →
      c.removals s = [] → (c.code.out s).agents = s.agents ++ c.removals s := by
    intro every nothing
    rw [nothing, List.append_nil]
    exact every.run_unchanged (fun s : RemovalStore => s.agents) s
  obtain ⟨operation, faults, agent⟩ := c
  cases operation with
  | delete teamID id =>
    refine (congrArg VolumeStore.agents (out_ignore _ s)).trans ?_
    rw [delete_removes]
    dsimp only [Call.removals]
    cases agent.reached <;> rfl
  | move req =>
    refine (congrArg VolumeStore.agents (out_ignore _ s)).trans ?_
    rw [move_removes]
    dsimp only [Call.removals]
    cases agent.reached <;> rfl
  | create id req =>
    refine silent (Prog.Every.bind (mild_silent.create_every (fun _ _ => createVolume_silent _)
      (fun _ _ _ _ _ => dispatchTo_silent _ _ _ rfl) _ _) fun _ => trivial) (ite_self _)
  | attach req =>
    exact silent (Prog.Every.bind (mild_silent.attach_every _) fun _ => trivial) (ite_self _)
  | detach teamID id =>
    exact silent (Prog.Every.bind (mild_silent.detach_every _ _) fun _ => trivial) (ite_self _)
  | snapshot teamID id snapshotID =>
    exact silent (Prog.Every.bind (mild_silent.snapshot_every (fun _ _ _ _ _ _ =>
      dispatchTo_silent _ _ _ rfl) _ _ _) fun _ => trivial) (ite_self _)
  | resize teamID id newSizeGb =>
    exact silent (Prog.Every.bind (mild_silent.resize_every (fun _ _ _ _ _ =>
      dispatchTo_silent _ _ _ rfl) _ _ _) fun _ => trivial) (ite_self _)

/-- The guard of `HandleVolumeDelete` lets only the volume's own path through. -/
theorem handleVolumeDelete_below {vol : Volume}
    (path : vol.hostPath = "/" ∨ vol.hostPath = volumeHostPath vol.id) (works : Bool) :
    ∀ removal ∈ (handleVolumeDelete works vol.hostPath).1, BelowRoot removal := by
  rcases path with placeholder | own
  · rw [placeholder]
    have refused : (handleVolumeDelete works "/").1 = [] := by
      cases works <;> decide
    rw [refused]
    exact fun removal member => nomatch member
  · rw [own]
    unfold handleVolumeDelete
    split
    · exact fun removal member => nomatch member
    split
    · exact fun removal member => nomatch member
    · intro removal member
      rw [List.mem_singleton.mp member]
      exact belowRoot_volumeHostPath vol.id

theorem volumeHostPath_ne_empty (id : UUID) : volumeHostPath id ≠ "" := by
  intro empty
  have length := congrArg (fun path => path.toList.length) empty
  simp [volumeHostPath_eq, length_text] at length

theorem volumeHostPath_ne_placeholder (id : UUID) : volumeHostPath id ≠ "/" := by
  intro placeholder
  have length := congrArg (fun path => path.toList.length) placeholder
  simp [volumeHostPath_eq, length_text] at length

/-- `HandleVolumeMove` lets every path through. -/
theorem handleVolumeMove_below_iff {vol : Volume}
    (path : vol.hostPath = "/" ∨ vol.hostPath = volumeHostPath vol.id) (works : Bool)
    (ip : String) :
    (∀ removal ∈ (handleVolumeMove works vol.hostPath ip (volumeHostPath vol.id)).1,
        BelowRoot removal) ↔ ¬ (vol.hostPath = "/" ∧ ip ≠ "" ∧ works) := by
  have target := volumeHostPath_ne_empty vol.id
  unfold handleVolumeMove
  by_cases reachable : ip = ""
  · simp [reachable]
  cases works with
  | false => simp
  | true =>
    rcases path with placeholder | own
    · rw [placeholder]
      simp only [reachable, target, or_false, Bool.not_true, Bool.false_eq_true, if_false,
        String.reduceEq, List.mem_singleton, forall_eq, ne_eq, not_false_eq_true, and_self,
        not_true, iff_false]
      exact not_belowRoot_placeholder _
    · have other := volumeHostPath_ne_placeholder vol.id
      rw [own]
      simp only [reachable, target, or_false, Bool.not_true, Bool.false_eq_true, if_false,
        List.mem_singleton, forall_eq, other, false_and, not_false_eq_true, iff_true]
      exact belowRoot_volumeHostPath vol.id

/-- What a call removes is below the root, unless it moves a volume that has no path yet. -/
theorem Pathed.removals_below_iff {s : RemovalStore} (pathed : Pathed s) (c : Call) :
    (∀ removal ∈ c.removals s, BelowRoot removal) ↔ c.movesPlaceholder s = false := by
  have stored : ∀ {id teamID : UUID} {vol : Volume}, s.getVolume id teamID = some vol →
      vol.hostPath = "/" ∨ vol.hostPath = volumeHostPath vol.id := fun found =>
    pathed _ (Table.mem_of_find? (VolumeStore.getVolume_eq_some_iff.mp found).1)
  obtain ⟨operation, faults, agent⟩ := c
  unfold Call.removals Call.movesPlaceholder
  cases reached : agent.reached with
  | false =>
    cases operation <;> simp
  | true =>
    cases operation with
    | delete teamID id =>
      simp only [Bool.not_true, Bool.false_eq_true, if_false, iff_true]
      cases sent : deleteSends faults teamID id s with
      | none => simp
      | some vol =>
        have found := (Option.filter_eq_some_iff.mp sent).1
        split at found
        · cases found
        · exact handleVolumeDelete_below (stored found) agent.works
    | move req =>
      simp only [Bool.not_true, Bool.false_eq_true, if_false]
      cases sent : req.sends faults s with
      | none => simp
      | some pair =>
        obtain ⟨vol, read, rest⟩ := Option.bind_eq_some_iff.mp sent
        obtain ⟨target, -, rfl⟩ := Option.map_eq_some_iff.mp rest
        have found := (Option.filter_eq_some_iff.mp read).1
        split at found
        · cases found
        · refine (handleVolumeMove_below_iff (stored found) agent.works
            target.wireguardIp).trans ?_
          simp
    | _ => simp

/-- The record only grows. -/
theorem agents_perform (s : RemovalStore) (calls : List Call) :
    s.agents <+: (perform s calls).agents := by
  induction calls generalizing s with
  | nil => exact List.prefix_rfl
  | cons c calls ih =>
    refine List.IsPrefix.trans ?_ (ih (c.code.out s))
    rw [c.agents_out]
    exact List.prefix_append _ _

/-- **What the agents remove.**  In every sequence of calls, with failures at any statement and on
the way to and from the agents: every directory that is removed is below the volumes root, with
its own image, exactly if no `Move` of a volume whose path is still the placeholder is carried
out. -/
theorem removed_below_root_iff {s : RemovalStore} (start : Pathed s)
    (clean : ∀ removal ∈ s.agents, BelowRoot removal) (calls : List Call) :
    (∀ removal ∈ (perform s calls).agents, BelowRoot removal) ↔ Placed s calls := by
  induction calls generalizing s with
  | nil => exact iff_of_true clean trivial
  | cons c calls ih =>
    have here := start.removals_below_iff c
    have after := c.agents_out s
    by_cases safe : c.movesPlaceholder s = false
    · have good : ∀ removal ∈ (c.code.out s).agents, BelowRoot removal := by
        intro removal member
        rw [after] at member
        rcases List.mem_append.mp member with old | new
        · exact clean removal old
        · exact here.mpr safe removal new
      exact (ih (start.call c) good).trans ⟨fun rest => ⟨safe, rest⟩, And.right⟩
    · refine iff_of_false (fun all => safe (here.mp fun removal member => all removal ?_))
        fun placed => safe placed.1
      refine (agents_perform (c.code.out s) calls).subset ?_
      rw [after]
      exact List.mem_append_right _ member

/-! ## A volume that was never placed -/

def twoServers : RemovalStore :=
  { members := ⟨[{ serverID := 21, clusterID := 5, wireguardIp := "10.0.0.1" },
      { serverID := 22, clusterID := 5, wireguardIp := "10.0.0.3" }], by decide⟩
    agents := [] }

def newVolume : CreateRequest :=
  { teamID := 1, clusterID := 5, serverID := 21, name := "data", sizeGb := 10 }

def goodCalls : List Call :=
  [{ operation := .create 7 newVolume },
    { operation := .move { teamID := 1, volumeID := 7, targetServerID := 22 } },
    { operation := .delete 1 7 }]

theorem goodCalls_removed :
    (perform twoServers goodCalls).agents.length = 2 ∧
      ∀ removal ∈ (perform twoServers goodCalls).agents, BelowRoot removal := by
  refine ⟨by decide, ?_⟩
  have pathed : Pathed twoServers := fun vol member => absurd member List.not_mem_nil
  have clean : ∀ removal ∈ twoServers.agents, BelowRoot removal :=
    fun removal member => absurd member List.not_mem_nil
  exact (removed_below_root_iff pathed clean goodCalls).mpr (by decide)

/-- The statement that writes the path fails, and the volume is moved. -/
def unplacedCalls : List Call :=
  [{ operation := .create 7 newVolume, faults := fun stmt => stmt = .updateVolumeHostPath },
    { operation := .move { teamID := 1, volumeID := 7, targetServerID := 22 } }]

/-- **The root of the server is removed.** -/
theorem unplaced_move_removes_root :
    (perform twoServers unplacedCalls).agents = [⟨"/", ".img"⟩] ∧
      ¬ ∀ removal ∈ (perform twoServers unplacedCalls).agents, BelowRoot removal := by
  have removed : (perform twoServers unplacedCalls).agents = [⟨"/", ".img"⟩] := by decide
  refine ⟨removed, fun below => ?_⟩
  rw [removed] at below
  exact not_belowRoot_placeholder _ (below _ List.mem_cons_self)

end Nixway.Volumes
