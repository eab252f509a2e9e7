/-
# Deploy.Placement -- what a schedule is

`Schedule` of `internal/scheduler/scheduler.go`, in full.  `schedule_correct` says when it
succeeds and what it then returns: one assignment for each replica, on different eligible servers,
none of which stands behind a server that was left out.  `placement_iff` says that the order of
the candidates is of no concern, and when the servers of the pinned strategy are the first of the
pin list: a repeated id counts at its last place.  `constraints_iff` says when the tag constraints
mean what they say: a blank value matches a tag that is not there.
-/
import Nixway.Deploy.Schedule
import Nixway.Theory.Ranked
import Mathlib.Data.List.Induction
import Mathlib.Data.Prod.Lex
import Mathlib.Data.String.Basic

namespace Nixway.Deploy.Scheduler

open Nixway.Theory Nixway.Store

set_option autoImplicit false

/-! ## Eligible servers -/

/-- The server may take a replica. -/
structure Eligible (req : Requirements) (candidate : Candidate) : Prop where
  online : candidate.status = "online"
  pinned : req.effective = "pinned" → candidate.serverID ∈ req.pinnedServerIDs
  constraints : matchesConstraints candidate.tags req.constraints = true
  memory : 0 < req.memoryLimitMB → candidate.hasMemoryData = true →
    req.memoryLimitMB * 1024 * 1024 ≤ candidate.memoryAvailable
  cpu : 0 < req.cpuLimitMillicores → candidate.hasCPUData = true →
    req.cpuLimitMillicores ≤ candidate.cpuCapacity.toInt

variable {req : Requirements} {candidates : List Candidate}

theorem rejection_isNone_iff (req : Requirements) (candidate : Candidate) :
    (rejection req candidate).isNone = true ↔ Eligible req candidate := by
  unfold rejection
  constructor
  · intro accepted
    split at accepted
    · cases accepted
    split at accepted
    · cases accepted
    split at accepted
    · cases accepted
    split at accepted
    · cases accepted
    split at accepted
    · cases accepted
    next online pinned constraints memory cpu =>
    refine ⟨not_not.mp online, ?_, ?_, ?_, ?_⟩
    · intro strategy
      by_contra other
      exact pinned ⟨strategy, other⟩
    · simpa using constraints
    · intro limited known
      by_contra short
      exact memory ⟨limited, known, Int.not_le.mp short⟩
    · intro limited known
      by_contra short
      exact cpu ⟨limited, known, Int.not_le.mp short⟩
  · rintro ⟨online, pinned, constraints, memory, cpu⟩
    rw [if_neg (not_not.mpr online), if_neg fun left => left.2 (pinned left.1),
      if_neg (by simp [constraints]),
      if_neg fun left => Int.not_le.mpr left.2.2 (memory left.1 left.2.1),
      if_neg fun left => Int.not_le.mpr left.2.2 (cpu left.1 left.2.1)]
    rfl

instance (req : Requirements) (candidate : Candidate) : Decidable (Eligible req candidate) :=
  decidable_of_iff _ (rejection_isNone_iff req candidate)

theorem length_eligible (req : Requirements) (candidates : List Candidate) :
    (eligible req candidates).length = candidates.countP fun c => Eligible req c := by
  rw [eligible, ← List.countP_eq_length_filter]
  exact List.countP_congr fun c _ => by rw [rejection_isNone_iff, decide_eq_true_iff]

theorem mem_eligible {candidate : Candidate} :
    candidate ∈ eligible req candidates ↔ candidate ∈ candidates ∧ Eligible req candidate := by
  rw [eligible, List.mem_filter, rejection_isNone_iff]

/-! ## The ranks of the strategies -/

/-- Fewer replicas first, then by name. -/
def spreadRank (candidate : Candidate) : Int ×ₗ String :=
  toLex (candidate.runningReplicas.toInt, candidate.serverName)

/-- More replicas first, then by name. -/
def binpackRank (candidate : Candidate) : Int ×ₗ String :=
  toLex (-candidate.runningReplicas.toInt, candidate.serverName)

/-- By the last place in the pin list. -/
def pinnedRank (ids : List UUID) (candidate : Candidate) : Nat := pinnedOrder ids candidate.serverID

theorem spread_byRank : Ranked.ByRank spreadLess spreadRank := by
  intro a b
  rw [spreadLess, spreadRank, spreadRank, Prod.Lex.toLex_lt_toLex]
  split
  · next same => simp [same]
  · next other =>
    have apart : a.runningReplicas.toInt ≠ b.runningReplicas.toInt := fun same =>
      other (Int32.toInt_inj.mp same)
    simp [apart, Int32.lt_iff_toInt_lt]

theorem binpack_byRank : Ranked.ByRank binpackLess binpackRank := by
  intro a b
  rw [binpackLess, binpackRank, binpackRank, Prod.Lex.toLex_lt_toLex]
  split
  · next same => simp [same]
  · next other =>
    have apart : a.runningReplicas.toInt ≠ b.runningReplicas.toInt := fun same =>
      other (Int32.toInt_inj.mp same)
    simp [apart, Int32.lt_iff_toInt_lt]

theorem pinned_byRank (ids : List UUID) : Ranked.ByRank (pinnedLess ids) (pinnedRank ids) := by
  intro a b
  exact decide_eq_true_iff

/-! ## What is returned -/

/-- A schedule that succeeds is the front of the sorted eligible servers. -/
theorem schedule_ok_eq {assignments : List Assignment}
    (placed : schedule req candidates = .ok assignments) :
    ∃ sorted, ordered req (eligible req candidates) = some sorted ∧
      assignments = (sorted.take req.replicas.toInt.toNat).map (assignment req) := by
  unfold schedule at placed
  dsimp only at placed
  split at placed
  · cases placed
  split at placed
  · cases placed
  split at placed
  · cases placed
  split at placed
  · cases placed
  next sorted found =>
  exact ⟨sorted, found, (Except.ok.inj placed).symm⟩

theorem ordered_perm {l sorted : List Candidate} (found : ordered req l = some sorted) :
    sorted.Perm l := by
  unfold ordered at found
  split at found
  · exact Option.some.inj found ▸ Ranked.stable_perm spreadLess l
  · exact Option.some.inj found ▸ Ranked.stable_perm binpackLess l
  · exact Option.some.inj found ▸ Ranked.stable_perm (pinnedLess req.pinnedServerIDs) l
  · cases found

theorem ordered_spread (spread : req.effective = "spread") (l : List Candidate) :
    ordered req l = some (Ranked.stable spreadLess l) := by
  rw [ordered, spread]
  rfl

theorem ordered_binpack (binpack : req.effective = "binpack") (l : List Candidate) :
    ordered req l = some (Ranked.stable binpackLess l) := by
  rw [ordered, binpack]
  rfl

theorem ordered_pinned (pinned : req.effective = "pinned") (l : List Candidate) :
    ordered req l = some (Ranked.stable (pinnedLess req.pinnedServerIDs) l) := by
  rw [ordered, pinned]
  rfl

/-- No eligible server that was left out precedes one that was chosen. -/
def NonePrecedes (req : Requirements) (candidates : List Candidate) (assignments : List Assignment)
    (precedes : Candidate → Candidate → Prop) : Prop :=
  ∀ left ∈ candidates, Eligible req left → left.serverID ∉ assignments.map Assignment.serverID →
    ∀ chosen ∈ candidates, chosen.serverID ∈ assignments.map Assignment.serverID →
      ¬ precedes left chosen

/-- A placement: one assignment for each replica, on different eligible servers, and the best of
them for the strategies that have an order of their own. -/
structure Placed (req : Requirements) (candidates : List Candidate)
    (assignments : List Assignment) : Prop where
  count : (assignments.length : Int) = req.replicas.toInt
  distinct : (assignments.map Assignment.serverID).Nodup
  servers : ∀ a ∈ assignments, ∃ c ∈ candidates, Eligible req c ∧ a = assignment req c
  spread : req.effective = "spread" → NonePrecedes req candidates assignments fun left chosen =>
    left.runningReplicas < chosen.runningReplicas ∨
      left.runningReplicas = chosen.runningReplicas ∧ left.serverName < chosen.serverName
  binpack : req.effective = "binpack" → NonePrecedes req candidates assignments fun left chosen =>
    chosen.runningReplicas < left.runningReplicas ∨
      left.runningReplicas = chosen.runningReplicas ∧ left.serverName < chosen.serverName

theorem assignment_serverID (req : Requirements) (l : List Candidate) :
    (l.map (assignment req)).map Assignment.serverID = l.map Candidate.serverID := by
  rw [List.map_map]
  rfl

/-- Of servers with different ids the one with the id of a chosen one is chosen. -/
theorem chosen_of_serverID (distinct : (candidates.map Candidate.serverID).Nodup)
    {chosen : List Candidate} (inside : ∀ c ∈ chosen, c ∈ candidates) {c : Candidate}
    (here : c ∈ candidates) (id : c.serverID ∈ chosen.map Candidate.serverID) : c ∈ chosen := by
  obtain ⟨c', chosen', same⟩ := List.mem_map.mp id
  rwa [← List.inj_on_of_nodup_map distinct (inside c' chosen') here same]

theorem nonePrecedes_of_rank {κ : Type} [LinearOrder κ] {less : Candidate → Candidate → Bool}
    {rank : Candidate → κ} (byRank : Ranked.ByRank less rank)
    (distinct : (candidates.map Candidate.serverID).Nodup) (n : Nat) :
    NonePrecedes req candidates
      (((Ranked.stable less (eligible req candidates)).take n).map (assignment req))
      fun left chosen => less left chosen = true := by
  intro left inLeft able out chosen inChosen picked before
  rw [assignment_serverID] at out picked
  have inside : ∀ c ∈ (Ranked.stable less (eligible req candidates)).take n, c ∈ candidates := by
    intro c taken
    exact (mem_eligible.mp ((Ranked.stable_perm less _).mem_iff.mp (List.mem_of_mem_take taken))).1
  have taken := chosen_of_serverID distinct inside inChosen picked
  have notTaken : left ∉ (Ranked.stable less (eligible req candidates)).take n := fun taken =>
    out (List.mem_map_of_mem taken)
  have le := Ranked.rank_le_of_left byRank taken (mem_eligible.mpr ⟨inLeft, able⟩) notTaken
  exact absurd ((byRank left chosen).mp before) le.not_gt

theorem spreadLess_iff (a b : Candidate) :
    spreadLess a b = true ↔ a.runningReplicas < b.runningReplicas ∨
      a.runningReplicas = b.runningReplicas ∧ a.serverName < b.serverName := by
  unfold spreadLess
  split
  · next same => simp [same, Int32.lt_irrefl]
  · next other => simp [other]

theorem binpackLess_iff (a b : Candidate) :
    binpackLess a b = true ↔ b.runningReplicas < a.runningReplicas ∨
      a.runningReplicas = b.runningReplicas ∧ a.serverName < b.serverName := by
  unfold binpackLess
  split
  · next same => simp [same, Int32.lt_irrefl]
  · next other => simp [other]

/-- **What a schedule returns.** -/
theorem placed_of_ok (distinct : (candidates.map Candidate.serverID).Nodup)
    {assignments : List Assignment} (placed : schedule req candidates = .ok assignments) :
    Placed req candidates assignments := by
  obtain ⟨sorted, found, rfl⟩ := schedule_ok_eq placed
  have perm := ordered_perm found
  refine ⟨length_schedule placed, ?_, ?_, ?_, ?_⟩
  · rw [assignment_serverID, List.map_take]
    have nodup : ((eligible req candidates).map Candidate.serverID).Nodup :=
      distinct.sublist (List.filter_sublist.map _)
    exact ((perm.map Candidate.serverID).nodup_iff.mpr nodup).sublist (List.take_sublist _ _)
  · intro a member
    obtain ⟨c, taken, rfl⟩ := List.mem_map.mp member
    obtain ⟨inside, able⟩ := mem_eligible.mp (perm.mem_iff.mp (List.mem_of_mem_take taken))
    exact ⟨c, inside, able, rfl⟩
  · intro spread
    rw [ordered_spread spread] at found
    rw [← Option.some.inj found]
    simp only [← spreadLess_iff]
    exact nonePrecedes_of_rank spread_byRank distinct _
  · intro binpack
    rw [ordered_binpack binpack] at found
    rw [← Option.some.inj found]
    simp only [← binpackLess_iff]
    exact nonePrecedes_of_rank binpack_byRank distinct _

theorem known_iff (req : Requirements) :
    (PlacementStrategy.ofText req.effective).isSome ↔
      req.strategy ∈ ["", "spread", "binpack", "pinned"] := by
  unfold Requirements.effective
  split
  · next blank => simp [blank, PlacementStrategy.ofText]
  · next other =>
    unfold PlacementStrategy.ofText
    split <;> simp_all

/-- **A schedule is correct.**  It succeeds for a positive count, a known strategy and enough
eligible servers, and what it returns is a placement. -/
theorem schedule_correct (req : Requirements) (candidates : List Candidate)
    (distinct : (candidates.map Candidate.serverID).Nodup) :
    ((∃ assignments, schedule req candidates = .ok assignments) ↔
      0 < req.replicas ∧ req.strategy ∈ ["", "spread", "binpack", "pinned"] ∧
        req.replicas.toInt ≤ candidates.countP fun c => Eligible req c) ∧
    ∀ assignments, schedule req candidates = .ok assignments →
      Placed req candidates assignments := by
  refine ⟨?_, fun assignments placed => placed_of_ok distinct placed⟩
  rw [schedule_isOk_iff, known_iff, length_eligible, ← replicas_pos_iff, Int32.not_le]
  exact and_congr_right fun _ => and_comm

def threeServers : List Candidate :=
  [{ serverID := 1, serverName := "a", runningReplicas := 2 },
   { serverID := 2, serverName := "b", hasMemoryData := true, memoryAvailable := 1024 },
   { serverID := 3, serverName := "c", runningReplicas := 1 }]

def twoReplicas (strategy : String) (pinned : List UUID) : Requirements :=
  { replicas := 2, strategy := strategy, pinnedServerIDs := pinned, memoryLimitMB := 64 }

theorem two_of_three_placed :
    Placed (twoReplicas "" []) threeServers
      [⟨3, "c", 1, "spread selected c with 1 running replicas"⟩,
        ⟨1, "a", 1, "spread selected a with 2 running replicas"⟩] :=
  (schedule_correct (twoReplicas "" []) threeServers (by decide)).2 _ (by rfl)

/-! ## The order of the candidates -/

section Pins

variable {ids : List UUID} {a b : UUID}

theorem pinnedOrder_concat (ids : List UUID) (x id : UUID) :
    pinnedOrder (ids ++ [x]) id = if x = id then ids.length else pinnedOrder ids id := by
  simp [pinnedOrder, List.zipIdx_append]

theorem pinnedOrder_cons (x : UUID) (ids : List UUID) (id : UUID) :
    pinnedOrder (x :: ids) id = if id ∈ ids then pinnedOrder ids id + 1 else 0 := by
  induction ids using List.reverseRecOn with
  | nil => simp [pinnedOrder]
  | append_singleton ids y ih =>
    rw [← List.cons_append, pinnedOrder_concat, pinnedOrder_concat, ih, List.length_cons]
    by_cases same : y = id
    · simp [same]
    · simp [same, Ne.symm same]

theorem pinnedOrder_inj (inA : a ∈ ids) (inB : b ∈ ids)
    (same : pinnedOrder ids a = pinnedOrder ids b) : a = b := by
  induction ids with
  | nil => cases inA
  | cons x ids ih =>
    rw [pinnedOrder_cons, pinnedOrder_cons] at same
    by_cases laterA : a ∈ ids
    · by_cases laterB : b ∈ ids
      · rw [if_pos laterA, if_pos laterB] at same
        exact ih laterA laterB (Nat.succ_inj.mp same)
      · rw [if_pos laterA, if_neg laterB] at same
        cases same
    · by_cases laterB : b ∈ ids
      · rw [if_neg laterA, if_pos laterB] at same
        cases same
      · rw [(List.mem_cons.mp inA).resolve_right laterA,
          (List.mem_cons.mp inB).resolve_right laterB]

theorem dedup_sorted (ids : List UUID) :
    ids.dedup.Pairwise fun a b => pinnedOrder ids a < pinnedOrder ids b := by
  induction ids with
  | nil => exact List.Pairwise.nil
  | cons x ids ih =>
    have moved : ids.dedup.Pairwise fun a b =>
        pinnedOrder (x :: ids) a < pinnedOrder (x :: ids) b := by
      refine ih.imp_of_mem fun {a b} inA inB before => ?_
      rw [pinnedOrder_cons, pinnedOrder_cons, if_pos (List.mem_dedup.mp inA),
        if_pos (List.mem_dedup.mp inB)]
      exact Nat.succ_lt_succ before
    by_cases later : x ∈ ids
    · rwa [List.dedup_cons_of_mem later]
    · rw [List.dedup_cons_of_notMem later]
      refine List.pairwise_cons.mpr ⟨fun b inB => ?_, moved⟩
      rw [pinnedOrder_cons, pinnedOrder_cons, if_neg later, if_pos (List.mem_dedup.mp inB)]
      exact Nat.succ_pos _

end Pins

section Permuted

variable {candidates' : List Candidate}

theorem rejectionSummary_perm {reasons reasons' : List String} (perm : reasons.Perm reasons') :
    rejectionSummary reasons = rejectionSummary reasons' := by
  have keys : reasons.dedup.insertionSort (· ≤ ·) = reasons'.dedup.insertionSort (· ≤ ·) := by
    refine List.Perm.eq_of_pairwise (fun a b _ _ le ge => le_antisymm le ge)
      (List.pairwise_insertionSort _ _) (List.pairwise_insertionSort _ _) ?_
    exact ((List.perm_insertionSort _ _).trans perm.dedup).trans (List.perm_insertionSort _ _).symm
  unfold rejectionSummary
  by_cases empty : reasons = []
  · rw [if_pos empty, if_pos (by rw [empty] at perm; exact perm.nil_eq.symm)]
  · rw [if_neg empty, if_neg fun none => empty (by rw [none] at perm; exact perm.eq_nil)]
    dsimp only
    rw [keys]
    exact congrArg _ (List.map_congr_left fun key _ => by rw [perm.count_eq])

/-- Servers with different ids and names are sorted in one way. -/
theorem ordered_perm_eq (perm : (eligible req candidates).Perm (eligible req candidates'))
    (ids : (candidates.map Candidate.serverID).Nodup)
    (names : (candidates.map Candidate.serverName).Nodup) :
    ordered req (eligible req candidates) = ordered req (eligible req candidates') := by
  have inside : ∀ c ∈ eligible req candidates, c ∈ candidates := fun c member =>
    (mem_eligible.mp member).1
  have byName : ∀ a ∈ eligible req candidates, ∀ b ∈ eligible req candidates,
      a.serverName = b.serverName → a = b := fun a inA b inB same =>
    List.inj_on_of_nodup_map names (inside a inA) (inside b inB) same
  unfold ordered
  cases known : PlacementStrategy.ofText req.effective with
  | none => rfl
  | some strategy =>
    cases strategy with
    | spread =>
      refine congrArg some (Ranked.stable_eq_of_perm spread_byRank perm fun a inA b inB same => ?_)
      exact byName a inA b inB (congrArg Prod.snd (toLex_inj.mp same))
    | binpack =>
      refine congrArg some (Ranked.stable_eq_of_perm binpack_byRank perm fun a inA b inB same => ?_)
      exact byName a inA b inB (congrArg Prod.snd (toLex_inj.mp same))
    | pinned =>
      have pinned : req.effective = "pinned" := by
        unfold PlacementStrategy.ofText at known
        split at known <;> simp_all
      refine congrArg some (Ranked.stable_eq_of_perm (pinned_byRank _) perm fun a inA b inB same => ?_)
      have pin : ∀ c ∈ eligible req candidates, c.serverID ∈ req.pinnedServerIDs := fun c inC =>
        (mem_eligible.mp inC).2.pinned pinned
      exact List.inj_on_of_nodup_map ids (inside a inA) (inside b inB)
        (pinnedOrder_inj (pin a inA) (pin b inB) same)

/-- **The order of the candidates does not matter.** -/
theorem schedule_perm (perm : candidates.Perm candidates')
    (ids : (candidates.map Candidate.serverID).Nodup)
    (names : (candidates.map Candidate.serverName).Nodup) :
    schedule req candidates = schedule req candidates' := by
  have able : (eligible req candidates).Perm (eligible req candidates') := perm.filter _
  have empty : eligible req candidates = [] ↔ eligible req candidates' = [] :=
    ⟨fun none => (none ▸ able).nil_eq.symm, fun none => (none ▸ able).eq_nil⟩
  unfold schedule
  dsimp only
  rw [rejectionSummary_perm (perm.filterMap (rejection req)), able.length_eq,
    ordered_perm_eq able ids names]
  simp only [empty]

end Permuted

/-! ## The first of the pin list -/

/-- The eligible ids of a pin list. -/
def ablePins (req : Requirements) (candidates : List Candidate) (pins : List UUID) : List UUID :=
  pins.filter fun id => id ∈ (eligible req candidates).map Candidate.serverID

/-- The servers that the pinned strategy should choose: the first eligible ids of the pin list,
each id at its first place. -/
def firstPinned (req : Requirements) (candidates : List Candidate) : List UUID :=
  (ablePins req candidates req.pinnedServerIDs.eraseDups).take req.replicas.toInt.toNat

/-- The same with each id at its last place. -/
def lastPinned (req : Requirements) (candidates : List Candidate) : List UUID :=
  (ablePins req candidates req.pinnedServerIDs.dedup).take req.replicas.toInt.toNat

/-- The eligible servers of the pinned strategy stand at the last places of their ids. -/
theorem stable_pinned (pinned : req.effective = "pinned")
    (ids : (candidates.map Candidate.serverID).Nodup) :
    (Ranked.stable (pinnedLess req.pinnedServerIDs) (eligible req candidates)).map
        Candidate.serverID =
      ablePins req candidates req.pinnedServerIDs.dedup := by
  have perm := Ranked.stable_perm (pinnedLess req.pinnedServerIDs) (eligible req candidates)
  have pin : ∀ c ∈ eligible req candidates, c.serverID ∈ req.pinnedServerIDs := fun c inC =>
    (mem_eligible.mp inC).2.pinned pinned
  have nodup : ((eligible req candidates).map Candidate.serverID).Nodup :=
    ids.sublist (List.filter_sublist.map _)
  have same : ((Ranked.stable (pinnedLess req.pinnedServerIDs) (eligible req candidates)).map
      Candidate.serverID).Perm (ablePins req candidates req.pinnedServerIDs.dedup) := by
    refine (perm.map _).trans ((List.perm_ext_iff_of_nodup nodup
      ((List.nodup_dedup _).filter _)).mpr fun id => ?_)
    rw [List.mem_filter, List.mem_dedup, decide_eq_true_iff]
    constructor
    · intro able
      obtain ⟨c, inC, rfl⟩ := List.mem_map.mp able
      exact ⟨pin c inC, able⟩
    · exact And.right
  refine same.eq_of_pairwise ?_ (List.pairwise_map.mpr (Ranked.stable_sorted (pinned_byRank _) _))
    ((dedup_sorted req.pinnedServerIDs).filter _ |>.imp fun before => before.le)
  intro a b inA inB le ge
  have pinA : a ∈ req.pinnedServerIDs :=
    List.mem_dedup.mp (List.mem_of_mem_filter (same.mem_iff.mp inA))
  have pinB : b ∈ req.pinnedServerIDs := List.mem_dedup.mp (List.mem_of_mem_filter inB)
  exact pinnedOrder_inj pinA pinB (Nat.le_antisymm le ge)

/-- What the pinned strategy chooses. -/
theorem chosen_pinned (pinned : req.effective = "pinned")
    (ids : (candidates.map Candidate.serverID).Nodup) {assignments : List Assignment}
    (placed : schedule req candidates = .ok assignments) :
    assignments.map Assignment.serverID = lastPinned req candidates := by
  obtain ⟨sorted, found, rfl⟩ := schedule_ok_eq placed
  rw [ordered_pinned pinned] at found
  rw [assignment_serverID, List.map_take, ← Option.some.inj found, stable_pinned pinned ids]
  rfl

/-- The schedule does not depend on the order of the candidates, and the pinned strategy chooses
the first eligible servers of the pin list. -/
structure OrderFree (req : Requirements) (candidates candidates' : List Candidate) : Prop where
  same : schedule req candidates = schedule req candidates'
  pinned : req.effective = "pinned" → ∀ assignments,
    schedule req candidates = .ok assignments →
      assignments.map Assignment.serverID = firstPinned req candidates

/-- The eligible pins do not suffice, or the first of them are the same whether an id that is
repeated counts at its first or at its last place. -/
def PinsAgree (req : Requirements) (candidates : List Candidate) : Prop :=
  0 < req.replicas → req.replicas.toInt ≤ candidates.countP (fun c => Eligible req c) →
    lastPinned req candidates = firstPinned req candidates

/-- **When a placement is that of the pin list.** -/
theorem placement_iff (req : Requirements) (candidates candidates' : List Candidate)
    (perm : candidates.Perm candidates') (ids : (candidates.map Candidate.serverID).Nodup)
    (names : (candidates.map Candidate.serverName).Nodup) :
    OrderFree req candidates candidates' ↔
      (req.effective = "pinned" → PinsAgree req candidates) := by
  constructor
  · intro free pinned positive enough
    have known : req.strategy ∈ ["", "spread", "binpack", "pinned"] := by
      rw [← known_iff, pinned]
      rfl
    obtain ⟨assignments, placed⟩ :=
      (schedule_correct req candidates ids).1.mpr ⟨positive, known, enough⟩
    exact (chosen_pinned pinned ids placed).symm.trans (free.pinned pinned assignments placed)
  · intro agree
    refine ⟨schedule_perm perm ids names, fun pinned assignments placed => ?_⟩
    obtain ⟨positive, -, enough⟩ := (schedule_correct req candidates ids).1.mp ⟨assignments, placed⟩
    rw [chosen_pinned pinned ids placed, agree pinned positive enough]

def onePinned (pins : List UUID) : Requirements :=
  { replicas := 1, strategy := "pinned", pinnedServerIDs := pins }

/-- A pin list without a repeated id, and the servers in another order. -/
theorem pinned_in_order :
    OrderFree (onePinned [2, 1]) threeServers threeServers.reverse :=
  (placement_iff (onePinned [2, 1]) threeServers threeServers.reverse (List.reverse_perm _).symm
    (by decide) (by decide)).mpr fun _ _ _ => by decide +kernel

/-- The second server is chosen where the list names the first one first. -/
theorem repeated_pin_moves_back :
    schedule (onePinned [1, 2, 1]) threeServers =
        .ok [⟨2, "b", 1, "pinned placement selected b"⟩] ∧
      ¬ OrderFree (onePinned [1, 2, 1]) threeServers threeServers := by
  have placed : schedule (onePinned [1, 2, 1]) threeServers =
      .ok [⟨2, "b", 1, "pinned placement selected b"⟩] := by rfl
  refine ⟨placed, fun free => ?_⟩
  have chosen := free.pinned rfl _ placed
  revert chosen
  decide +kernel

/-! ## Tag constraints -/

/-- The server carries the tag with this value. -/
def Carries (tags : List (String × String)) (entry : String × String) : Prop :=
  (tags.find? fun tag => tag.1 = entry.1).map Prod.snd = some entry.2

/-- The entry has no value, and its tag is not there. -/
def Blank (tags : List (String × String)) (entry : String × String) : Prop :=
  entry.2 = "" ∧ tags.find? (fun tag => tag.1 = entry.1) = none

instance (tags : List (String × String)) (entry : String × String) : Decidable (Carries tags entry) :=
  inferInstanceAs (Decidable (_ = _))

instance (tags : List (String × String)) (entry : String × String) : Decidable (Blank tags entry) :=
  inferInstanceAs (Decidable (_ ∧ _))

/-- What the constraints say. -/
structure Meant (tags : List (String × String)) (constraints : Constraints) : Prop where
  mustHave : ∀ entry ∈ constraints.mustHave, Carries tags entry
  mustNotHave : ∀ entry ∈ constraints.mustNotHave, ¬ Carries tags entry

/-- A tag that is not there reads as the empty text. -/
theorem tagValue_eq_iff (tags : List (String × String)) (entry : String × String) :
    tagValue tags entry.1 = entry.2 ↔ Carries tags entry ∨ Blank tags entry := by
  unfold tagValue Carries Blank
  cases tags.find? fun tag => tag.1 = entry.1 with
  | none => simp
  | some tag => simp

theorem not_carries_of_blank {tags : List (String × String)} {entry : String × String}
    (blank : Blank tags entry) : ¬ Carries tags entry := by
  rw [Carries, blank.2]
  exact nofun

theorem matchesConstraints_iff (tags : List (String × String)) (constraints : Constraints) :
    matchesConstraints tags constraints = true ↔
      (∀ entry ∈ constraints.mustHave, Carries tags entry ∨ Blank tags entry) ∧
        ∀ entry ∈ constraints.mustNotHave, ¬ (Carries tags entry ∨ Blank tags entry) := by
  simp only [matchesConstraints, Bool.and_eq_true, List.all_eq_true, decide_eq_true_iff,
    ← tagValue_eq_iff, ne_eq]

/-- Another entry decides, or a blank entry is in both maps or in none. -/
def Decided (tags : List (String × String)) (constraints : Constraints) : Prop :=
  (∃ entry ∈ constraints.mustHave, ¬ Carries tags entry ∧ ¬ Blank tags entry) ∨
    (∃ entry ∈ constraints.mustNotHave, Carries tags entry) ∨
    ((∃ entry ∈ constraints.mustHave, Blank tags entry) ↔
      ∃ entry ∈ constraints.mustNotHave, Blank tags entry)

/-- **When the tag constraints mean what they say.** -/
theorem constraints_iff (tags : List (String × String)) (constraints : Constraints) :
    (matchesConstraints tags constraints = true ↔ Meant tags constraints) ↔
      Decided tags constraints := by
  rw [matchesConstraints_iff]
  have carried : ∀ entry, Blank tags entry → ¬ Carries tags entry := fun _ => not_carries_of_blank
  constructor
  · intro same
    by_contra undecided
    simp only [Decided, not_or, not_exists, not_and, not_not] at undecided
    obtain ⟨lacking, excluded, differ⟩ := undecided
    have wanted : ∀ entry ∈ constraints.mustHave, Carries tags entry ∨ Blank tags entry := by
      intro entry member
      by_cases carries : Carries tags entry
      · exact .inl carries
      · exact .inr (lacking entry member carries)
    refine differ ⟨?_, ?_⟩
    · rintro ⟨entry, member, blank⟩
      -- the server matches, though it does not carry the tag
      by_contra none
      have matched := same.mp ⟨wanted, fun other inMap => by
        rintro (carries | blank')
        · exact excluded other inMap carries
        · exact none ⟨other, inMap, blank'⟩⟩
      exact carried entry blank (matched.mustHave entry member)
    · rintro ⟨entry, member, blank⟩
      -- the server does not match, though it does not carry the tag
      by_contra none
      have meant : Meant tags constraints := by
        refine ⟨fun other inMap => ?_, excluded⟩
        exact (wanted other inMap).resolve_right fun blank' => none ⟨other, inMap, blank'⟩
      exact (same.mpr meant).2 entry member (.inr blank)
  · rintro (⟨entry, member, lacks, filled⟩ | ⟨entry, member, carries⟩ | both)
    · refine iff_of_false (fun matched => ?_) fun meant => lacks (meant.mustHave entry member)
      exact (matched.1 entry member).elim lacks filled
    · refine iff_of_false (fun matched => ?_) fun meant => meant.mustNotHave entry member carries
      exact matched.2 entry member (.inl carries)
    · constructor
      · rintro ⟨wanted, excluded⟩
        refine ⟨fun entry member => ?_, fun entry member carries =>
          excluded entry member (.inl carries)⟩
        refine (wanted entry member).resolve_right fun blank => ?_
        obtain ⟨other, inMap, blank'⟩ := both.mp ⟨entry, member, blank⟩
        exact excluded other inMap (.inr blank')
      · rintro ⟨wanted, excluded⟩
        refine ⟨fun entry member => .inl (wanted entry member), fun entry member => ?_⟩
        rintro (carries | blank)
        · exact excluded entry member carries
        · obtain ⟨other, inMap, blank'⟩ := both.mpr ⟨entry, member, blank⟩
          exact carried other blank' (wanted other inMap)

/-- A server without tags is chosen for a tag with an empty value, and left out for it. -/
theorem blank_value_matches_absent_tag :
    (matchesConstraints [] { mustHave := [("gpu", "")] } = true ∧
        ¬ Meant [] { mustHave := [("gpu", "")] }) ∧
      matchesConstraints [] { mustNotHave := [("gpu", "")] } = false ∧
        Meant [] { mustNotHave := [("gpu", "")] } := by
  refine ⟨⟨by decide, fun meant => ?_⟩, by decide, ?_⟩
  · exact absurd (meant.mustHave ("gpu", "") List.mem_cons_self) (by decide)
  · exact ⟨fun _ member => (nomatch member), by decide⟩

end Nixway.Deploy.Scheduler
