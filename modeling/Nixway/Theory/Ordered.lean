/-
# Theory.Ordered -- commands whose writes are done by handlers of their own

A command is a list of writes to cells.  Each command received starts a handler that does its
writes one at a time, and the handlers run beside each other.  `inOrder` is the condition on a
step: no later command has written the cell already.  Along runs that meet it the cells end as
if the commands had been carried out one after the other (`settled`), and a write that is done
is only ever replaced by one of a later command (`done_or_later`).
-/
import Nixway.Theory.Crew
import Mathlib.Data.List.Induction

namespace Nixway.Theory.Ordered

set_option autoImplicit false

universe u v w

variable {ι : Type u} {β : Type v} {γ : Type w} [DecidableEq ι]

/-- The cells, the commands received, and for each cell the number of the command that wrote
it last. -/
structure Cells (ι : Type u) (β : Type v) (γ : Type w) where
  value : ι → β
  wrote : ι → Option Nat := fun _ => none
  received : List γ := []

structure Job (ι : Type u) (β : Type v) where
  number : Nat
  todo : List (ι × β)

def Cells.write (c : Cells ι β γ) (number : Nat) (cell : ι) (value : β) : Cells ι β γ :=
  { c with
    value := Function.update c.value cell value
    wrote := Function.update c.wrote cell (some number) }

/-- The handler of a command does its writes in turn. -/
def machine (writes : γ → List (ι × β)) :
    Machine (Cells ι β γ) (Job ι β) γ Unit Empty where
  start cmd c := ({ c with received := c.received ++ [cmd] }, [⟨c.received.length, writes cmd⟩])
  turn job _ c :=
    match job.todo with
    | [] => (c, [])
    | (cell, value) :: rest => (c.write job.number cell value, [⟨job.number, rest⟩])
  outside e _ := e.elim

def carry (writes : γ → List (ι × β)) (value : ι → β) (cmd : γ) : ι → β :=
  (writes cmd).foldl (fun value entry => Function.update value entry.1 entry.2) value

def sequential (writes : γ → List (ι × β)) (value : ι → β) (received : List γ) : ι → β :=
  received.foldl (carry writes) value

def commands : List (Move γ Unit Empty) → List γ :=
  List.filterMap fun
    | .command cmd => some cmd
    | _ => none

/-- The next write of the job is to a cell no later command has written. -/
def Job.mayWrite (c : Cells ι β γ) (job : Job ι β) : Bool :=
  match job.todo with
  | [] => true
  | (cell, _) :: _ => (c.wrote cell).all fun m => m ≤ job.number

/-- **The condition.**  A handler writes a cell before the handlers of later commands do. -/
def inOrder (c : Crew (Cells ι β γ) (Job ι β)) : Move γ Unit Empty → Bool
  | .turn i _ => c.handlers[i]?.all (Job.mayWrite c.shared)
  | _ => true

/-! ## Carrying out commands -/

section Sequential

variable {writes : γ → List (ι × β)} {value : ι → β} {cmd : γ} {cell : ι}

theorem foldl_of_notMem (entries : List (ι × β)) (spared : ∀ entry ∈ entries, entry.1 ≠ cell) :
    entries.foldl (fun value entry => Function.update value entry.1 entry.2) value cell =
      value cell := by
  induction entries generalizing value with
  | nil => rfl
  | cons entry rest ih =>
    rw [List.foldl_cons, ih fun other member => spared other (List.mem_cons_of_mem _ member)]
    exact Function.update_of_ne (spared entry List.mem_cons_self).symm _ _

theorem foldl_of_mem {entries : List (ι × β)} {entry : ι × β}
    (once : (entries.map Prod.fst).Nodup) (member : entry ∈ entries) :
    entries.foldl (fun value entry => Function.update value entry.1 entry.2) value entry.1 =
      entry.2 := by
  induction entries generalizing value with
  | nil => cases member
  | cons first rest ih =>
    rw [List.map_cons, List.nodup_cons] at once
    rw [List.foldl_cons]
    rcases List.mem_cons.mp member with rfl | later
    · rw [foldl_of_notMem rest fun other member same =>
        once.1 (List.mem_map.mpr ⟨other, member, same⟩)]
      exact Function.update_self _ _ _
    · exact ih once.2 later

/-- A cell holds what the last command that writes it writes. -/
theorem sequential_of_last (once : ∀ cmd, ((writes cmd).map Prod.fst).Nodup) {received : List γ}
    {m : Nat} {entry : ι × β} (found : received[m]? = some cmd) (member : entry ∈ writes cmd)
    (last : ∀ (m' : Nat) (cmd' : γ), received[m']? = some cmd' →
      ∀ other ∈ writes cmd', other.1 = entry.1 → m' ≤ m) :
    sequential writes value received entry.1 = entry.2 := by
  induction received using List.reverseRecOn with
  | nil => cases found
  | append_singleton earlier final ih =>
    rw [sequential, List.foldl_append, List.foldl_cons, List.foldl_nil]
    have there : (earlier ++ [final])[earlier.length]? = some final := by simp
    by_cases newest : m = earlier.length
    · subst newest
      obtain rfl : final = cmd := Option.some.inj (there.symm.trans found)
      exact foldl_of_mem (once final) member
    · have bound : m < (earlier ++ [final]).length := (List.getElem?_eq_some_iff.mp found).1
      have inside : m < earlier.length := by
        rw [List.length_append, List.length_singleton] at bound
        omega
      rw [carry, foldl_of_notMem _ fun other writes same =>
        absurd (last _ final there other writes same) (by omega)]
      refine ih (by rwa [List.getElem?_append_left inside] at found) ?_
      intro m' cmd' found' other writes same
      have inside' : m' < earlier.length := (List.getElem?_eq_some_iff.mp found').1
      exact last m' cmd' (by rwa [List.getElem?_append_left inside']) other writes same

/-- A cell no command writes keeps its value. -/
theorem sequential_of_notMem {received : List γ}
    (spared : ∀ cmd ∈ received, ∀ entry ∈ writes cmd, entry.1 ≠ cell) :
    sequential writes value received cell = value cell := by
  induction received generalizing value with
  | nil => rfl
  | cons cmd rest ih =>
    rw [sequential, List.foldl_cons]
    have kept : sequential writes (carry writes value cmd) rest cell =
        carry writes value cmd cell :=
      ih fun other member => spared other (List.mem_cons_of_mem _ member)
    exact kept.trans (foldl_of_notMem _ (spared cmd List.mem_cons_self))

end Sequential

/-! ## Runs -/

/-- What is known of the cells and the jobs along an ordered run. -/
structure Tracked (writes : γ → List (ι × β)) (start : ι → β)
    (c : Crew (Cells ι β γ) (Job ι β)) : Prop where
  untouched : ∀ cell, c.shared.wrote cell = none → c.shared.value cell = start cell
  source : ∀ cell m, c.shared.wrote cell = some m → ∃ cmd, c.shared.received[m]? = some cmd ∧
    (cell, c.shared.value cell) ∈ writes cmd
  running : ∀ job ∈ c.handlers, ∃ cmd, c.shared.received[job.number]? = some cmd ∧
    ∀ entry ∈ job.todo, entry ∈ writes cmd
  /-- Every write is still to be done, or its cell was written by its command or a later one. -/
  accounted : ∀ (m : Nat) (cmd : γ), c.shared.received[m]? = some cmd → ∀ entry ∈ writes cmd,
    (∃ job ∈ c.handlers, job.number = m ∧ entry ∈ job.todo) ∨
      ∃ m', c.shared.wrote entry.1 = some m' ∧ m ≤ m'

namespace Tracked

variable {writes : γ → List (ι × β)} {start : ι → β} {c : Crew (Cells ι β γ) (Job ι β)}

omit [DecidableEq ι] in
theorem init (writes : γ → List (ι × β)) (start : ι → β) :
    Tracked writes start ⟨{ value := start }, []⟩ where
  untouched _ _ := rfl
  source _ _ written := by cases written
  running _ member := by cases member
  accounted _ _ found := by cases found

theorem command (tracked : Tracked writes start c) (cmd : γ) :
    Tracked writes start (c.step (machine writes) (.command cmd)) := by
  have old : ∀ {m : Nat} {cmd' : γ}, c.shared.received[m]? = some cmd' →
      (c.shared.received ++ [cmd])[m]? = some cmd' := by
    intro m cmd' found
    rw [List.getElem?_append_left (List.getElem?_eq_some_iff.mp found).1]
    exact found
  refine ⟨tracked.untouched, fun cell m written => ?_, fun job member => ?_, ?_⟩
  · obtain ⟨cmd', found, entry⟩ := tracked.source cell m written
    exact ⟨cmd', old found, entry⟩
  · rcases List.mem_append.mp member with early | new
    · obtain ⟨cmd', found, todo⟩ := tracked.running job early
      exact ⟨cmd', old found, todo⟩
    · obtain rfl := List.mem_singleton.mp new
      exact ⟨cmd, by simp [Crew.step, machine], fun entry member => member⟩
  · intro m cmd' found entry member
    by_cases inside : m < c.shared.received.length
    · have found : c.shared.received[m]? = some cmd' := by
        rw [← found]
        exact (List.getElem?_append_left inside).symm
      rcases tracked.accounted m cmd' found entry member with ⟨job, running, todo⟩ | done
      · exact .inl ⟨job, List.mem_append_left _ running, todo⟩
      · exact .inr done
    · have bound := (List.getElem?_eq_some_iff.mp found).1
      rw [Crew.step, machine, List.length_append, List.length_singleton] at bound
      obtain rfl : m = c.shared.received.length := by omega
      have same : (c.shared.received ++ [cmd])[c.shared.received.length]? = some cmd := by simp
      obtain rfl : cmd = cmd' := Option.some.inj (same.symm.trans found)
      exact .inl ⟨⟨c.shared.received.length, writes cmd⟩,
        List.mem_append_right _ List.mem_cons_self, rfl, member⟩

omit [DecidableEq ι] in
theorem finish (tracked : Tracked writes start c) {i : Nat} {job : Job ι β}
    (found : c.handlers[i]? = some job) (done : job.todo = []) :
    Tracked writes start ⟨c.shared, Crew.replace c.handlers i []⟩ := by
  refine ⟨tracked.untouched, tracked.source, fun other member => ?_, ?_⟩
  · exact tracked.running other (List.mem_of_mem_eraseIdx
      ((Crew.mem_replace.mp member).resolve_left List.not_mem_nil))
  · intro m cmd received entry member
    rcases tracked.accounted m cmd received entry member with ⟨other, running, same, todo⟩ | wrote
    · refine .inl ⟨other, Crew.mem_replace.mpr (.inr ?_), same, todo⟩
      refine (Crew.eq_or_mem_eraseIdx found running).resolve_left ?_
      rintro rfl
      exact absurd (done ▸ todo) List.not_mem_nil
    · exact .inr wrote

theorem write (tracked : Tracked writes start c) {i : Nat} {job : Job ι β} {cell : ι} {value : β}
    {rest : List (ι × β)} (found : c.handlers[i]? = some job)
    (next : job.todo = (cell, value) :: rest)
    (meets : ∀ m, c.shared.wrote cell = some m → m ≤ job.number) :
    Tracked writes start ⟨c.shared.write job.number cell value,
      Crew.replace c.handlers i [⟨job.number, rest⟩]⟩ := by
  obtain ⟨cmd, received, todo⟩ := tracked.running job (List.mem_of_getElem? found)
  have mine : (cell, value) ∈ writes cmd := todo _ (next ▸ List.mem_cons_self)
  refine ⟨fun other wrote => ?_, fun other m wrote => ?_, fun other member => ?_, ?_⟩
  · have wrote : Function.update c.shared.wrote cell (some job.number) other = none := wrote
    by_cases same : other = cell
    · subst same
      rw [Function.update_self] at wrote
      cases wrote
    · rw [Function.update_of_ne same] at wrote
      exact (Function.update_of_ne same _ _).trans (tracked.untouched other wrote)
  · have wrote : Function.update c.shared.wrote cell (some job.number) other = some m := wrote
    by_cases same : other = cell
    · subst same
      rw [Function.update_self] at wrote
      obtain rfl := Option.some.inj wrote
      refine ⟨cmd, received, ?_⟩
      have now : (c.shared.write job.number other value).value other = value :=
        Function.update_self _ _ _
      rwa [now]
    · rw [Function.update_of_ne same] at wrote
      obtain ⟨cmd', received', entry⟩ := tracked.source other m wrote
      refine ⟨cmd', received', ?_⟩
      have kept : (c.shared.write job.number cell value).value other = c.shared.value other :=
        Function.update_of_ne same _ _
      rwa [kept]
  · rcases Crew.mem_replace.mp member with new | old
    · obtain rfl := List.mem_singleton.mp new
      exact ⟨cmd, received, fun entry later => todo entry (next ▸ List.mem_cons_of_mem _ later)⟩
    · exact tracked.running other (List.mem_of_mem_eraseIdx old)
  · intro m cmd' received' entry member
    -- a cell written by a later command stays so: the new number is not smaller
    have later : ∀ m', c.shared.wrote entry.1 = some m' → m ≤ m' →
        ∃ m', (c.shared.write job.number cell value).wrote entry.1 = some m' ∧ m ≤ m' := by
      intro m' wrote bound
      by_cases same : entry.1 = cell
      · refine ⟨job.number, ?_, Nat.le_trans bound (meets m' (same ▸ wrote))⟩
        rw [same]
        exact Function.update_self _ _ _
      · exact ⟨m', (Function.update_of_ne same _ _).trans wrote, bound⟩
    rcases tracked.accounted m cmd' received' entry member with ⟨other, running, number, left⟩ | done
    · rcases Crew.eq_or_mem_eraseIdx found running with rfl | elsewhere
      · rw [next] at left
        rcases List.mem_cons.mp left with rfl | left
        · exact .inr ⟨other.number, Function.update_self _ _ _,
            Nat.le_of_eq number.symm⟩
        · exact .inl ⟨⟨other.number, rest⟩, Crew.mem_replace.mpr (.inl List.mem_cons_self),
            number, left⟩
      · exact .inl ⟨other, Crew.mem_replace.mpr (.inr elsewhere), number, left⟩
    · obtain ⟨m', wrote, bound⟩ := done
      exact .inr (later m' wrote bound)

theorem turn (tracked : Tracked writes start c) {i : Nat} {o : Unit}
    (meets : inOrder c (.turn i o)) :
    Tracked writes start (c.step (machine writes) (.turn i o)) := by
  cases found : c.handlers[i]? with
  | none => simpa only [Crew.step, found] using tracked
  | some job =>
    rw [Crew.step_turn o found]
    have may : job.mayWrite c.shared = true := by
      simpa only [inOrder, found, Option.all_some] using meets
    obtain ⟨number, todo⟩ := job
    cases todo with
    | nil => exact tracked.finish found rfl
    | cons entry rest =>
      refine tracked.write found rfl fun m wrote => ?_
      simpa only [Job.mayWrite, wrote, Option.all_some, decide_eq_true_eq] using may

/-- The cells and the jobs along a run that is in order and never restarted. -/
theorem run (start : ι → β) {moves : List (Move γ Unit Empty)} (stays : .restart ∉ moves)
    (ordered : Runs.Along (Crew.step (machine writes)) (fun c move => inOrder c move = true)
      ⟨{ value := start }, []⟩ moves) :
    Tracked writes start (Crew.run (machine writes) ⟨{ value := start }, []⟩ moves) := by
  suffices run : ∀ c : Crew (Cells ι β γ) (Job ι β), Tracked writes start c →
      Runs.Along (Crew.step (machine writes)) (fun c move => inOrder c move = true) c moves →
      Tracked writes start (Crew.run (machine writes) c moves) from
    run _ (init writes start) ordered
  clear ordered
  induction moves with
  | nil => exact fun c tracked _ => tracked
  | cons move moves ih =>
    intro c tracked along
    refine ih (fun member => stays (List.mem_cons_of_mem _ member)) _ ?_ along.2
    cases move with
    | command cmd => exact tracked.command cmd
    | turn i o => exact tracked.turn along.1
    | restart => exact absurd List.mem_cons_self stays
    | outside e => exact e.elim

/-- Without jobs every write is replaced by one of a later command only. -/
theorem settled (tracked : Tracked writes start c)
    (once : ∀ cmd, ((writes cmd).map Prod.fst).Nodup) (quiet : c.handlers = []) :
    c.shared.value = sequential writes start c.shared.received := by
  have done : ∀ (m : Nat) (cmd : γ), c.shared.received[m]? = some cmd → ∀ entry ∈ writes cmd,
      ∃ m', c.shared.wrote entry.1 = some m' ∧ m ≤ m' := by
    intro m cmd received entry member
    refine (tracked.accounted m cmd received entry member).resolve_left ?_
    rintro ⟨job, running, -⟩
    exact absurd (quiet ▸ running) List.not_mem_nil
  funext cell
  cases wrote : c.shared.wrote cell with
  | none =>
    refine (tracked.untouched cell wrote).trans (sequential_of_notMem ?_).symm
    intro cmd member entry writes same
    obtain ⟨m, bound, found⟩ := List.getElem_of_mem member
    obtain ⟨m', later, -⟩ := done m cmd (List.getElem?_eq_some_iff.mpr ⟨bound, found⟩) entry writes
    rw [same, wrote] at later
    cases later
  | some m =>
    obtain ⟨cmd, received, entry⟩ := tracked.source cell m wrote
    refine (sequential_of_last once received entry ?_).symm
    intro m' cmd' received' other writes same
    obtain ⟨latest, later, bound⟩ := done m' cmd' received' other writes
    rw [same, wrote] at later
    exact Option.some.inj later ▸ bound

omit [DecidableEq ι] in
/-- A write that was done has been replaced, if at all, by one of a later command. -/
theorem done_or_later (tracked : Tracked writes start c) {m : Nat} {cmd : γ} {entry : ι × β}
    (received : c.shared.received[m]? = some cmd) (member : entry ∈ writes cmd)
    (done : ∀ job ∈ c.handlers, job.number = m → entry ∉ job.todo) :
    ∃ m' cmd', m ≤ m' ∧ c.shared.received[m']? = some cmd' ∧
      (entry.1, c.shared.value entry.1) ∈ writes cmd' := by
  rcases tracked.accounted m cmd received entry member with ⟨job, running, number, left⟩ | wrote
  · exact absurd left (done job running number)
  · obtain ⟨m', wrote, bound⟩ := wrote
    obtain ⟨cmd', received', source⟩ := tracked.source entry.1 m' wrote
    exact ⟨m', cmd', bound, received', source⟩

end Tracked

theorem received_run (writes : γ → List (ι × β)) (c : Crew (Cells ι β γ) (Job ι β))
    (moves : List (Move γ Unit Empty)) :
    (Crew.run (machine writes) c moves).shared.received = c.shared.received ++ commands moves := by
  induction moves generalizing c with
  | nil => exact (List.append_nil _).symm
  | cons move moves ih =>
    refine (ih (c.step (machine writes) move)).trans ?_
    cases move with
    | command cmd => exact List.append_assoc _ _ _
    | turn i o =>
      have kept : (c.step (machine writes) (.turn i o)).shared.received = c.shared.received := by
        cases found : c.handlers[i]? with
        | none => simp only [Crew.step, found]
        | some job =>
          rw [Crew.step_turn o found]
          obtain ⟨number, todo⟩ := job
          cases todo <;> rfl
      rw [kept]
      rfl
    | restart => rfl
    | outside e => exact e.elim

end Nixway.Theory.Ordered
