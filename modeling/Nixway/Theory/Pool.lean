/-
# Theory.Pool -- interleavings of programs over one store

A `Pool` is a store with the programs running beside each other on it.  A
scheduler picks a thread by its position; `Pool.advance` performs that thread's
next atomic step and starts the threads the step spawned (a function of the
store before and after, so that what starts a thread is visible in the store).
An execution is a list of picks, so "for every interleaving" is "for every
schedule", and `Pool.run` computes the pool it reaches.

Reasoning about the rest of a program as a term is awkward.  A `Flow` gives the
same program as a control-flow graph: a type of control points, each of which is
halted or has an effect and a successor.  `Flow.Presents` says that a graph is
exactly the code, and `Flow.run_coded` carries every schedule of the pool of
programs over to the same schedule of the pool of control points.
-/
import Nixway.Theory.Prog
import Mathlib.Data.List.Basic
import Mathlib.Data.List.Perm.Basic

namespace Nixway.Theory

set_option autoImplicit false

universe u v w

/-- A store and the programs running on it. -/
structure Pool (σ : Type u) where
  store : σ
  threads : List (Prog σ PUnit.{1})

/-- The threads a step starts, given the stores before and after it. -/
abbrev Spawn (σ : Type u) := σ → σ → List (Prog σ PUnit.{1})

namespace Pool

variable {σ : Type u}

/-- No step starts a thread. -/
def noSpawn : Spawn σ := fun _ _ => []

/-- One atomic step of the thread at position `i`; a thread that is done, or a
position that holds no thread, leaves the pool as it is. -/
def advance (spawn : Spawn σ) (c : Pool σ) (i : Nat) : Pool σ :=
  match c.threads[i]? with
  | some (.step effect next) =>
    ⟨effect c.store, c.threads.set i (next c.store) ++ spawn c.store (effect c.store)⟩
  | _ => c

/-- The pool a schedule reaches. -/
def run (spawn : Spawn σ) (c : Pool σ) (schedule : List Nat) : Pool σ :=
  schedule.foldl (advance spawn) c

/-- Every thread is done. -/
def Finished (c : Pool σ) : Prop := ∀ p ∈ c.threads, p.isDone = true

instance (c : Pool σ) : Decidable c.Finished := inferInstanceAs (Decidable (∀ _ ∈ _, _))

variable {spawn : Spawn σ}

@[simp] theorem run_nil (c : Pool σ) : c.run spawn [] = c := rfl

theorem run_cons (c : Pool σ) (i : Nat) (schedule : List Nat) :
    c.run spawn (i :: schedule) = (c.advance spawn i).run spawn schedule := rfl

theorem run_append (c : Pool σ) (first rest : List Nat) :
    c.run spawn (first ++ rest) = (c.run spawn first).run spawn rest :=
  List.foldl_append

theorem run_concat (c : Pool σ) (schedule : List Nat) (i : Nat) :
    c.run spawn (schedule ++ [i]) = (c.run spawn schedule).advance spawn i := by
  rw [run_append]; rfl

/-- What a pick does: nothing, or one step of the thread it names. -/
theorem advance_cases (spawn : Spawn σ) (c : Pool σ) (i : Nat) :
    c.advance spawn i = c ∨
      ∃ effect next, c.threads[i]? = some (.step effect next) ∧
        c.advance spawn i =
          ⟨effect c.store, c.threads.set i (next c.store) ++ spawn c.store (effect c.store)⟩ := by
  unfold advance
  split
  · rename_i effect next here
    exact .inr ⟨effect, next, here, rfl⟩
  · exact .inl rfl

/-! ## Every schedule can be completed -/

/-- Picking one thread often enough finishes it, and leaves the others alone. -/
theorem exists_finish_thread (c : Pool σ) (i : Nat) (p : Prog σ PUnit.{1})
    (here : c.threads[i]? = some p) :
    ∃ n, ∃ s, c.run noSpawn (List.replicate n i) = ⟨s, c.threads.set i (.done ⟨⟩)⟩ := by
  induction p generalizing c with
  | done a =>
    refine ⟨0, c.store, ?_⟩
    have same : c.threads.set i (.done ⟨⟩) = c.threads := by
      obtain ⟨bound, value⟩ := List.getElem?_eq_some_iff.mp here
      rw [← value, List.set_getElem_self]
    rw [same]
    rfl
  | step effect next ih =>
    obtain ⟨bound, -⟩ := List.getElem?_eq_some_iff.mp here
    have moved : c.advance noSpawn i = ⟨effect c.store, c.threads.set i (next c.store)⟩ := by
      simp only [advance, here, noSpawn, List.append_nil]
    obtain ⟨n, s, finished⟩ := ih c.store (c.advance noSpawn i) (by
      rw [moved, List.getElem?_set_self bound])
    refine ⟨n + 1, s, ?_⟩
    rw [List.replicate_succ, run_cons, finished, moved, List.set_set]

/-- From every pool some schedule finishes every thread. -/
theorem exists_finishing (c : Pool σ) : ∃ schedule, (c.run noSpawn schedule).Finished := by
  have upTo : ∀ k ≤ c.threads.length, ∃ schedule,
      (c.run noSpawn schedule).threads.length = c.threads.length ∧
      ∀ j < k, (c.run noSpawn schedule).threads[j]? = some (.done ⟨⟩) := by
    intro k
    induction k with
    | zero => exact fun _ => ⟨[], rfl, fun j hj => absurd hj (Nat.not_lt_zero j)⟩
    | succ k ih =>
      intro bound
      obtain ⟨schedule, length, finished⟩ := ih (Nat.le_of_succ_le bound)
      have inside : k < (c.run noSpawn schedule).threads.length := by omega
      obtain ⟨n, s, next⟩ := exists_finish_thread (c.run noSpawn schedule) k _
        (List.getElem?_eq_getElem inside)
      refine ⟨schedule ++ List.replicate n k, ?_, fun j hj => ?_⟩
      · rw [run_append, next, List.length_set, length]
      · rw [run_append, next]
        by_cases here : j = k
        · subst here
          exact List.getElem?_set_self inside
        · rw [List.getElem?_set_ne (Ne.symm here)]
          exact finished j (by omega)
  obtain ⟨schedule, length, finished⟩ := upTo c.threads.length (Nat.le_refl _)
  refine ⟨schedule, fun p hp => ?_⟩
  obtain ⟨j, inside, value⟩ := List.mem_iff_getElem.mp hp
  have atEnd := finished j (by omega)
  rw [List.getElem?_eq_getElem inside, value] at atEnd
  rw [Option.some.inj atEnd]
  rfl

end Pool

/-- What holds of every prefix holds of the empty one and behind the first element. -/
theorem forall_prefix_cons {α : Type u} {P : List α → Prop} {x : α} {xs : List α} :
    (∀ ys, ys <+: x :: xs → P ys) ↔ P [] ∧ ∀ ys, ys <+: xs → P (x :: ys) := by
  constructor
  · exact fun all => ⟨all [] List.nil_prefix,
      fun ys within => all (x :: ys) (List.cons_prefix_cons.mpr ⟨rfl, within⟩)⟩
  · rintro ⟨first, rest⟩ ys within
    cases ys with
    | nil => exact first
    | cons y ys =>
      obtain ⟨rfl, shorter⟩ := List.cons_prefix_cons.mp within
      exact rest ys shorter

theorem forall_prefix_nil {α : Type u} {P : List α → Prop} :
    (∀ ys, ys <+: ([] : List α) → P ys) ↔ P [] := by
  simp only [List.prefix_nil, forall_eq]

/-! ## Programs as control-flow graphs -/

/-- A control-flow graph over the store: a control point is halted, or it has the
effect of its step and the control point after it. -/
structure Flow (σ : Type u) (κ : Type v) where
  act : κ → Option ((σ → σ) × (σ → κ))

namespace Flow

variable {σ : Type u} {κ : Type v}

/-- The graph is the code: at every control point the program is done exactly when
the graph halts, and otherwise performs the graph's step. -/
structure Presents (flow : Flow σ κ) (code : κ → Prog σ PUnit.{1}) : Prop where
  halted : ∀ k, flow.act k = none → code k = .done ⟨⟩
  moves : ∀ k effect next, flow.act k = some (effect, next) →
    code k = .step effect fun s => code (next s)

/-- The same execution on control points. -/
def advance (flow : Flow σ κ) (spawn : σ → σ → List κ) (c : σ × List κ) (i : Nat) : σ × List κ :=
  match c.2[i]? with
  | none => c
  | some k =>
    match flow.act k with
    | none => c
    | some (effect, next) =>
      (effect c.1, c.2.set i (next c.1) ++ spawn c.1 (effect c.1))

def run (flow : Flow σ κ) (spawn : σ → σ → List κ) (c : σ × List κ) (schedule : List Nat) :
    σ × List κ :=
  schedule.foldl (flow.advance spawn) c

variable {flow : Flow σ κ} {spawn : σ → σ → List κ}

/-- A pick finds no thread that can move and does nothing, or moves one control point along
its edge. -/
theorem advance_split (flow : Flow σ κ) (spawn : σ → σ → List κ) (c : σ × List κ) (i : Nat) :
    (flow.advance spawn c i = c ∧ ∀ k, c.2[i]? = some k → flow.act k = none) ∨
      ∃ k effect next, c.2[i]? = some k ∧ flow.act k = some (effect, next) ∧
        flow.advance spawn c i =
          (effect c.1, c.2.set i (next c.1) ++ spawn c.1 (effect c.1)) := by
  unfold advance
  split
  · next missing => exact .inl ⟨rfl, fun k here => nomatch missing.symm.trans here⟩
  · next k here =>
    split
    · next halted =>
      refine .inl ⟨rfl, fun k' here' => ?_⟩
      rw [← Option.some.inj (here.symm.trans here')]
      exact halted
    · next effect next edge => exact .inr ⟨k, effect, next, here, edge, rfl⟩

/-- A pick moves one control point along its edge, or does nothing. -/
theorem advance_cases (flow : Flow σ κ) (spawn : σ → σ → List κ) (c : σ × List κ) (i : Nat) :
    flow.advance spawn c i = c ∨
      ∃ k effect next, c.2[i]? = some k ∧ flow.act k = some (effect, next) ∧
        flow.advance spawn c i =
          (effect c.1, c.2.set i (next c.1) ++ spawn c.1 (effect c.1)) :=
  (flow.advance_split spawn c i).imp_left And.left

theorem run_cons (c : σ × List κ) (i : Nat) (schedule : List Nat) :
    flow.run spawn c (i :: schedule) = flow.run spawn (flow.advance spawn c i) schedule := rfl

theorem run_append (c : σ × List κ) (first rest : List Nat) :
    flow.run spawn c (first ++ rest) = flow.run spawn (flow.run spawn c first) rest :=
  List.foldl_append

theorem run_invariant {I : σ × List κ → Prop} (kept : ∀ c i, I c → I (flow.advance spawn c i))
    {c : σ × List κ} (start : I c) (schedule : List Nat) : I (flow.run spawn c schedule) := by
  induction schedule generalizing c with
  | nil => exact start
  | cons i schedule ih => exact ih (kept c i start)

/-- Every pick of the schedule satisfies `ok` in the state it finds. -/
def Along (flow : Flow σ κ) (spawn : σ → σ → List κ) (ok : σ × List κ → Nat → Prop) :
    σ × List κ → List Nat → Prop
  | _, [] => True
  | c, i :: schedule => ok c i ∧ Along flow spawn ok (flow.advance spawn c i) schedule

instance alongDecidable (flow : Flow σ κ) (spawn : σ → σ → List κ) (ok : σ × List κ → Nat → Prop)
    [∀ c i, Decidable (ok c i)] :
    ∀ (c : σ × List κ) (schedule : List Nat), Decidable (flow.Along spawn ok c schedule)
  | _, [] => isTrue trivial
  | c, i :: schedule =>
    have := alongDecidable flow spawn ok (flow.advance spawn c i) schedule
    inferInstanceAs (Decidable (_ ∧ _))

theorem along_append {ok : σ × List κ → Nat → Prop} {c : σ × List κ} {first rest : List Nat} :
    flow.Along spawn ok c (first ++ rest) ↔
      flow.Along spawn ok c first ∧ flow.Along spawn ok (flow.run spawn c first) rest := by
  induction first generalizing c with
  | nil => exact ⟨fun along => ⟨trivial, along⟩, And.right⟩
  | cons i first ih =>
    rw [List.cons_append, Along, Along, ih, run_cons, and_assoc]

theorem Along.and {ok ok' : σ × List κ → Nat → Prop} {c : σ × List κ} {schedule : List Nat}
    (first : flow.Along spawn ok c schedule) (second : flow.Along spawn ok' c schedule) :
    flow.Along spawn (fun c i => ok c i ∧ ok' c i) c schedule := by
  induction schedule generalizing c with
  | nil => trivial
  | cons i schedule ih => exact ⟨⟨first.1, second.1⟩, ih first.2 second.2⟩

/-- The invariant rule for schedules whose picks satisfy a condition. -/
theorem Along.invariant {ok : σ × List κ → Nat → Prop} {I : σ × List κ → Prop}
    (kept : ∀ c i, ok c i → I c → I (flow.advance spawn c i)) {c : σ × List κ}
    {schedule : List Nat} (along : flow.Along spawn ok c schedule) (start : I c) :
    I (flow.run spawn c schedule) := by
  induction schedule generalizing c with
  | nil => exact start
  | cons i schedule ih => exact ih along.2 (kept c i along.1 start)

/-- What every pick does, when it meets the condition where the invariant holds. -/
theorem Along.of_invariant {ok ok' : σ × List κ → Nat → Prop} {I : σ × List κ → Prop}
    (kept : ∀ c i, ok c i → I c → ok' c i ∧ I (flow.advance spawn c i)) {c : σ × List κ}
    {schedule : List Nat} (along : flow.Along spawn ok c schedule) (start : I c) :
    flow.Along spawn ok' c schedule := by
  induction schedule generalizing c with
  | nil => trivial
  | cons i schedule ih =>
    obtain ⟨here, after⟩ := kept c i along.1 start
    exact ⟨here, ih along.2 after⟩

/-- When the invariant is kept by the picks that meet a condition, and what it is for is lost
by every other pick, that holds throughout a schedule exactly if every pick meets it. -/
theorem along_iff_property {ok : σ × List κ → Nat → Prop} {I P : σ × List κ → Prop}
    (kept : ∀ c i, I c → ok c i → I (flow.advance spawn c i))
    (needed : ∀ c i, I c → P (flow.advance spawn c i) → ok c i) (holds : ∀ c, I c → P c)
    {c : σ × List κ} (start : I c) (schedule : List Nat) :
    (∀ earlier, earlier <+: schedule → P (flow.run spawn c earlier)) ↔
      flow.Along spawn ok c schedule := by
  induction schedule generalizing c with
  | nil => exact forall_prefix_nil.trans (iff_of_true (holds c start) trivial)
  | cons i schedule ih =>
    rw [forall_prefix_cons]
    constructor
    · rintro ⟨-, throughout⟩
      have meets : ok c i := needed c i start (throughout [] List.nil_prefix)
      exact ⟨meets, (ih (kept c i start meets)).mp throughout⟩
    · rintro ⟨meets, rest⟩
      exact ⟨holds c start, (ih (kept c i start meets)).mpr rest⟩

/-- When the picks that meet a condition keep the invariant and every other pick leads into
states that no pick leaves, a schedule all of whose picks meet it ends in the invariant, and
every other one ends in such a state. -/
theorem along_or_trapped {ok : σ × List κ → Nat → Prop} {I T : σ × List κ → Prop}
    (kept : ∀ c i, I c → ok c i → I (flow.advance spawn c i))
    (lost : ∀ c i, I c → ¬ ok c i → T (flow.advance spawn c i))
    (trapped : ∀ c i, T c → T (flow.advance spawn c i)) {c : σ × List κ} (start : I c)
    (schedule : List Nat) : flow.Along spawn ok c schedule ∨ T (flow.run spawn c schedule) := by
  induction schedule generalizing c with
  | nil => exact .inl trivial
  | cons i schedule ih =>
    by_cases meets : ok c i
    · exact (ih (kept c i start meets)).imp_left fun rest => ⟨meets, rest⟩
    · exact .inr (run_invariant trapped (lost c i start meets) schedule)

/-- When a step keeps the invariant exactly if it meets a condition, the invariant holds
throughout a schedule exactly if every pick meets it. -/
theorem along_iff_throughout {ok : σ × List κ → Nat → Prop} {I : σ × List κ → Prop}
    (kept : ∀ c i, I c → (I (flow.advance spawn c i) ↔ ok c i)) {c : σ × List κ} (start : I c)
    (schedule : List Nat) :
    (∀ earlier, earlier <+: schedule → I (flow.run spawn c earlier)) ↔
      flow.Along spawn ok c schedule :=
  along_iff_property (fun c i holds => (kept c i holds).mpr) (fun c i holds => (kept c i holds).mp)
    (fun _ holds => holds) start schedule

/-- Two conditions that agree wherever an invariant holds, which the first one keeps, are met
by the same schedules. -/
theorem along_iff_along {ok ok' : σ × List κ → Nat → Prop} {I : σ × List κ → Prop}
    (same : ∀ c i, I c → (ok c i ↔ ok' c i))
    (kept : ∀ c i, I c → ok c i → I (flow.advance spawn c i)) {c : σ × List κ} (start : I c)
    (schedule : List Nat) :
    flow.Along spawn ok c schedule ↔ flow.Along spawn ok' c schedule := by
  induction schedule generalizing c with
  | nil => exact Iff.rfl
  | cons i schedule ih =>
    refine (and_congr_right fun meets => ih (kept c i start meets)).trans ?_
    exact and_congr_left fun _ => same c i start

/-- The pool of programs a list of control points stands for. -/
def pool (code : κ → Prog σ PUnit.{1}) (c : σ × List κ) : Pool σ := ⟨c.1, c.2.map code⟩

theorem advance_coded {code : κ → Prog σ PUnit.{1}} (presents : flow.Presents code)
    (c : σ × List κ) (i : Nat) :
    (pool code c).advance (fun s t => (spawn s t).map code) i =
      pool code (flow.advance spawn c i) := by
  unfold Pool.advance advance
  simp only [pool, List.getElem?_map]
  cases here : c.2[i]? with
  | none => rfl
  | some k =>
    simp only [Option.map_some]
    cases edge : flow.act k with
    | none => rw [presents.halted k edge]
    | some move =>
      obtain ⟨effect, next⟩ := move
      rw [presents.moves k effect next edge]
      simp only [List.map_append, List.map_set]

/-- **Programs and control points run together.**  A schedule of the pool of
programs reaches the programs of the control points the same schedule reaches. -/
theorem run_coded {code : κ → Prog σ PUnit.{1}} (presents : flow.Presents code)
    (spawn : σ → σ → List κ) (c : σ × List κ) (schedule : List Nat) :
    (pool code c).run (fun s t => (spawn s t).map code) schedule =
      pool code (flow.run spawn c schedule) := by
  induction schedule generalizing c with
  | nil => rfl
  | cons i schedule ih => rw [Pool.run_cons, advance_coded presents, ih, run_cons]

theorem run_coded_noSpawn {code : κ → Prog σ PUnit.{1}} (presents : flow.Presents code)
    (c : σ × List κ) (schedule : List Nat) :
    (pool code c).run Pool.noSpawn schedule =
      pool code (flow.run (fun _ _ => []) c schedule) :=
  run_coded presents (fun _ _ => []) c schedule

theorem finished_coded {code : κ → Prog σ PUnit.{1}} (presents : flow.Presents code)
    (c : σ × List κ) : (pool code c).Finished ↔ ∀ k ∈ c.2, flow.act k = none := by
  constructor
  · intro finished k hk
    have codeDone := finished (code k) (List.mem_map_of_mem hk)
    cases edge : flow.act k with
    | none => rfl
    | some move =>
      rw [presents.moves k move.1 move.2 edge] at codeDone
      cases codeDone
  · intro halted p hp
    obtain ⟨k, hk, rfl⟩ := List.mem_map.mp hp
    rw [presents.halted k (halted k hk)]
    rfl

/-- One graph for each mark; a thread carries its mark, and its steps never change it. -/
def indexed {τ : Type w} (flow : τ → Flow σ κ) : Flow σ (τ × κ) :=
  ⟨fun k => ((flow k.1).act k.2).map fun move => (move.1, fun s => (k.1, move.2 s))⟩

theorem indexed_act {τ : Type w} {flow : τ → Flow σ κ} {k : τ × κ} {effect : σ → σ}
    {next : σ → τ × κ} (edge : (indexed flow).act k = some (effect, next)) :
    ∃ next', (flow k.1).act k.2 = some (effect, next') ∧ ∀ s, next s = (k.1, next' s) := by
  obtain ⟨⟨effect', next'⟩, here, same⟩ := Option.map_eq_some_iff.mp edge
  cases same
  exact ⟨next', here, fun _ => rfl⟩

theorem indexed_presents {τ : Type w} {flow : τ → Flow σ κ} {code : τ → κ → Prog σ PUnit.{1}}
    (presents : ∀ mark, (flow mark).Presents (code mark)) :
    (indexed flow).Presents fun k => code k.1 k.2 where
  halted k here := (presents k.1).halted k.2 (Option.map_eq_none_iff.mp here)
  moves k effect next here := by
    obtain ⟨next', edge, marked⟩ := indexed_act here
    rw [(presents k.1).moves k.2 effect next' edge]
    congr 1
    funext s
    rw [marked s]

/-- The same graph under every mark. -/
def tagged (τ : Type w) (flow : Flow σ κ) : Flow σ (τ × κ) := indexed fun _ => flow

theorem tagged_act {τ : Type w} {flow : Flow σ κ} {k : τ × κ} {effect : σ → σ}
    {next : σ → τ × κ} (edge : (flow.tagged τ).act k = some (effect, next)) :
    ∃ next', flow.act k.2 = some (effect, next') ∧ ∀ s, next s = (k.1, next' s) :=
  indexed_act edge

theorem tagged_presents {τ : Type w} {flow : Flow σ κ} {code : κ → Prog σ PUnit.{1}}
    (presents : flow.Presents code) : (flow.tagged τ).Presents fun k => code k.2 :=
  indexed_presents fun _ => presents

/-- The graph beside programs that are not given as graphs. -/
def beside (flow : Flow σ κ) : Flow σ (κ ⊕ Prog σ PUnit.{1}) :=
  ⟨fun
    | .inl k => (flow.act k).map fun move => (move.1, fun s => .inl (move.2 s))
    | .inr (.done _) => none
    | .inr (.step effect next) => some (effect, fun s => .inr (next s))⟩

theorem beside_inl {flow : Flow σ κ} {k : κ} {effect : σ → σ} {next : σ → κ ⊕ Prog σ PUnit.{1}}
    (edge : flow.beside.act (.inl k) = some (effect, next)) :
    ∃ next', flow.act k = some (effect, next') ∧ ∀ s, next s = .inl (next' s) := by
  obtain ⟨⟨effect', next'⟩, here, same⟩ := Option.map_eq_some_iff.mp edge
  cases same
  exact ⟨next', here, fun _ => rfl⟩

theorem beside_inr {flow : Flow σ κ} {p : Prog σ PUnit.{1}} {effect : σ → σ}
    {next : σ → κ ⊕ Prog σ PUnit.{1}} (edge : flow.beside.act (.inr p) = some (effect, next)) :
    ∃ next', p = .step effect next' ∧ ∀ s, next s = .inr (next' s) := by
  cases p with
  | done a => cases edge
  | step effect' next' =>
    cases edge
    exact ⟨next', rfl, fun _ => rfl⟩

theorem beside_presents {flow : Flow σ κ} {code : κ → Prog σ PUnit.{1}}
    (presents : flow.Presents code) : flow.beside.Presents (Sum.elim code id) where
  halted k here := by
    cases k with
    | inl k => exact presents.halted k (Option.map_eq_none_iff.mp here)
    | inr p =>
      cases p with
      | done a => rfl
      | step effect next => cases here
  moves k effect next here := by
    cases k with
    | inl k =>
      obtain ⟨next', edge, same⟩ := beside_inl here
      show code k = _
      rw [presents.moves k effect next' edge]
      congr 1
      funext s
      rw [same s]
      rfl
    | inr p =>
      obtain ⟨next', rfl, same⟩ := beside_inr here
      show Prog.step effect next' = _
      congr 1
      funext s
      rw [same s]
      rfl

end Flow

/-! ## Counting over the threads -/

/-- Replacing one element loses at most that element. -/
theorem mem_set_or_eq {α : Type u} {xs : List α} {i : Nat} {old x : α}
    (here : xs[i]? = some old) (member : x ∈ xs) (new : α) : x = old ∨ x ∈ xs.set i new := by
  obtain ⟨j, found⟩ := List.mem_iff_getElem?.mp member
  by_cases same : i = j
  · subst same
    rw [here] at found
    exact .inl (Option.some.inj found).symm
  · refine .inr (List.mem_iff_getElem?.mpr ⟨j, ?_⟩)
    rw [List.getElem?_set_ne same, found]

theorem mem_set_new {α : Type u} {xs : List α} {i : Nat} {old : α}
    (here : xs[i]? = some old) (new : α) : new ∈ xs.set i new := by
  obtain ⟨bound, -⟩ := List.getElem?_eq_some_iff.mp here
  exact List.mem_iff_getElem?.mpr ⟨i, List.getElem?_set_self bound⟩

/-- Every element is the one at a position or one of the others. -/
theorem mem_eraseIdx_or_eq {α : Type u} {xs : List α} {i : Nat} {old x : α}
    (here : xs[i]? = some old) (member : x ∈ xs) : x = old ∨ x ∈ xs.eraseIdx i := by
  obtain ⟨j, found⟩ := List.mem_iff_getElem?.mp member
  by_cases same : j = i
  · subst same
    rw [here] at found
    exact .inl (Option.some.inj found).symm
  · exact .inr (List.mem_eraseIdx_iff_getElem?.mpr ⟨j, same, found⟩)

/-- After a replacement the others are still there, and nothing else but the new one. -/
theorem mem_set_iff {α : Type u} {xs : List α} {i : Nat} {old new x : α}
    (here : xs[i]? = some old) : x ∈ xs.set i new ↔ x = new ∨ x ∈ xs.eraseIdx i := by
  obtain ⟨bound, -⟩ := List.getElem?_eq_some_iff.mp here
  rw [List.mem_eraseIdx_iff_getElem?]
  constructor
  · intro member
    obtain ⟨j, found⟩ := List.mem_iff_getElem?.mp member
    by_cases same : i = j
    · subst same
      rw [List.getElem?_set_self bound] at found
      exact .inl (Option.some.inj found).symm
    · rw [List.getElem?_set_ne same] at found
      exact .inr ⟨j, Ne.symm same, found⟩
  · rintro (rfl | ⟨j, other, found⟩)
    · exact mem_set_new here x
    · exact List.mem_iff_getElem?.mpr ⟨j, by rw [List.getElem?_set_ne (Ne.symm other)]; exact found⟩

/-- What is collected from the elements, with the one at a position in front. -/
theorem filterMap_perm {α : Type u} {β : Type v} (f : α → Option β) {xs : List α} {i : Nat}
    {old : α} (here : xs[i]? = some old) :
    (xs.filterMap f).Perm ((f old).toList ++ (xs.eraseIdx i).filterMap f) := by
  obtain ⟨bound, rfl⟩ := List.getElem?_eq_some_iff.mp here
  refine ((List.getElem_cons_eraseIdx_perm bound).symm.filterMap f).trans (.of_eq ?_)
  rw [List.filterMap_cons]
  cases f xs[i] <;> rfl

theorem filterMap_set_perm {α : Type u} {β : Type v} (f : α → Option β) {xs : List α} {i : Nat}
    {old : α} (here : xs[i]? = some old) (new : α) :
    ((xs.set i new).filterMap f).Perm ((f new).toList ++ (xs.eraseIdx i).filterMap f) := by
  obtain ⟨bound, -⟩ := List.getElem?_eq_some_iff.mp here
  refine ((List.set_perm_cons_eraseIdx bound new).filterMap f).trans (.of_eq ?_)
  rw [List.filterMap_cons]
  cases f new <;> rfl

/-- Replacing one element changes a count by that element. -/
theorem countP_set {α : Type u} (p : α → Bool) {xs : List α} {i : Nat} {old : α}
    (here : xs[i]? = some old) (new : α) :
    (xs.set i new).countP p + (p old).toNat = xs.countP p + (p new).toNat := by
  induction xs generalizing i with
  | nil => cases here
  | cons x xs ih =>
    cases i with
    | zero =>
      cases here
      simp only [List.set_cons_zero, List.countP_cons]
      cases p old <;> cases p new <;> simp
    | succ i =>
      have rest := ih (i := i) here
      simp only [List.set_cons_succ, List.countP_cons]
      omega

/-- Replacing one element changes a sum by the difference of the two. -/
theorem sum_map_set {α : Type u} (f : α → Nat) {xs : List α} {i : Nat} {old : α}
    (here : xs[i]? = some old) (new : α) :
    ((xs.set i new).map f).sum + f old = (xs.map f).sum + f new := by
  induction xs generalizing i with
  | nil => cases here
  | cons x xs ih =>
    cases i with
    | zero =>
      cases here
      simp only [List.set_cons_zero, List.map_cons, List.sum_cons]
      omega
    | succ i =>
      have rest := ih (i := i) here
      simp only [List.set_cons_succ, List.map_cons, List.sum_cons]
      omega

theorem sum_map_set_append {α : Type u} (f : α → Nat) {xs : List α} {i : Nat} {old : α}
    (here : xs[i]? = some old) (new : α) (added : List α) :
    ((xs.set i new ++ added).map f).sum + f old = (xs.map f).sum + f new + (added.map f).sum := by
  have moved := sum_map_set f here new
  rw [List.map_append, List.sum_append]
  omega

end Nixway.Theory
