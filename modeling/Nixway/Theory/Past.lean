/-
# Theory.Past -- the stores a run has been through

What a program read early is used by its later steps, when the store may have moved on.
To say "the check found it so" about a later store, `Prog.logged` runs a program on a
store that remembers the stores its steps found.  The memory changes nothing:
`Pool.run_logged` maps every schedule of the logged pool back to the same schedule of
the pool, with every store remembered one the schedule has been through.
-/
import Nixway.Theory.Rely

namespace Nixway.Theory

set_option autoImplicit false

universe u v

namespace Prog

variable {σ : Type u} {α β : Type v}

/-- The program on a store that remembers the stores its steps found, newest first. -/
def logged : Prog σ α → Prog (σ × List σ) α
  | .done a => .done a
  | .step effect next => .step (fun s => (effect s.1, s.1 :: s.2)) fun s => (next s.1).logged

section Safety

variable {rely guar : σ × List σ → σ × List σ → Prop} {a : σ × List σ}

theorem Safe.logged_bind {Q : α → σ × List σ → Prop} {S : β → σ × List σ → Prop}
    (refl : ∀ s, rely s s) {p : Prog σ α} {f : α → Prog σ β}
    (first : p.logged.Safe rely guar Q a)
    (rest : ∀ x b, Q x b → (f x).logged.Safe rely guar S b) :
    (p >>= f).logged.Safe rely guar S a := by
  induction p generalizing a with
  | done x => exact rest x a (first a (refl a))
  | step effect next ih =>
    intro b moved
    obtain ⟨step, after⟩ := first b moved
    exact ⟨step, ih b.1 after⟩

theorem Safe.logged_query {Q : β → σ × List σ → Prop} {g : σ → α} {f : α → Prog σ β}
    (reads : ∀ s past, guar (s, past) (s, s :: past))
    (rest : ∀ s past, rely a (s, past) → (f (g s)).logged.Safe rely guar Q (s, s :: past)) :
    (query g >>= f).logged.Safe rely guar Q a :=
  fun b moved => ⟨reads b.1 b.2, rest b.1 b.2 moved⟩

theorem Safe.logged_atomic {Q : β → σ × List σ → Prop} {g : σ → σ × α} {f : α → Prog σ β}
    (acts : ∀ s past, rely a (s, past) → guar (s, past) ((g s).1, s :: past))
    (rest : ∀ s past, rely a (s, past) →
      (f (g s).2).logged.Safe rely guar Q ((g s).1, s :: past)) :
    (atomic g >>= f).logged.Safe rely guar Q a :=
  fun b moved => ⟨acts b.1 b.2 moved, rest b.1 b.2 moved⟩

/-- A last statement. -/
theorem Safe.logged_exec {γ : Type} {g : σ → σ} {x : γ}
    (writes : ∀ s past, rely a (s, past) → guar (s, past) (g s, s :: past)) :
    (exec g >>= fun _ => .done x).logged.Safe rely guar (fun _ _ => True) a :=
  fun b moved => ⟨writes b.1 b.2 moved, fun _ _ => trivial⟩

end Safety

end Prog

namespace Pool

variable {σ : Type u}

def logged (c : Pool σ) (past : List σ) : Pool (σ × List σ) :=
  ⟨(c.store, past), c.threads.map Prog.logged⟩

theorem advance_logged (c : Pool σ) (past : List σ) (i : Nat) :
    ((c.logged past).advance noSpawn i = (c.advance noSpawn i).logged past) ∨
      (c.logged past).advance noSpawn i = (c.advance noSpawn i).logged (c.store :: past) := by
  unfold advance logged
  simp only [List.getElem?_map]
  cases here : c.threads[i]? with
  | none => exact .inl rfl
  | some p =>
    cases p with
    | done a => exact .inl rfl
    | step effect next =>
      refine .inr ?_
      simp only [Option.map_some, Prog.logged, noSpawn, List.append_nil, List.map_set]

/-- **The memory holds stores of the run.** -/
theorem run_logged (c : Pool σ) (past : List σ) (schedule : List Nat) :
    ∃ seen, (c.logged past).run noSpawn schedule = (c.run noSpawn schedule).logged seen ∧
      ∀ s ∈ seen, s ∈ past ∨ ∃ earlier, earlier <+: schedule ∧ (c.run noSpawn earlier).store = s := by
  induction schedule generalizing c past with
  | nil => exact ⟨past, rfl, fun s mem => .inl mem⟩
  | cons i schedule ih =>
    have later : ∀ {s : σ}, (∃ earlier, earlier <+: schedule ∧
        ((c.advance noSpawn i).run noSpawn earlier).store = s) →
        ∃ earlier, earlier <+: i :: schedule ∧ (c.run noSpawn earlier).store = s := by
      rintro s ⟨earlier, within, reached⟩
      exact ⟨i :: earlier, List.cons_prefix_cons.mpr ⟨rfl, within⟩, reached⟩
    rw [run_cons, run_cons]
    rcases advance_logged c past i with moved | moved
    · rw [moved]
      obtain ⟨seen, same, known⟩ := ih (c.advance noSpawn i) past
      refine ⟨seen, same, fun s mem => ?_⟩
      exact (known s mem).imp_right later
    · rw [moved]
      obtain ⟨seen, same, known⟩ := ih (c.advance noSpawn i) (c.store :: past)
      refine ⟨seen, same, fun s mem => ?_⟩
      rcases known s mem with old | reached
      · rcases List.mem_cons.mp old with rfl | older
        · exact .inr ⟨[], List.nil_prefix, rfl⟩
        · exact .inl older
      · exact .inr (later reached)

end Pool

end Nixway.Theory
