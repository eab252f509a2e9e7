/-
# Theory.Lockstep -- one schedule on two pools

`Prog.Lockstep R calm p q` compares two programs on two stores related by `R`.  While
they are in lockstep, a step of both at once keeps the stores related and the programs in
lockstep; from some point on all their steps may be `calm`, and then the programs need not
have anything in common.

`Pool.Alike.advance` carries this to pools: when calm steps on either side keep the stores
related, so does every pick, and every schedule.  It answers what would have happened
without a thread: the pool with the thread beside the same pool with a thread that is done
in its place.
-/
import Nixway.Theory.Pool
import Mathlib.Data.List.Forall2

namespace Nixway.Theory

set_option autoImplicit false

universe u v

namespace Prog

variable {σ : Type u} {α β : Type v} {R : σ → σ → Prop} {calm : (σ → σ) → Prop}

/-- Step by step the same on related stores, until only calm steps are left. -/
inductive Lockstep (R : σ → σ → Prop) (calm : (σ → σ) → Prop) : Prog σ α → Prog σ α → Prop where
  | calm {p q : Prog σ α} (left : p.Every calm) (right : q.Every calm) : Lockstep R calm p q
  | step {effect effect' : σ → σ} {next next' : σ → Prog σ α}
      (effects : ∀ s t, R s t → R (effect s) (effect' t))
      (nexts : ∀ s t, R s t → Lockstep R calm (next s) (next' t)) :
      Lockstep R calm (.step effect next) (.step effect' next')

theorem Lockstep.done (a b : α) : Lockstep R calm (.done a : Prog σ α) (.done b) :=
  .calm trivial trivial

/-- Both read; what they read may differ. -/
theorem Lockstep.bind_query {g g' : σ → α} {f f' : α → Prog σ β}
    (rest : ∀ s t, R s t → Lockstep R calm (f (g s)) (f' (g' t))) :
    Lockstep R calm (query g >>= f) (query g' >>= f') :=
  .step (fun _ _ related => related) rest

theorem Lockstep.bind_atomic {g g' : σ → σ × α} {f f' : α → Prog σ β}
    (acts : ∀ s t, R s t → R (g s).1 (g' t).1)
    (rest : ∀ s t, R s t → Lockstep R calm (f (g s).2) (f' (g' t).2)) :
    Lockstep R calm (atomic g >>= f) (atomic g' >>= f') :=
  .step acts rest

/-- What follows may be added when it is calm on both sides. -/
theorem Lockstep.bind_calm {p q : Prog σ α} {f g : α → Prog σ β} (first : Lockstep R calm p q)
    (left : ∀ a, (f a).Every calm) (right : ∀ a, (g a).Every calm) :
    Lockstep R calm (p >>= f) (q >>= g) := by
  induction first with
  | calm before before' => exact .calm (before.bind left) (before'.bind right)
  | step effects nexts ih => exact .step effects fun s t related => ih s t related

end Prog

namespace Pool

variable {σ : Type u} {R : σ → σ → Prop} {calm : (σ → σ) → Prop}

theorem advance_cons_succ (s : σ) (p : Prog σ PUnit) (ps : List (Prog σ PUnit)) (i : Nat) :
    (⟨s, p :: ps⟩ : Pool σ).advance noSpawn (i + 1) =
      ⟨((⟨s, ps⟩ : Pool σ).advance noSpawn i).store,
        p :: ((⟨s, ps⟩ : Pool σ).advance noSpawn i).threads⟩ := by
  unfold advance
  simp only [List.getElem?_cons_succ]
  split <;> rfl

theorem advance_cons_zero (s : σ) (effect : σ → σ) (next : σ → Prog σ PUnit)
    (ps : List (Prog σ PUnit)) :
    (⟨s, .step effect next :: ps⟩ : Pool σ).advance noSpawn 0 = ⟨effect s, next s :: ps⟩ := by
  show (⟨effect s, (next s :: ps) ++ []⟩ : Pool σ) = _
  rw [List.append_nil]

theorem advance_cons_done (s : σ) (ps : List (Prog σ PUnit)) :
    (⟨s, .done ⟨⟩ :: ps⟩ : Pool σ).advance noSpawn 0 = ⟨s, .done ⟨⟩ :: ps⟩ := rfl

/-- Related stores, with threads in lockstep. -/
structure Alike (R : σ → σ → Prop) (calm : (σ → σ) → Prop) (c d : Pool σ) : Prop where
  stores : R c.store d.store
  threads : List.Forall₂ (Prog.Lockstep R calm) c.threads d.threads

/-- **The lockstep rule.**  A pick on both pools keeps them alike. -/
theorem Alike.advance (left : ∀ effect, calm effect → ∀ s t, R s t → R (effect s) t)
    (right : ∀ effect, calm effect → ∀ s t, R s t → R s (effect t)) {c d : Pool σ}
    (alike : Alike R calm c d) (i : Nat) :
    Alike R calm (c.advance noSpawn i) (d.advance noSpawn i) := by
  obtain ⟨s, ps⟩ := c
  obtain ⟨t, qs⟩ := d
  obtain ⟨stores, threads⟩ := alike
  dsimp only at stores threads
  induction threads generalizing i with
  | nil => exact ⟨stores, .nil⟩
  | @cons p q ps qs matched rest ih =>
    cases i with
    | succ i =>
      rw [advance_cons_succ, advance_cons_succ]
      exact ⟨(ih i).stores, .cons matched (ih i).threads⟩
    | zero =>
      cases matched with
      | step effects nexts =>
        rw [advance_cons_zero, advance_cons_zero]
        exact ⟨effects s t stores, .cons (nexts s t stores) rest⟩
      | calm before before' =>
        -- each side moves by a calm step or not at all
        cases p with
        | done a =>
          cases q with
          | done b => exact ⟨stores, .cons (.done _ _) rest⟩
          | step effect next =>
            rw [advance_cons_zero, advance_cons_done]
            exact ⟨right effect before'.1 s t stores,
              .cons (.calm trivial (before'.2 t)) rest⟩
        | step effect next =>
          rw [advance_cons_zero]
          have moved := left effect before.1 s t stores
          cases q with
          | done b =>
            rw [advance_cons_done]
            exact ⟨moved, .cons (.calm (before.2 s) trivial) rest⟩
          | step effect' next' =>
            rw [advance_cons_zero]
            exact ⟨right effect' before'.1 _ t moved,
              .cons (.calm (before.2 s) (before'.2 t)) rest⟩

end Pool

end Nixway.Theory
