/-
# Theory.Panics -- programs some of whose operations panic

A dereference, an index and a slice of a text stop the goroutine that performs them when
there is nothing to read.  `Risky` programs are those of `Theory.Prog` with such operations
among their steps; `Guarded c p` says that `c` is the program `p`, which has none of them:
every operation of `c` that could panic finds what it reads.

`May` and `MayBoth` are about the effects of one course of a program: that it has an effect, and
that it has one behind another.
-/
import Nixway.Theory.Prog
import Mathlib.Tactic.Choose

namespace Nixway.Theory

set_option autoImplicit false

universe u v w

/-- What stops a goroutine. -/
inductive Panic where
  | nilDereference
  | indexOutOfRange

namespace Panic

variable {α β : Type v}

/-- `*p`. -/
def deref : Option α → Except Panic α
  | some a => .ok a
  | none => .error nilDereference

/-- `xs[i]`. -/
def index (xs : List α) (i : Nat) : Except Panic α :=
  match xs[i]? with
  | some a => .ok a
  | none => .error indexOutOfRange

/-- `s[:n]`; the positions of a text are those of its bytes. -/
def sliceTo (s : String) (n : Nat) : Except Panic (List UInt8) :=
  if n ≤ s.utf8ByteSize then .ok (s.toUTF8.data.toList.take n) else .error indexOutOfRange

/-- `a && b`; `b` is evaluated only if `a` holds. -/
def both (a : Bool) (b : Except Panic Bool) : Except Panic Bool :=
  if a then b else .ok false

/-- `if p != nil { f(*p) }`, else `absent`. -/
def readOr (p : Option α) (f : α → β) (absent : β) : Except Panic β :=
  if p.isSome then (deref p).map f else .ok absent

@[simp] theorem deref_some (a : α) : deref (some a) = .ok a := rfl

@[simp] theorem index_zero_cons (a : α) (xs : List α) : index (a :: xs) 0 = .ok a := rfl

theorem index_of_lt {xs : List α} {i : Nat} (bound : i < xs.length) :
    index xs i = .ok xs[i] := by
  unfold index
  rw [List.getElem?_eq_getElem bound]

theorem sliceTo_of_le {s : String} {n : Nat} (bound : n ≤ s.utf8ByteSize) :
    sliceTo s n = .ok (s.toUTF8.data.toList.take n) := if_pos bound

theorem sliceTo_of_lt {s : String} {n : Nat} (short : s.utf8ByteSize < n) :
    sliceTo s n = .error indexOutOfRange := if_neg (by omega)

@[simp] theorem both_true (b : Except Panic Bool) : both true b = b := rfl

@[simp] theorem both_false (b : Except Panic Bool) : both false b = .ok false := rfl

@[simp] theorem readOr_eq (p : Option α) (f : α → β) (absent : β) :
    readOr p f absent = .ok ((p.map f).getD absent) := by
  cases p <;> rfl

theorem mapM_ok {f : α → Except Panic β} {g : α → β} {xs : List α}
    (each : ∀ x ∈ xs, f x = .ok (g x)) : xs.mapM f = .ok (xs.map g) := by
  induction xs with
  | nil => rfl
  | cons x xs ih =>
    rw [List.mapM_cons, each x List.mem_cons_self,
      ih fun y member => each y (List.mem_cons_of_mem x member)]
    rfl

end Panic

namespace Prog

variable {σ : Type u} {α β : Type v} {P Q : (σ → σ) → Prop}

/-- Some course of the program has an effect with `P`. -/
def May (P : (σ → σ) → Prop) : Prog σ α → Prop
  | .done _ => False
  | .step effect next => P effect ∨ ∃ s, (next s).May P

/-- Some course of the program has an effect with `P` and behind it one with `Q`. -/
def MayBoth (P Q : (σ → σ) → Prop) : Prog σ α → Prop
  | .done _ => False
  | .step effect next => P effect ∧ (∃ s, (next s).May Q) ∨ ∃ s, (next s).MayBoth P Q

theorem May.bind {p : Prog σ α} (may : p.May P) (f : α → Prog σ β) : (p >>= f).May P := by
  induction p with
  | done a => exact may.elim
  | step effect next ih => exact may.imp_right fun ⟨s, later⟩ => ⟨s, ih s later⟩

theorem MayBoth.bind {p : Prog σ α} (both : p.MayBoth P Q) (f : α → Prog σ β) :
    (p >>= f).MayBoth P Q := by
  induction p with
  | done a => exact both.elim
  | step effect next ih =>
    exact both.imp (And.imp_right fun ⟨s, later⟩ => ⟨s, later.bind f⟩)
      fun ⟨s, later⟩ => ⟨s, ih s later⟩

theorem May.atomic {k : σ → σ × α} {f : α → Prog σ β} {a : α} (s : σ) (answer : (k s).2 = a)
    (later : (f a).May P) : (Prog.atomic k >>= f).May P := by
  subst answer
  exact .inr ⟨s, later⟩

theorem MayBoth.query {g : σ → α} {f : α → Prog σ β} {a : α} (s : σ) (answer : g s = a)
    (later : (f a).MayBoth P Q) : (Prog.query g >>= f).MayBoth P Q := by
  subst answer
  exact .inr ⟨s, later⟩

theorem MayBoth.atomic {k : σ → σ × α} {f : α → Prog σ β} {a : α} (s : σ) (answer : (k s).2 = a)
    (later : (f a).MayBoth P Q) : (Prog.atomic k >>= f).MayBoth P Q := by
  subst answer
  exact .inr ⟨s, later⟩

end Prog

/-- A text has at least as many bytes as characters. -/
theorem length_le_utf8ByteSize (cs : List Char) :
    cs.length ≤ (String.ofList cs).utf8ByteSize := by
  induction cs with
  | nil => exact Nat.zero_le _
  | cons c cs ih =>
    have joined : String.ofList (c :: cs) = String.ofList [c] ++ String.ofList cs := by
      rw [← String.ofList_append]
      rfl
    have one : (String.ofList [c]).utf8ByteSize = c.utf8Size := by
      rw [← String.singleton_eq_ofList, String.utf8ByteSize_singleton]
    have positive := c.utf8Size_pos
    rw [joined, String.utf8ByteSize_append, one, List.length_cons]
    omega

/-- A program over `σ` some of whose operations panic. -/
abbrev Risky (σ : Type u) (α : Type) : Type u := ExceptT Panic (Prog σ) α

namespace Risky

variable {σ : Type u} {α β : Type}

/-- The program whose operations cannot panic. -/
def ofProg (p : Prog σ α) : Risky σ α := ExceptT.lift p

def op (e : Except Panic α) : Risky σ α := ExceptT.mk (.done e)

/-- A loop over a list that is fixed when the loop starts. -/
def forEach {ι : Type w} : List ι → (ι → Risky σ PUnit) → Risky σ PUnit
  | [], _ => pure ⟨⟩
  | x :: xs, body => body x >>= fun _ => forEach xs body

/-- The program can panic: there are stores for its steps to find with which it does. -/
def Panics (c : Risky σ α) : Prop := ¬ c.run.Yields fun r => ∃ a, r = .ok a

/-- `c` does what `p` does: none of its operations panics. -/
def Guarded (c : Risky σ α) (p : Prog σ α) : Prop := c = ofProg p

theorem ofProg_bind (p : Prog σ α) (f : α → Prog σ β) :
    ofProg (p >>= f) = ofProg p >>= fun a => ofProg (f a) := by
  induction p with
  | done a => rfl
  | step effect next ih => exact congrArg (Prog.step effect) (funext ih)

theorem op_error_bind (panic : Panic) (f : α → Risky σ β) :
    op (.error panic) >>= f = op (.error panic) := rfl

theorem panics_op_error (panic : Panic) : (op (.error panic) : Risky σ α).Panics := by
  rintro ⟨a, done⟩
  cases done

namespace Guarded

variable {c : Risky σ α} {p : Prog σ α}

theorem ofProg (p : Prog σ α) : Guarded (Risky.ofProg p) p := rfl

theorem done (a : α) : Guarded (pure a : Risky σ α) (pure a) := rfl

theorem bind {g : α → Risky σ β} {f : α → Prog σ β} (first : Guarded c p)
    (rest : ∀ a, Guarded (g a) (f a)) : Guarded (c >>= g) (p >>= f) := by
  unfold Guarded at first rest ⊢
  rw [ofProg_bind, first]
  exact congrArg _ (funext rest)

/-- A read, where the two programs use different parts of what is there. -/
theorem bind_query {γ : Type} {h : σ → α} {k : σ → γ} {g : α → Risky σ β} {f : γ → Prog σ β}
    (rest : ∀ s, Guarded (g (h s)) (f (k s))) :
    Guarded (Risky.ofProg (Prog.query h) >>= g) (Prog.query k >>= f) :=
  congrArg (Prog.step id) (funext rest)

/-- An operation that finds what it reads. -/
theorem op {e : Except Panic α} {a : α} {g : α → Risky σ β} {p : Prog σ β} (found : e = .ok a)
    (rest : Guarded (g a) p) : Guarded (Risky.op e >>= g) p := by
  rw [found]
  exact rest

theorem forEach {ι : Type w} {body : ι → Risky σ PUnit} {plain : ι → Prog σ PUnit}
    (xs : List ι) (each : ∀ x ∈ xs, Guarded (body x) (plain x)) :
    Guarded (Risky.forEach xs body) (Prog.forEach xs plain) := by
  induction xs with
  | nil => rfl
  | cons x xs ih =>
    exact bind (each x List.mem_cons_self) fun _ =>
      ih fun y member => each y (List.mem_cons_of_mem x member)

theorem not_panics (guarded : Guarded c p) : ¬ c.Panics := by
  unfold Guarded at guarded
  subst guarded
  refine not_not.mpr ?_
  induction p with
  | done a => exact ⟨a, rfl⟩
  | step effect next ih => exact ih

end Guarded

/-- None of the operations of `c` panics. -/
def Safe (c : Risky σ α) : Prop := ∃ p, Guarded c p

namespace Safe

variable {c : Risky σ α}

theorem ofProg (p : Prog σ α) : Safe (Risky.ofProg p) := ⟨p, rfl⟩

theorem done (a : α) : Safe (pure a : Risky σ α) := ⟨pure a, rfl⟩

theorem bind {g : α → Risky σ β} (first : Safe c) (rest : ∀ a, Safe (g a)) :
    Safe (c >>= g) := by
  obtain ⟨p, first⟩ := first
  choose f rest using rest
  exact ⟨p >>= f, first.bind rest⟩

theorem op {e : Except Panic α} {a : α} {g : α → Risky σ β} (found : e = .ok a)
    (rest : Safe (g a)) : Safe (Risky.op e >>= g) := by
  obtain ⟨p, rest⟩ := rest
  exact ⟨p, Guarded.op found rest⟩

theorem not_panics (safe : Safe c) : ¬ c.Panics := by
  obtain ⟨p, guarded⟩ := safe
  exact guarded.not_panics

end Safe

end Risky

end Nixway.Theory
