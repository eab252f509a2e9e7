/-
# Theory.Rely -- programs under interference

`Prog.Safe rely guar Q p s` says what `p` does when it is at the store `s` and
the other threads may move the store along `rely` before each of its steps: each
of its steps satisfies `guar`, and its result satisfies `Q`, also after
further interference.  What a step has read stays known, so a later step can be
related to it by what interference keeps.

`Pool.safe_run` puts such programs beside each other: when the guarantee of every
thread is within the rely of every other thread, every schedule only makes steps
that satisfy the guarantee of the thread that makes them.  `Pool.Along` restricts
attention to the schedules whose steps meet a condition.
-/
import Nixway.Theory.Pool

namespace Nixway.Theory

set_option autoImplicit false

universe u v w

namespace Prog

variable {σ : Type u} {α β : Type v} {rely guar : σ → σ → Prop}

/-- Every step of the program satisfies `guar` and its result satisfies `Q`,
while others move the store along `rely` between its steps. -/
def Safe (rely guar : σ → σ → Prop) (Q : α → σ → Prop) : Prog σ α → σ → Prop
  | .done a, s => ∀ t, rely s t → Q a t
  | .step effect next, s =>
    ∀ t, rely s t → guar t (effect t) ∧ Safe rely guar Q (next t) (effect t)

/-- A program that is at its end. -/
theorem Safe.done {a : α} {s : σ} : (Prog.done a : Prog σ α).Safe rely guar (fun _ _ => True) s :=
  fun _ _ => trivial

/-- Interference does not spoil it. -/
theorem Safe.stable {Q : α → σ → Prop} {p : Prog σ α} {s t : σ}
    (safe : p.Safe rely guar Q s) (moved : rely s t)
    (trans : ∀ {s t u}, rely s t → rely t u → rely s u) : p.Safe rely guar Q t := by
  cases p with
  | done a => exact fun u further => safe u (trans moved further)
  | step effect next => exact fun u further => safe u (trans moved further)

theorem Safe.bind {Q : α → σ → Prop} {S : β → σ → Prop} (refl : ∀ s, rely s s)
    {p : Prog σ α} {f : α → Prog σ β} {s : σ} (first : p.Safe rely guar Q s)
    (rest : ∀ a t, Q a t → (f a).Safe rely guar S t) :
    (p >>= f).Safe rely guar S s := by
  induction p generalizing s with
  | done a => exact rest a s (first s (refl s))
  | step effect next ih =>
    intro t moved
    obtain ⟨step, after⟩ := first t moved
    exact ⟨step, ih t after⟩

theorem Safe.weaken {Q S : α → σ → Prop} {guar' : σ → σ → Prop}
    (steps : ∀ s t, guar s t → guar' s t) (results : ∀ a s, Q a s → S a s)
    {p : Prog σ α} {s : σ} (safe : p.Safe rely guar Q s) : p.Safe rely guar' S s := by
  induction p generalizing s with
  | done a => exact fun t moved => results a t (safe t moved)
  | step effect next ih =>
    intro t moved
    obtain ⟨step, after⟩ := safe t moved
    exact ⟨steps _ _ step, ih t after⟩

theorem Safe.bind_query {Q : β → σ → Prop} {g : σ → α} {f : α → Prog σ β} {s : σ}
    (reads : ∀ t, guar t t) (rest : ∀ t, rely s t → (f (g t)).Safe rely guar Q t) :
    (query g >>= f).Safe rely guar Q s :=
  fun t moved => ⟨reads t, rest t moved⟩

theorem Safe.bind_exec {σ : Type u} {rely guar : σ → σ → Prop} {β : Type}
    {Q : β → σ → Prop} {g : σ → σ} {f : PUnit → Prog σ β} {s : σ}
    (writes : ∀ t, rely s t → guar t (g t))
    (rest : ∀ t, rely s t → (f ⟨⟩).Safe rely guar Q (g t)) :
    (exec g >>= f).Safe rely guar Q s :=
  fun t moved => ⟨writes t moved, rest t moved⟩

theorem Safe.bind_atomic {Q : β → σ → Prop} {g : σ → σ × α} {f : α → Prog σ β} {s : σ}
    (acts : ∀ t, rely s t → guar t (g t).1)
    (rest : ∀ t, rely s t → (f (g t).2).Safe rely guar Q (g t).1) :
    (atomic g >>= f).Safe rely guar Q s :=
  fun t moved => ⟨acts t moved, rest t moved⟩

/-- A program whose effects satisfy the guarantee and keep `I` wherever `I` holds. -/
theorem Safe.of_kept {I : σ → Prop} (stable : ∀ s t, I s → rely s t → I t) {p : Prog σ α}
    (every : p.Every fun effect => ∀ s, I s → guar s (effect s) ∧ I (effect s)) {s : σ}
    (start : I s) : p.Safe rely guar (fun _ => I) s := by
  induction p generalizing s with
  | done a => exact fun t moved => stable s t start moved
  | step effect next ih =>
    intro t moved
    obtain ⟨step, kept⟩ := every.1 t (stable s t start moved)
    exact ⟨step, ih t (every.2 t) kept⟩

/-- A program all of whose effects satisfy the guarantee wherever they run, and keep
what interference keeps. -/
theorem Safe.of_every {I : σ → Prop} (stable : ∀ s t, I s → rely s t → I t) {p : Prog σ α}
    (every : p.Every fun effect => ∀ s, guar s (effect s) ∧ (I s → I (effect s))) {s : σ}
    (start : I s) : p.Safe rely guar (fun _ => I) s :=
  Safe.of_kept stable (every.mono fun _ both s here => ⟨(both s).1, (both s).2 here⟩) start

/-- A program whose effects satisfy the guarantee wherever `I` holds, when both
interference and the guarantee keep `I`. -/
theorem Safe.of_known {I : σ → Prop} (stable : ∀ s t, I s → rely s t → I t)
    (kept : ∀ s t, I s → guar s t → I t) {p : Prog σ α}
    (every : p.Every fun effect => ∀ s, I s → guar s (effect s)) {s : σ} (start : I s) :
    p.Safe rely guar (fun _ => I) s :=
  Safe.of_kept stable
    (every.mono fun _ steps s here => ⟨steps s here, kept s _ here (steps s here)⟩) start

end Prog

namespace Pool

variable {σ : Type u} {spawn : Spawn σ}

/-- Every step of the schedule satisfies `ok` in the stores before and after it. -/
def Along (spawn : Spawn σ) (ok : σ → σ → Prop) : Pool σ → List Nat → Prop
  | _, [] => True
  | c, i :: schedule =>
    ok c.store (c.advance spawn i).store ∧ Along spawn ok (c.advance spawn i) schedule

instance alongDecidable (spawn : Spawn σ) (ok : σ → σ → Prop) [∀ s t, Decidable (ok s t)] :
    ∀ (c : Pool σ) (schedule : List Nat), Decidable (c.Along spawn ok schedule)
  | _, [] => isTrue trivial
  | c, i :: schedule =>
    have := alongDecidable spawn ok (c.advance spawn i) schedule
    inferInstanceAs (Decidable (_ ∧ _))

/-- A condition on the steps of the programs is one on the steps of their control points. -/
theorem along_coded {κ : Type v} {flow : Flow σ κ} {code : κ → Prog σ PUnit.{1}}
    (presents : flow.Presents code) (starts : σ → σ → List κ) (ok : σ → σ → Prop)
    (c : σ × List κ) (schedule : List Nat) :
    (Flow.pool code c).Along (fun s t => (starts s t).map code) ok schedule ↔
      flow.Along starts (fun c i => ok c.1 (flow.advance starts c i).1) c schedule := by
  induction schedule generalizing c with
  | nil => exact Iff.rfl
  | cons i schedule ih =>
    rw [Along, Flow.Along, Flow.advance_coded presents, ih]
    exact Iff.rfl

/-- Each thread is safe at the store, under its own rely and guarantee. -/
def AllSafe (rely guar : Nat → σ → σ → Prop) (c : Pool σ) : Prop :=
  ∀ i (p : Prog σ PUnit), c.threads[i]? = some p → p.Safe (rely i) (guar i) (fun _ _ => True) c.store

section Safety

variable {rely guar : Nat → σ → σ → Prop}

/-- A pick changes nothing, or makes a step within the guarantee of its thread, and
all threads stay safe. -/
theorem AllSafe.advance (refl : ∀ i s, rely i s s)
    (trans : ∀ i {s t u : σ}, rely i s t → rely i t u → rely i s u)
    (within : ∀ i j s t, i ≠ j → guar i s t → rely j s t) {c : Pool σ}
    (spawned : ∀ i s t, guar i s t → ∀ k (p : Prog σ PUnit), (spawn s t)[k]? = some p →
      p.Safe (rely (c.threads.length + k)) (guar (c.threads.length + k)) (fun _ _ => True) t)
    (safe : c.AllSafe rely guar) (i : Nat) :
    (c.advance spawn i = c ∨ guar i c.store (c.advance spawn i).store) ∧
      (c.advance spawn i).AllSafe rely guar := by
  obtain same | ⟨effect, next, here, moved⟩ := advance_cases spawn c i
  · rw [same]
    exact ⟨.inl rfl, safe⟩
  · obtain ⟨step, after⟩ := safe i _ here c.store (refl i c.store)
    rw [moved]
    refine ⟨.inr step, fun j p found => ?_⟩
    show p.Safe _ _ _ (effect c.store)
    by_cases old : j < c.threads.length
    · rw [List.getElem?_append_left (by simpa using old)] at found
      by_cases self : i = j
      · subst self
        rw [List.getElem?_set_self old] at found
        obtain rfl := Option.some.inj found
        exact after
      · rw [List.getElem?_set_ne self] at found
        have interference : rely j c.store (effect c.store) := within i j _ _ self step
        exact (safe j p found).stable interference (trans j)
    · have late : c.threads.length ≤ j := by omega
      rw [List.getElem?_append_right (by simpa using late), List.length_set] at found
      have placed := spawned i _ _ step _ _ found
      rwa [Nat.add_sub_cancel' late] at placed

/-- **The rely/guarantee rule.**  What steps within the guarantees keep, when they also
meet the condition, every schedule that meets it keeps. -/
theorem safe_run {I : σ → Prop} {C : σ → σ → Prop} (refl : ∀ i s, rely i s s)
    (trans : ∀ i {s t u : σ}, rely i s t → rely i t u → rely i s u)
    (within : ∀ i j s t, i ≠ j → guar i s t → rely j s t)
    (spawned : ∀ i j s t, guar i s t → ∀ p ∈ spawn s t,
      p.Safe (rely j) (guar j) (fun _ _ => True) t)
    (kept : ∀ i s t, guar i s t → C s t → I s → I t) {c : Pool σ}
    (safe : c.AllSafe rely guar) (start : I c.store) {schedule : List Nat}
    (along : c.Along spawn C schedule) : I (c.run spawn schedule).store := by
  induction schedule generalizing c with
  | nil => exact start
  | cons i schedule ih =>
    have spawnedHere : ∀ i s t, guar i s t → ∀ k (p : Prog σ PUnit), (spawn s t)[k]? = some p →
        p.Safe (rely (c.threads.length + k)) (guar (c.threads.length + k))
          (fun _ _ => True) t :=
      fun i s t step k p found => spawned i _ s t step p (List.mem_of_getElem? found)
    obtain ⟨moved, stays⟩ := safe.advance refl trans within spawnedHere i
    refine ih stays ?_ along.2
    rcases moved with same | step
    · rw [same]
      exact start
    · exact kept i _ _ step along.1 start

/-- **The exact rule.**  When a step within the guarantees keeps the invariant exactly if it
meets the condition, the invariant holds throughout a schedule exactly if every step meets it;
`J` is what the guarantees keep by themselves. -/
theorem along_iff_throughout {I J : σ → Prop} {C : σ → σ → Prop} (refl : ∀ i s, rely i s s)
    (trans : ∀ i {s t u : σ}, rely i s t → rely i t u → rely i s u)
    (within : ∀ i j s t, i ≠ j → guar i s t → rely j s t)
    (spawned : ∀ i j s t, guar i s t → ∀ p ∈ spawn s t,
      p.Safe (rely j) (guar j) (fun _ _ => True) t)
    (idle : ∀ s, C s s) (known : ∀ i s t, guar i s t → J s → J t)
    (kept : ∀ i s t, guar i s t → J s → I s → (I t ↔ C s t)) {c : Pool σ}
    (safe : c.AllSafe rely guar) (knows : J c.store) (start : I c.store) (schedule : List Nat) :
    (∀ earlier, earlier <+: schedule → I (c.run spawn earlier).store) ↔
      c.Along spawn C schedule := by
  induction schedule generalizing c with
  | nil => exact forall_prefix_nil.trans (iff_of_true start trivial)
  | cons i schedule ih =>
    have spawnedHere : ∀ i s t, guar i s t → ∀ k (p : Prog σ PUnit), (spawn s t)[k]? = some p →
        p.Safe (rely (c.threads.length + k)) (guar (c.threads.length + k))
          (fun _ _ => True) t :=
      fun i s t step k p found => spawned i _ s t step p (List.mem_of_getElem? found)
    obtain ⟨moved, stays⟩ := safe.advance refl trans within spawnedHere i
    have here : I (c.advance spawn i).store ↔ C c.store (c.advance spawn i).store := by
      rcases moved with same | step
      · rw [same]
        exact iff_of_true start (idle c.store)
      · exact kept i _ _ step knows start
    have after : J (c.advance spawn i).store := by
      rcases moved with same | step
      · rw [same]
        exact knows
      · exact known i _ _ step knows
    rw [forall_prefix_cons]
    constructor
    · rintro ⟨-, throughout⟩
      have first : I (c.advance spawn i).store := throughout [] List.nil_prefix
      exact ⟨here.mp first, (ih stays after first).mp throughout⟩
    · rintro ⟨meets, rest⟩
      exact ⟨start, (ih stays after (here.mpr meets)).mpr rest⟩

end Safety

/-- When a step keeps the invariant exactly if it meets a condition, the invariant holds throughout
a schedule exactly if it holds at its start and every step meets the condition. -/
theorem throughout_iff {I : σ → Prop} {C : σ → σ → Prop} (kept : ∀ s t, I s → (I t ↔ C s t))
    (c : Pool σ) (schedule : List Nat) :
    (∀ earlier, earlier <+: schedule → I (c.run spawn earlier).store) ↔
      I c.store ∧ c.Along spawn C schedule := by
  induction schedule generalizing c with
  | nil => exact forall_prefix_nil.trans ⟨fun start => ⟨start, trivial⟩, And.left⟩
  | cons i schedule ih =>
    rw [forall_prefix_cons, Along]
    refine and_congr_right fun start => ?_
    exact (ih (c.advance spawn i)).trans (and_congr_left fun _ => kept _ _ start)

/-- Every schedule meets the condition that asks for nothing. -/
theorem along_true (c : Pool σ) (schedule : List Nat) :
    c.Along spawn (fun _ _ => True) schedule := by
  induction schedule generalizing c with
  | nil => trivial
  | cons i schedule ih => exact ⟨trivial, ih _⟩

end Pool

end Nixway.Theory
