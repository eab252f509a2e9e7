/-
# Theory.Table -- tables with a primary key

A `Table` is a list of rows whose keys are pairwise distinct; the proof is a
field, so a table that violates its primary key cannot be built.  The
operations are those of SQL: `find?` selects by key, `updateWhere` is
`UPDATE ... WHERE`, `deleteWhere` is `DELETE ... WHERE`, and `insert?` refuses a
row whose key is taken.  `update` is `UPDATE ... WHERE key = k`.

By uniqueness a table is a partial map from keys to rows (`find?_eq_some_iff`),
and the lemmas say how each operation changes that map.
-/
import Mathlib.Algebra.Order.Ring.Int
import Mathlib.Data.List.Nodup
import Mathlib.Data.List.Perm.Basic
import Mathlib.Data.List.Sort

namespace Nixway.Theory

set_option autoImplicit false

universe u v

/-- A row type with its primary key. -/
class Keyed (α : Type u) (κ : outParam (Type v)) where
  key : α → κ

open Keyed (key)

/-- Rows with pairwise distinct keys. -/
structure Table (α : Type u) {κ : Type v} [Keyed α κ] where
  rows : List α
  unique : (rows.map key).Nodup

namespace Table

variable {α : Type u} {κ : Type v} [Keyed α κ]

instance : Membership α (Table α) := ⟨fun t r => r ∈ t.rows⟩

theorem mem_def (t : Table α) (r : α) : r ∈ t ↔ r ∈ t.rows := Iff.rfl

def empty : Table α := ⟨[], List.nodup_nil⟩

/-- The table of one row. -/
def single (r : α) : Table α := ⟨[r], List.nodup_singleton _⟩

/-- Two rows of a table with the same key are the same row. -/
theorem eq_of_key_eq {t : Table α} {r r' : α} (hr : r ∈ t) (hr' : r' ∈ t)
    (same : key r = key r') : r = r' :=
  List.inj_on_of_nodup_map t.unique hr hr' same

/-- `UPDATE ... SET ... WHERE p`; the assignment never touches the key. -/
def updateWhere (t : Table α) (p : α → Bool) (f : α → α)
    (keeps : ∀ r, key (f r) = key r := by intro _; rfl) : Table α where
  rows := t.rows.map fun r => if p r then f r else r
  unique := by
    have sameKeys : (t.rows.map fun r => if p r then f r else r).map key = t.rows.map key := by
      rw [List.map_map]
      apply List.map_congr_left
      intro r _
      simp only [Function.comp_apply]
      split
      · exact keeps r
      · rfl
    rw [sameKeys]
    exact t.unique

/-- `DELETE ... WHERE p`. -/
def deleteWhere (t : Table α) (p : α → Bool) : Table α where
  rows := t.rows.filter fun r => !p r
  unique := t.unique.sublist (List.filter_sublist.map key)

@[simp] theorem mem_empty (r : α) : ¬ r ∈ (empty : Table α) := List.not_mem_nil

theorem mem_updateWhere {t : Table α} {p : α → Bool} {f : α → α}
    {keeps : ∀ r, key (f r) = key r} {r : α} :
    r ∈ t.updateWhere p f keeps ↔ ∃ old ∈ t, (if p old then f old else old) = r := by
  simp only [mem_def, updateWhere, List.mem_map]

theorem ext_rows {t t' : Table α} (same : t.rows = t'.rows) : t = t' := by
  cases t
  cases t'
  cases same
  rfl

theorem updateWhere_of_same {t : Table α} {p : α → Bool} {f : α → α}
    {keeps : ∀ r, key (f r) = key r} (same : ∀ r ∈ t, f r = r) : t.updateWhere p f keeps = t := by
  refine ext_rows ((List.map_congr_left fun r member => ?_).trans (List.map_id _))
  rw [same r member, ite_self]
  rfl

theorem mem_deleteWhere {t : Table α} {p : α → Bool} {r : α} :
    r ∈ t.deleteWhere p ↔ r ∈ t ∧ p r = false := by
  simp [mem_def, deleteWhere]

variable [DecidableEq κ]

/-- `SELECT ... WHERE key = k`. -/
def find? (t : Table α) (k : κ) : Option α := t.rows.find? fun r => key r = k

/-- `UPDATE ... SET ... WHERE key = k`. -/
def update (t : Table α) (k : κ) (f : α → α)
    (keeps : ∀ r, key (f r) = key r := by intro _; rfl) : Table α :=
  t.updateWhere (fun r => key r = k) f keeps

/-- `INSERT`, refused when the key is taken. -/
def insert? (t : Table α) (r : α) : Option (Table α) :=
  if fresh : key r ∉ t.rows.map key then
    some ⟨r :: t.rows, by
      rw [List.map_cons, List.nodup_cons]
      exact ⟨fresh, t.unique⟩⟩
  else none

/-- By uniqueness the lookup finds the row of that key, and only that row. -/
theorem find?_eq_some_iff {t : Table α} {k : κ} {r : α} :
    t.find? k = some r ↔ r ∈ t ∧ key r = k := by
  unfold find?
  constructor
  · intro found
    exact ⟨List.mem_of_find?_eq_some found, by simpa using List.find?_some found⟩
  · rintro ⟨member, rfl⟩
    cases found : t.rows.find? fun r' => key r' = key r with
    | none =>
      have missing := List.find?_eq_none.mp found r member
      simp at missing
    | some r' =>
      have same : key r' = key r := by simpa using List.find?_some found
      rw [eq_of_key_eq (List.mem_of_find?_eq_some found) member same]

theorem find?_eq_none_iff {t : Table α} {k : κ} : t.find? k = none ↔ ∀ r ∈ t, key r ≠ k := by
  simp [find?, mem_def]

theorem find?_self {t : Table α} {r : α} (member : r ∈ t) : t.find? (key r) = some r :=
  find?_eq_some_iff.mpr ⟨member, rfl⟩

theorem key_of_find? {t : Table α} {k : κ} {r : α} (found : t.find? k = some r) : key r = k :=
  (find?_eq_some_iff.mp found).2

theorem mem_of_find? {t : Table α} {k : κ} {r : α} (found : t.find? k = some r) : r ∈ t :=
  (find?_eq_some_iff.mp found).1

theorem find?_updateWhere {t : Table α} {p : α → Bool} {f : α → α}
    {keeps : ∀ r, key (f r) = key r} (k : κ) :
    (t.updateWhere p f keeps).find? k = (t.find? k).map fun r => if p r then f r else r := by
  have keyed : ∀ r, key (if p r then f r else r) = key r := by
    intro r
    split
    · exact keeps r
    · rfl
  simp only [find?, updateWhere, List.find?_map, Function.comp_def, keyed]

theorem find?_update {t : Table α} {f : α → α} {keeps : ∀ r, key (f r) = key r} (k k' : κ) :
    (t.update k f keeps).find? k' = if k' = k then (t.find? k').map f else t.find? k' := by
  rw [update, find?_updateWhere]
  cases found : t.find? k' with
  | none => simp
  | some r =>
    have here := key_of_find? found
    subst here
    by_cases same : key r = k <;> simp [same]

@[simp] theorem find?_update_self {t : Table α} {f : α → α} {keeps : ∀ r, key (f r) = key r}
    (k : κ) : (t.update k f keeps).find? k = (t.find? k).map f := by
  rw [find?_update, if_pos rfl]

theorem find?_update_ne {t : Table α} {f : α → α} {keeps : ∀ r, key (f r) = key r} {k k' : κ}
    (other : k' ≠ k) : (t.update k f keeps).find? k' = t.find? k' := by
  rw [find?_update, if_neg other]

theorem isSome_find?_update {t : Table α} {f : α → α} {keeps : ∀ r, key (f r) = key r} (k k' : κ) :
    ((t.update k f keeps).find? k').isSome = (t.find? k').isSome := by
  rw [find?_update]
  split
  · rw [Option.isSome_map]
  · rfl

theorem mem_update {t : Table α} {f : α → α} (keeps : ∀ r, key (f r) = key r) {k : κ} {r : α} :
    r ∈ t.update k f keeps ↔ ∃ old ∈ t, (if key old = k then f old else old) = r := by
  simp only [update, mem_updateWhere, decide_eq_true_eq]

theorem insert?_eq_some_iff {t t' : Table α} {r : α} :
    t.insert? r = some t' ↔ (∀ r' ∈ t, key r' ≠ key r) ∧ t'.rows = r :: t.rows := by
  unfold insert?
  constructor
  · intro inserted
    split at inserted
    · rename_i fresh
      cases inserted
      refine ⟨fun r' hr' same => fresh ?_, rfl⟩
      rw [← same]
      exact List.mem_map_of_mem hr'
    · cases inserted
  · rintro ⟨fresh, rows⟩
    have absent : key r ∉ t.rows.map key := by
      intro taken
      obtain ⟨r', hr', same⟩ := List.mem_map.mp taken
      exact fresh r' hr' same
    rw [dif_pos absent]
    cases t'
    simp_all

theorem insert?_eq_none_iff {t : Table α} {r : α} :
    t.insert? r = none ↔ t.find? (key r) ≠ none := by
  rw [ne_eq, find?_eq_none_iff]
  constructor
  · intro refused free
    unfold insert? at refused
    split at refused
    · cases refused
    · next taken =>
      obtain ⟨r', hr', same⟩ := List.mem_map.mp (not_not.mp taken)
      exact free r' hr' same
  · intro taken
    cases inserted : t.insert? r with
    | none => rfl
    | some t' => exact absurd (insert?_eq_some_iff.mp inserted).1 taken

theorem mem_insert? {t t' : Table α} {r r' : α} (inserted : t.insert? r = some t') :
    r' ∈ t' ↔ r' = r ∨ r' ∈ t := by
  rw [mem_def, (insert?_eq_some_iff.mp inserted).2, List.mem_cons, mem_def]

theorem find?_insert? {t t' : Table α} {r : α} (inserted : t.insert? r = some t') (k : κ) :
    t'.find? k = if key r = k then some r else t.find? k := by
  obtain ⟨-, rows⟩ := insert?_eq_some_iff.mp inserted
  simp only [find?, rows, List.find?_cons]
  split <;> simp_all

/-- The row found stands between rows of other keys. -/
theorem split_of_find? {t : Table α} {k : κ} {r : α} (found : t.find? k = some r) :
    ∃ before after, t.rows = before ++ r :: after ∧ (∀ x ∈ before, key x ≠ k) ∧
      ∀ x ∈ after, key x ≠ k := by
  obtain ⟨member, rfl⟩ := find?_eq_some_iff.mp found
  obtain ⟨before, after, split⟩ := List.append_of_mem (show r ∈ t.rows from member)
  have unique := t.unique
  rw [split, List.map_append, List.map_cons, List.nodup_append, List.nodup_cons] at unique
  obtain ⟨-, ⟨later, -⟩, apart⟩ := unique
  refine ⟨before, after, split, fun x member same => ?_, fun x member same => ?_⟩
  · exact apart _ (List.mem_map_of_mem member) _ List.mem_cons_self same
  · exact later (same ▸ List.mem_map_of_mem member)

theorem map_update_of_ne {xs : List α} {f : α → α} {k : κ} (other : ∀ x ∈ xs, key x ≠ k) :
    (xs.map fun x => if decide (key x = k) = true then f x else x) = xs := by
  have same : (xs.map fun x => if decide (key x = k) = true then f x else x) = xs.map id := by
    refine List.map_congr_left fun x member => ?_
    simp [other x member]
  rw [same, List.map_id]

theorem filter_key_of_ne {xs : List α} {k : κ} (other : ∀ x ∈ xs, key x ≠ k) :
    (xs.filter fun x => !decide (key x = k)) = xs := by
  refine List.filter_eq_self.mpr fun x member => ?_
  simp [other x member]

/-- An update changes a count by the row it rewrites. -/
theorem countP_update {t : Table α} {f : α → α} (keeps : ∀ r, key (f r) = key r) {k : κ} {r : α}
    (found : t.find? k = some r) (p : α → Bool) :
    (t.update k f keeps).rows.countP p + (p r).toNat = t.rows.countP p + (p (f r)).toNat := by
  obtain ⟨before, after, split, earlier, later⟩ := split_of_find? found
  have here := key_of_find? found
  simp only [update, updateWhere, split, List.map_append, List.map_cons, map_update_of_ne earlier,
    map_update_of_ne later, here, decide_true, if_true, List.countP_append, List.countP_cons]
  cases p r <;> cases p (f r) <;> simp <;> omega

/-- A deletion by key loses the row it finds. -/
theorem countP_deleteKey {t : Table α} {k : κ} {r : α} (found : t.find? k = some r)
    (p : α → Bool) :
    (t.deleteWhere fun r => key r = k).rows.countP p + (p r).toNat = t.rows.countP p := by
  obtain ⟨before, after, split, earlier, later⟩ := split_of_find? found
  have here := key_of_find? found
  simp only [deleteWhere, split, List.filter_append, List.filter_cons, filter_key_of_ne earlier,
    filter_key_of_ne later, here, decide_true, Bool.not_true, Bool.false_eq_true, if_false,
    List.countP_append, List.countP_cons]
  cases p r
  · simp
  · simp
    omega

theorem find?_deleteWhere {t : Table α} {p : α → Bool} {k : κ} {r : α}
    (found : t.find? k = some r) (kept : p r = false) :
    (t.deleteWhere p).find? k = some r := by
  obtain ⟨member, here⟩ := find?_eq_some_iff.mp found
  exact find?_eq_some_iff.mpr ⟨mem_deleteWhere.mpr ⟨member, kept⟩, here⟩

theorem find?_deleteWhere_eq {t : Table α} {p : α → Bool} {k : κ} :
    (t.deleteWhere p).find? k = (t.find? k).filter fun r => !p r := by
  cases found : t.find? k with
  | none =>
    refine find?_eq_none_iff.mpr fun r member => ?_
    exact find?_eq_none_iff.mp found r (mem_deleteWhere.mp member).1
  | some r =>
    cases kept : p r with
    | false =>
      rw [find?_deleteWhere found kept, Option.filter_some, kept]
      rfl
    | true =>
      obtain ⟨there, here⟩ := find?_eq_some_iff.mp found
      have gone : (t.deleteWhere p).find? k = none := by
        refine find?_eq_none_iff.mpr fun r' member same => ?_
        obtain ⟨stays, differs⟩ := mem_deleteWhere.mp member
        rw [eq_of_key_eq stays there (same.trans here.symm), kept] at differs
        cases differs
      rw [gone, Option.filter_some, kept]
      rfl

theorem find?_deleteKey_ne {t : Table α} {k k' : κ} (other : k' ≠ k) :
    (t.deleteWhere fun r => key r = k).find? k' = t.find? k' := by
  unfold find? deleteWhere
  rw [List.find?_filter]
  congr 1
  funext r
  by_cases here : key r = k'
  · simp [here, other]
  · simp [here]

theorem find?_deleteKey_self {t : Table α} {k : κ} :
    (t.deleteWhere fun r => key r = k).find? k = none := by
  refine find?_eq_none_iff.mpr fun r mem => ?_
  exact of_decide_eq_false (mem_deleteWhere.mp mem).2

theorem update_of_none {t : Table α} {f : α → α} {keeps : ∀ r, key (f r) = key r} {k : κ}
    (missing : t.find? k = none) : (t.update k f keeps).rows = t.rows :=
  map_update_of_ne (find?_eq_none_iff.mp missing)

theorem deleteKey_of_none {t : Table α} {k : κ} (missing : t.find? k = none) :
    (t.deleteWhere fun r => key r = k).rows = t.rows :=
  filter_key_of_ne (find?_eq_none_iff.mp missing)

/-- An update that leaves a property of every row leaves whether some row has it. -/
theorem any_update {t : Table α} {f : α → α} (keeps : ∀ r, key (f r) = key r) {k : κ}
    {p : α → Bool} (same : ∀ r, p (f r) = p r) :
    (t.update k f keeps).rows.any p = t.rows.any p := by
  simp only [update, updateWhere, List.any_map]
  congr 1
  funext r
  show p (if _ then f r else r) = p r
  split
  · exact same r
  · rfl

theorem any_find?_update {t : Table α} {f : α → α} (keeps : ∀ r, key (f r) = key r) {k : κ}
    {p : α → Bool} (same : ∀ r, p (f r) = p r) (k' : κ) :
    ((t.update k f keeps).find? k').any p = (t.find? k').any p := by
  rw [find?_update]
  split
  · cases t.find? k' with
    | none => rfl
    | some r => exact same r
  · rfl

/-- `INSERT ... ON CONFLICT (key) DO UPDATE`. -/
def upsert (t : Table α) (r : α) : Table α :=
  match t.insert? r with
  | some inserted => inserted
  | none => t.update (key r) (fun old => if key old = key r then r else old) fun old => by
    split
    · next same => exact same.symm
    · rfl

theorem find?_upsert_ne {t : Table α} {r : α} {k : κ} (other : k ≠ key r) :
    (t.upsert r).find? k = t.find? k := by
  unfold upsert
  cases inserted : t.insert? r with
  | some t' => rw [find?_insert? inserted, if_neg (Ne.symm other)]
  | none => exact find?_update_ne other

/-! ## Rows that stay -/

/-- Outside the keys of `own` the second table has the rows of the first. -/
def Frame (own : κ → Prop) (t t' : Table α) : Prop := ∀ k, ¬ own k → t'.find? k = t.find? k

namespace Frame

variable {own : κ → Prop} {t t' t'' : Table α}

theorem refl (own : κ → Prop) (t : Table α) : Frame own t t := fun _ _ => rfl

theorem trans (first : Frame own t t') (second : Frame own t' t'') : Frame own t t'' :=
  fun k foreign => (second k foreign).trans (first k foreign)

/-- An update of a row that is owned, or of none. -/
theorem update {f : α → α} (keeps : ∀ r, key (f r) = key r) {k : κ}
    (ok : own k ∨ t.find? k = none) : Frame own t (t.update k f keeps) := by
  intro k' foreign
  by_cases same : k' = k
  · subst same
    rw [find?_update_self, ok.resolve_left foreign, Option.map_none]
  · exact find?_update_ne same

theorem upsert {r : α} (ok : own (key r)) : Frame own t (t.upsert r) := by
  intro k foreign
  refine find?_upsert_ne ?_
  rintro rfl
  exact foreign ok

end Frame

/-! ## Rows that are new -/

/-- A row that the second table has and the first one has no key for is under a key of `own`, and
satisfies `p`. -/
def Gains (own : List κ) (p : α → Prop) (t t' : Table α) : Prop :=
  ∀ k r, t.find? k = none → t'.find? k = some r → k ∈ own ∧ p r

namespace Gains

variable {own : List κ} {p : α → Prop} {t t' t'' : Table α}

theorem refl (p : α → Prop) (t : Table α) : Gains [] p t t := by
  intro k r missing found
  rw [missing] at found
  cases found

theorem insert (gains : Gains own p t t') {r : α} (inserted : t'.insert? r = some t'')
    (ok : p r) : Gains (key r :: own) p t t'' := by
  intro k r' missing found
  rw [find?_insert? inserted] at found
  split at found
  · next same =>
    cases found
    exact ⟨List.mem_cons.mpr (.inl same.symm), ok⟩
  · obtain ⟨mine, holds⟩ := gains k r' missing found
    exact ⟨List.mem_cons_of_mem _ mine, holds⟩

theorem mono {own' : List κ} (gains : Gains own p t t') (more : own ⊆ own') :
    Gains own' p t t' :=
  fun k r missing found => (gains k r missing found).imp_left fun mine => more mine

theorem deleteWhere {k : κ} (gains : Gains (k :: own) p t t') {q : α → Bool}
    (hits : ∀ r, key r = k → p r → q r = true) : Gains own p t (t'.deleteWhere q) := by
  intro k' r missing found
  rw [find?_deleteWhere_eq, Option.filter_eq_some_iff] at found
  obtain ⟨there, kept⟩ := found
  obtain ⟨mine, holds⟩ := gains k' r missing there
  refine ⟨(List.mem_cons.mp mine).resolve_left fun same => ?_, holds⟩
  rw [hits r ((key_of_find? there).trans same) holds] at kept
  cases kept

theorem nothing (gains : Gains [] p t t') {k : κ} (missing : t.find? k = none) :
    t'.find? k = none := by
  cases found : t'.find? k with
  | none => rfl
  | some r => exact absurd (gains k r missing found).1 List.not_mem_nil

end Gains

end Table

/-! ## ORDER BY ... LIMIT -/

/-- In a list that is strictly ordered by `before`, a row is among the first `k`
exactly when fewer than `k` rows come before it. -/
theorem mem_take_iff_countP {α : Type u} {before : α → α → Prop} [DecidableRel before]
    (asymm : ∀ a b, before a b → ¬ before b a) {l : List α} (ordered : l.Pairwise before)
    {r : α} (member : r ∈ l) (k : Nat) :
    r ∈ l.take k ↔ l.countP (fun a => before a r) < k := by
  induction l generalizing k with
  | nil => cases member
  | cons a l ih =>
    obtain ⟨first, rest⟩ := List.pairwise_cons.mp ordered
    have irrefl : ∀ a, ¬ before a a := fun a h => asymm a a h h
    rcases List.mem_cons.mp member with rfl | later
    · have noneBefore : l.countP (fun a => before a r) = 0 := by
        rw [List.countP_eq_zero]
        intro b hb
        simpa using asymm r b (first b hb)
      cases k with
      | zero => simp
      | succ k => simp [noneBefore, irrefl r]
    · have isBefore : before a r := first r later
      have different : r ≠ a := by
        rintro rfl
        exact irrefl r isBefore
      cases k with
      | zero => simp
      | succ k =>
        rw [List.take_succ_cons, List.mem_cons, ih rest later k, List.countP_cons]
        simp [different, isBefore]

/-- `ORDER BY f DESC LIMIT 1` has an answer if there are rows, and none of them exceeds it. -/
theorem exists_head_insertionSort {α : Type u} (f : α → Nat) {xs : List α} {x : α}
    (member : x ∈ xs) :
    ∃ first, (xs.insertionSort fun a b => f b ≤ f a).head? = some first ∧ f x ≤ f first := by
  have : Std.Total fun a b : α => f b ≤ f a := ⟨fun a b => Nat.le_total (f b) (f a)⟩
  have : IsTrans α fun a b => f b ≤ f a := ⟨fun a b c ab bc => Nat.le_trans bc ab⟩
  have sorted := List.pairwise_insertionSort (fun a b : α => f b ≤ f a) xs
  have inside := (List.mem_insertionSort (fun a b : α => f b ≤ f a)).mpr member
  cases rows : xs.insertionSort fun a b => f b ≤ f a with
  | nil =>
    rw [rows] at inside
    cases inside
  | cons first rest =>
    rw [rows] at inside sorted
    refine ⟨first, rfl, ?_⟩
    rcases List.mem_cons.mp inside with rfl | later
    · exact Nat.le_refl _
    · exact List.rel_of_pairwise_cons sorted later

end Nixway.Theory
