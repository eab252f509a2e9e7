/-
# Github.Reconcile -- making the installations table match GitHub

`reconcileInstallations` of `internal/api/handler/github.go`: the installations GitHub lists
are created, or deleted and created again when the login or the target type drifted, and
stored rows that are not listed are deleted.  Errors of the statements are dropped.  GitHub
lists at most thirty installations when no page is asked for, and `ListInstallations` asks
for none; a row an app refers to cannot be deleted.

Each statement touches the row of one installation, so a run is computed row by row
(`reconcile_row`), and the table matches GitHub afterwards exactly under `Reconcilable`.
-/
import Nixway.Github.Webhook

namespace Nixway.Github

open Nixway.Store (UUID)
open Nixway.Theory

set_option autoImplicit false

/-! ## The run -/

/-- An installation as GitHub has it. -/
structure LiveInstallation where
  id : Int
  login : String
  accountType : String
  repositorySelection : String

def TargetType.text : TargetType → String
  | .all => "all"
  | .selected => "selected"

@[simp] theorem TargetType.ofText_text (t : TargetType) : TargetType.ofText t.text = some t := by
  cases t <;> rfl

/-- A selection that is neither counts as 'selected'. -/
def LiveInstallation.targetType (inst : LiveInstallation) : TargetType :=
  if inst.repositorySelection = "all" then .all else .selected

/-- The first page. -/
def listInstallations (live : List LiveInstallation) : List LiveInstallation := live.take 30

/-- The row is as GitHub has it. -/
def Installation.current (i : Installation) (inst : LiveInstallation) : Bool :=
  i.accountLogin = inst.login && i.targetType = inst.targetType

/-- `draw` gives the id of a new row; the number counts the rows created. -/
def addInstallation (draw : Int → UUID) (app : GithubApp) (st : GithubStore × Nat)
    (inst : LiveInstallation) : GithubStore × Nat :=
  match st.1.createGitHubInstallation (draw inst.id) app.id inst.id inst.login inst.accountType
      inst.targetType.text with
  | some s => (s, st.2 + 1)
  | none => st

def refreshInstallation (draw : Int → UUID) (app : GithubApp) (st : GithubStore × Nat)
    (inst : LiveInstallation) : GithubStore × Nat :=
  match st.1.getGitHubInstallation app.id inst.id with
  | none => addInstallation draw app st inst
  | some existing =>
    if existing.current inst then st
    else addInstallation draw app
      ((st.1.deleteGitHubInstallation app.id inst.id).getD st.1, st.2) inst

def dropInstallation (app : GithubApp) (listed : List LiveInstallation) (s : GithubStore)
    (p : Installation) : GithubStore :=
  if listed.any fun inst => inst.id = p.installationID then s
  else (s.deleteGitHubInstallation app.id p.installationID).getD s

def listGitHubInstallations (s : GithubStore) (githubAppID : UUID) : List Installation :=
  s.installations.rows.filter fun i => i.githubAppID = githubAppID

def reconcileInstallations (draw : Int → UUID) (app : GithubApp) (live : List LiveInstallation)
    (s : GithubStore) : GithubStore × Nat :=
  let listed := listInstallations live
  let st := listed.foldl (refreshInstallation draw app) (s, 0)
  ((listGitHubInstallations st.1 app.id).foldl (dropInstallation app listed) st.1, st.2)

/-! ## Row by row -/

section Rows

variable {draw : Int → UUID} {app : GithubApp} {s t : GithubStore}

/-- Everything but the installations stays. -/
structure Beside (s t : GithubStore) : Prop where
  githubApps : t.githubApps = s.githubApps
  apps : t.apps = s.apps

theorem Beside.refl (s : GithubStore) : Beside s s := ⟨rfl, rfl⟩

theorem Beside.trans {s t u : GithubStore} (first : Beside s t) (second : Beside t u) :
    Beside s u :=
  ⟨second.githubApps.trans first.githubApps, second.apps.trans first.apps⟩

theorem Beside.referenced (beside : Beside s t) (id : UUID) : t.referenced id = s.referenced id := by
  rw [GithubStore.referenced, GithubStore.referenced, beside.apps]

def newRow (draw : Int → UUID) (app : GithubApp) (inst : LiveInstallation)
    (accountType : AccountType) : Installation :=
  ⟨draw inst.id, app.id, inst.id, inst.login, accountType, inst.targetType, false⟩

/-- A row can be created when there is none and the account type passes the CHECK. -/
theorem createGitHubInstallation_eq {inst : LiveInstallation}
    (known : (s.githubApps.find? app.id).isSome) :
    s.createGitHubInstallation (draw inst.id) app.id inst.id inst.login inst.accountType
        inst.targetType.text =
      (AccountType.ofText inst.accountType).bind fun accountType =>
        (s.installations.insert? (newRow draw app inst accountType)).map fun installations =>
          { s with installations := installations } := by
  unfold GithubStore.createGitHubInstallation
  rw [TargetType.ofText_text]
  cases AccountType.ofText inst.accountType with
  | none => rfl
  | some accountType =>
    simp only [newRow, known, guard, if_true, Option.bind_eq_bind, Option.bind_some]
    cases s.installations.insert? ⟨draw inst.id, app.id, inst.id, inst.login, accountType,
      inst.targetType, false⟩ with
    | none => rfl
    | some installations => rfl

/-- What adding an installation leaves in each row. -/
theorem addInstallation_row (draw : Int → UUID) (st : GithubStore × Nat) (inst : LiveInstallation)
    (known : (st.1.githubApps.find? app.id).isSome) :
    Beside st.1 (addInstallation draw app st inst).1 ∧
      ∀ g k, (addInstallation draw app st inst).1.getGitHubInstallation g k =
        if (g, k) = (app.id, inst.id) then
          (st.1.getGitHubInstallation app.id inst.id).or
            ((AccountType.ofText inst.accountType).map (newRow draw app inst))
        else st.1.getGitHubInstallation g k := by
  unfold addInstallation
  rw [createGitHubInstallation_eq known]
  cases AccountType.ofText inst.accountType with
  | none =>
    refine ⟨.refl _, fun g k => ?_⟩
    show st.1.getGitHubInstallation g k = _
    by_cases here : (g, k) = (app.id, inst.id)
    · cases here
      simp
    · rw [if_neg here]
  | some accountType =>
    simp only [Option.bind_some, Option.map_some]
    cases inserted : st.1.installations.insert? (newRow draw app inst accountType) with
    | none =>
      have taken : st.1.getGitHubInstallation app.id inst.id ≠ none :=
        Table.insert?_eq_none_iff.mp inserted
      obtain ⟨row, found⟩ := Option.ne_none_iff_exists'.mp taken
      refine ⟨.refl _, fun g k => ?_⟩
      show st.1.getGitHubInstallation g k = _
      by_cases here : (g, k) = (app.id, inst.id)
      · cases here
        rw [if_pos rfl, found]
        rfl
      · rw [if_neg here]
    | some installations =>
      have free : st.1.getGitHubInstallation app.id inst.id = none :=
        Table.find?_eq_none_iff.mpr (Table.insert?_eq_some_iff.mp inserted).1
      refine ⟨⟨rfl, rfl⟩, fun g k => ?_⟩
      show installations.find? (g, k) = _
      have keyed : Keyed.key (newRow draw app inst accountType) = (app.id, inst.id) := rfl
      rw [Table.find?_insert? inserted, free, keyed]
      by_cases here : (g, k) = (app.id, inst.id)
      · rw [if_pos here, if_pos here.symm]
        rfl
      · rw [if_neg here, if_neg (Ne.symm here)]
        rfl

/-- A deletion takes a row no app refers to. -/
theorem deleteGitHubInstallation_row (s : GithubStore) (githubAppID : UUID) (installationID : Int) :
    Beside s ((s.deleteGitHubInstallation githubAppID installationID).getD s) ∧
      ∀ g k, ((s.deleteGitHubInstallation githubAppID installationID).getD s).getGitHubInstallation g k =
        if (g, k) = (githubAppID, installationID) then
          (s.getGitHubInstallation g k).filter fun e => s.referenced e.id
        else s.getGitHubInstallation g k := by
  unfold GithubStore.deleteGitHubInstallation
  by_cases blocked : (s.getGitHubInstallation githubAppID installationID).any fun i => s.referenced i.id
  · rw [if_pos blocked]
    refine ⟨.refl s, fun g k => ?_⟩
    split
    · next here =>
      cases here
      obtain ⟨e, found, referred⟩ := (Option.any_eq_true _ _).mp blocked
      show s.getGitHubInstallation githubAppID installationID = _
      rw [found, Option.filter_some, if_pos referred]
    · rfl
  · rw [if_neg blocked]
    refine ⟨⟨rfl, rfl⟩, fun g k => ?_⟩
    show (s.installations.deleteWhere _).find? (g, k) = _
    split
    · next here =>
      cases here
      rw [Table.find?_deleteKey_self]
      cases found : s.getGitHubInstallation githubAppID installationID with
      | none => rfl
      | some e =>
        have free : ¬ s.referenced e.id = true := by simpa [found] using blocked
        rw [Option.filter_some, if_neg free]
    · next other => exact Table.find?_deleteKey_ne other

/-- What the first loop makes of the row of a listed installation. -/
def GithubStore.settled (s : GithubStore) (draw : Int → UUID) (app : GithubApp)
    (inst : LiveInstallation) : Option Installation :=
  ((s.getGitHubInstallation app.id inst.id).filter fun e =>
      e.current inst || s.referenced e.id).or
    ((AccountType.ofText inst.accountType).map (newRow draw app inst))

theorem refreshInstallation_row (draw : Int → UUID) (st : GithubStore × Nat) (inst : LiveInstallation)
    (known : (st.1.githubApps.find? app.id).isSome) :
    Beside st.1 (refreshInstallation draw app st inst).1 ∧
      ∀ g k, (refreshInstallation draw app st inst).1.getGitHubInstallation g k =
        if (g, k) = (app.id, inst.id) then st.1.settled draw app inst
        else st.1.getGitHubInstallation g k := by
  unfold refreshInstallation GithubStore.settled
  cases found : st.1.getGitHubInstallation app.id inst.id with
  | none =>
    obtain ⟨beside, rows⟩ := addInstallation_row draw st inst known
    refine ⟨beside, fun g k => ?_⟩
    rw [rows, found]
    rfl
  | some existing =>
    by_cases fresh : existing.current inst
    · dsimp only
      rw [if_pos fresh]
      refine ⟨.refl _, fun g k => ?_⟩
      by_cases here : (g, k) = (app.id, inst.id)
      · cases here
        rw [if_pos rfl, Option.filter_some, fresh]
        exact found
      · rw [if_neg here]
    · dsimp only
      rw [if_neg fresh]
      obtain ⟨deleted, rows⟩ := deleteGitHubInstallation_row st.1 app.id inst.id
      generalize (st.1.deleteGitHubInstallation app.id inst.id).getD st.1 = t at deleted rows
      obtain ⟨added, rowsAdded⟩ := addInstallation_row draw (t, st.2) inst
        (by rw [deleted.githubApps]; exact known)
      refine ⟨deleted.trans added, fun g k => ?_⟩
      rw [rowsAdded]
      split
      · show (t.getGitHubInstallation app.id inst.id).or _ = _
        have stale : existing.current inst = false := by simpa using fresh
        rw [rows, if_pos rfl, found, Option.filter_some, Option.filter_some, stale, Bool.false_or]
      · next other =>
        show t.getGitHubInstallation g k = _
        rw [rows, if_neg other]

theorem GithubStore.settled_congr {inst : LiveInstallation} (beside : Beside s t)
    (row : t.getGitHubInstallation app.id inst.id = s.getGitHubInstallation app.id inst.id) :
    t.settled draw app inst = s.settled draw app inst := by
  unfold GithubStore.settled
  rw [row]
  simp only [beside.referenced]

/-- **The first loop, row by row.** -/
theorem refresh_rows (draw : Int → UUID) (listed : List LiveInstallation) (distinct : (listed.map (·.id)).Nodup)
    (st : GithubStore × Nat) (known : (st.1.githubApps.find? app.id).isSome) :
    Beside st.1 (listed.foldl (refreshInstallation draw app) st).1 ∧
      ∀ g k, (listed.foldl (refreshInstallation draw app) st).1.getGitHubInstallation g k =
        match listed.find? fun inst => (g, k) = (app.id, inst.id) with
        | some inst => st.1.settled draw app inst
        | none => st.1.getGitHubInstallation g k := by
  induction listed generalizing st with
  | nil => exact ⟨.refl _, fun _ _ => rfl⟩
  | cons inst rest ih =>
    obtain ⟨first, distinct⟩ := List.nodup_cons.mp distinct
    obtain ⟨beside, rows⟩ := refreshInstallation_row draw st inst known
    obtain ⟨besideRest, rowsRest⟩ := ih distinct (refreshInstallation draw app st inst)
      (by rw [beside.githubApps]; exact known)
    refine ⟨beside.trans besideRest, fun g k => ?_⟩
    rw [List.foldl_cons, rowsRest]
    by_cases here : (g, k) = (app.id, inst.id)
    · have later : (rest.find? fun other => (g, k) = (app.id, other.id)) = none := by
        refine List.find?_eq_none.mpr fun other mem same => first ?_
        rw [decide_eq_true_eq, here] at same
        show inst.id ∈ _
        rw [(Prod.mk.inj same).2]
        exact List.mem_map_of_mem mem
      rw [later, List.find?_cons_of_pos (p := fun other : LiveInstallation =>
        decide ((g, k) = (app.id, other.id))) (decide_eq_true here)]
      dsimp only
      rw [rows, if_pos here]
    · have skipped : ¬ decide ((g, k) = (app.id, inst.id)) = true := by simpa using here
      rw [List.find?_cons_of_neg (p := fun other : LiveInstallation =>
        decide ((g, k) = (app.id, other.id))) skipped]
      cases found : rest.find? fun other => (g, k) = (app.id, other.id) with
      | none =>
        dsimp only
        rw [rows, if_neg here]
      | some other =>
        have same : (g, k) = (app.id, other.id) := by simpa using List.find?_some found
        dsimp only
        refine GithubStore.settled_congr beside ?_
        rw [rows, if_neg]
        exact fun twin => here (same.trans twin)

/-- The second loop takes the rows that are not listed and that no app refers to. -/
theorem drop_rows (app : GithubApp) (listed : List LiveInstallation) (rows : List Installation) (s : GithubStore) :
    Beside s (rows.foldl (dropInstallation app listed) s) ∧
      ∀ g k, (rows.foldl (dropInstallation app listed) s).getGitHubInstallation g k =
        if g = app.id ∧ (∃ p ∈ rows, p.installationID = k) ∧ ∀ inst ∈ listed, inst.id ≠ k then
          (s.getGitHubInstallation g k).filter fun e => s.referenced e.id
        else s.getGitHubInstallation g k := by
  induction rows generalizing s with
  | nil => exact ⟨.refl s, fun g k => by simp⟩
  | cons p rows ih =>
    rw [List.foldl_cons]
    by_cases known : listed.any fun inst => inst.id = p.installationID
    · have kept : dropInstallation app listed s p = s := if_pos known
      obtain ⟨beside, rest⟩ := ih s
      rw [kept]
      refine ⟨beside, fun g k => ?_⟩
      rw [rest]
      obtain ⟨inst, mem, same⟩ : ∃ inst ∈ listed, inst.id = p.installationID := by simpa using known
      congr 1
      refine propext (and_congr_right fun _ => and_congr_left fun unlisted => ?_)
      refine ⟨fun ⟨q, later, at_⟩ => ⟨q, List.mem_cons_of_mem p later, at_⟩, ?_⟩
      rintro ⟨q, here, rfl⟩
      rcases List.mem_cons.mp here with rfl | later
      · exact absurd same (unlisted inst mem)
      · exact ⟨q, later, rfl⟩
    · have dropped : dropInstallation app listed s p =
          (s.deleteGitHubInstallation app.id p.installationID).getD s := if_neg known
      obtain ⟨deleted, first⟩ := deleteGitHubInstallation_row s app.id p.installationID
      rw [← dropped] at deleted first
      generalize dropInstallation app listed s p = t at deleted first
      obtain ⟨beside, rest⟩ := ih t
      refine ⟨deleted.trans beside, fun g k => ?_⟩
      have unlisted : ∀ inst ∈ listed, inst.id ≠ p.installationID := by simpa using known
      rw [rest, first]
      simp only [deleted.referenced]
      by_cases here : (g, k) = (app.id, p.installationID)
      · cases here
        have taken : app.id = app.id ∧ (∃ q ∈ p :: rows, q.installationID = p.installationID) ∧
            ∀ inst ∈ listed, inst.id ≠ p.installationID :=
          ⟨rfl, ⟨p, List.mem_cons_self, rfl⟩, unlisted⟩
        rw [if_pos rfl]
        split
        · rw [Option.filter_filter]
          simp
        · rfl
      · rw [if_neg here]
        congr 1
        refine propext (and_congr_right fun own => and_congr_left fun _ => ?_)
        refine ⟨fun ⟨q, later, at_⟩ => ⟨q, List.mem_cons_of_mem p later, at_⟩, ?_⟩
        rintro ⟨q, there, rfl⟩
        rcases List.mem_cons.mp there with rfl | later
        · exact absurd (by rw [own]) here
        · exact ⟨q, later, rfl⟩

theorem find?_id_of_mem {live : List LiveInstallation} (distinct : (live.map (·.id)).Nodup)
    {inst : LiveInstallation} (mem : inst ∈ live) :
    (live.find? fun other => other.id = inst.id) = some inst := by
  cases found : live.find? fun other => other.id = inst.id with
  | none => exact absurd (decide_eq_true rfl) (List.find?_eq_none.mp found inst mem)
  | some other =>
    have same : other.id = inst.id := by simpa using List.find?_some found
    rw [List.inj_on_of_nodup_map distinct (List.mem_of_find?_eq_some found) mem same]

/-- **A run, row by row.** -/
theorem reconcile_row (draw : Int → UUID) {live : List LiveInstallation}
    (distinct : (live.map (·.id)).Nodup) (known : (s.githubApps.find? app.id).isSome) :
    Beside s (reconcileInstallations draw app live s).1 ∧
      ∀ g k, (reconcileInstallations draw app live s).1.getGitHubInstallation g k =
        if g = app.id then
          match (listInstallations live).find? fun inst => inst.id = k with
          | some inst => s.settled draw app inst
          | none => (s.getGitHubInstallation g k).filter fun e => s.referenced e.id
        else s.getGitHubInstallation g k := by
  have distinctListed : ((listInstallations live).map (·.id)).Nodup :=
    distinct.sublist ((List.take_sublist 30 live).map _)
  obtain ⟨refreshed, rows⟩ := refresh_rows draw (listInstallations live) distinctListed (s, 0) known
  unfold reconcileInstallations
  dsimp only
  generalize ((listInstallations live).foldl (refreshInstallation draw app) (s, 0)).1 = t
    at refreshed rows
  obtain ⟨dropped, rest⟩ := drop_rows app (listInstallations live)
    (listGitHubInstallations t app.id) t
  refine ⟨refreshed.trans dropped, fun g k => ?_⟩
  rw [rest]
  by_cases own : g = app.id
  · subst own
    have paired : ((listInstallations live).find? fun inst => (app.id, k) = (app.id, inst.id)) =
        (listInstallations live).find? fun inst => inst.id = k := by
      congr 1
      funext inst
      simp [eq_comm]
    have row := rows app.id k
    rw [paired] at row
    rw [if_pos rfl]
    cases found : (listInstallations live).find? fun inst => inst.id = k with
    | some inst =>
      rw [found] at row
      have here : inst.id = k := by simpa using List.find?_some found
      rw [if_neg, row]
      rintro ⟨-, -, unlisted⟩
      exact unlisted inst (List.mem_of_find?_eq_some found) here
    | none =>
      rw [found] at row
      have unlisted : ∀ inst ∈ listInstallations live, inst.id ≠ k := by
        simpa using List.find?_eq_none.mp found
      dsimp only at row ⊢
      cases stored : s.getGitHubInstallation app.id k with
      | none =>
        rw [row, stored]
        split <;> rfl
      | some e =>
        rw [row, stored, if_pos]
        · simp only [refreshed.referenced]
        · refine ⟨rfl, ⟨e, ?_, ?_⟩, unlisted⟩
          · rw [stored] at row
            obtain ⟨mem, key⟩ := Table.find?_eq_some_iff.mp row
            exact List.mem_filter.mpr ⟨mem, by simpa using (Prod.mk.inj key).1⟩
          · exact (Prod.mk.inj (Table.key_of_find? stored)).2
  · rw [if_neg (fun ⟨same, _⟩ => own same), if_neg own, rows]
    have elsewhere : ((listInstallations live).find? fun inst => (g, k) = (app.id, inst.id)) = none :=
      List.find?_eq_none.mpr fun inst _ same => own (Prod.mk.inj (of_decide_eq_true same)).1
    rw [elsewhere]

end Rows

/-! ## When the table matches -/

/-- The rows of the GitHub App are exactly the live installations, as GitHub has them. -/
structure Matches (app : GithubApp) (live : List LiveInstallation) (s : GithubStore) : Prop where
  stored : ∀ inst ∈ live, ∃ e, s.getGitHubInstallation app.id inst.id = some e ∧ e.current inst
  live : ∀ k e, s.getGitHubInstallation app.id k = some e → ∃ inst ∈ live, inst.id = k

/-- An app that refers to an installation that is still live still does. -/
def KeepsReferences (app : GithubApp) (live : List LiveInstallation) (s t : GithubStore) : Prop :=
  ∀ a ∈ s.apps, ∀ e ∈ s.installations, a.githubInstallationID = some e.id → e.githubAppID = app.id →
    (∃ inst ∈ live, inst.id = e.installationID) → a ∈ t.apps ∧ e ∈ t.installations

/-- The account type passes the CHECK. -/
def LiveInstallation.valid (inst : LiveInstallation) : Bool :=
  (AccountType.ofText inst.accountType).isSome

/-- What a run needs to find: an installation on the first page that has no row, or a stale one
no app refers to, must have a valid account type, and a stale row must not be referred to;
an installation beyond the first page must have a current row an app refers to; and the row
of one that is gone must not be referred to. -/
structure Reconcilable (app : GithubApp) (live : List LiveInstallation) (s : GithubStore) : Prop where
  listed : ∀ inst ∈ live.take 30,
    (s.getGitHubInstallation app.id inst.id = none → inst.valid) ∧
    ∀ e, s.getGitHubInstallation app.id inst.id = some e → e.current inst = false →
      s.referenced e.id = false ∧ inst.valid
  beyond : ∀ inst ∈ live.drop 30, ∃ e, s.getGitHubInstallation app.id inst.id = some e ∧
    e.current inst ∧ s.referenced e.id
  gone : ∀ k e, s.getGitHubInstallation app.id k = some e → (∀ inst ∈ live, inst.id ≠ k) →
    s.referenced e.id = false

section Theorem

variable {app : GithubApp} {live : List LiveInstallation} {s : GithubStore}

theorem newRow_current (draw : Int → UUID) (app : GithubApp) (inst : LiveInstallation) (accountType : AccountType) :
    (newRow draw app inst accountType).current inst := by
  simp [newRow, Installation.current]

/-- The row of a listed installation ends current exactly under the condition for it. -/
theorem settled_current_iff (draw : Int → UUID) (inst : LiveInstallation) :
    (∃ e, s.settled draw app inst = some e ∧ e.current inst) ↔
      (s.getGitHubInstallation app.id inst.id = none → inst.valid) ∧
      ∀ e, s.getGitHubInstallation app.id inst.id = some e → e.current inst = false →
        s.referenced e.id = false ∧ inst.valid := by
  have created : (∃ e, (AccountType.ofText inst.accountType).map (newRow draw app inst) = some e ∧
      e.current inst) ↔ inst.valid := by
    unfold LiveInstallation.valid
    cases AccountType.ofText inst.accountType with
    | none => simp
    | some accountType => simpa using newRow_current draw app inst accountType
  unfold GithubStore.settled
  cases s.getGitHubInstallation app.id inst.id with
  | none => simpa using created
  | some e =>
    cases fresh : e.current inst with
    | true => simp [fresh]
    | false =>
      cases referred : s.referenced e.id with
      | true => simp [fresh, referred]
      | false =>
        rw [Option.filter_some, fresh, referred, Bool.or_self, if_neg Bool.false_ne_true,
          Option.none_or, created]
        constructor
        · intro valid
          refine ⟨fun missing => valid, fun e' same _ => ?_⟩
          cases same
          exact ⟨referred, valid⟩
        · exact fun asked => (asked.2 e rfl fresh).2

/-- A listed installation that is stored and current is left alone. -/
theorem refresh_current (draw : Int → UUID) (listed : List LiveInstallation) (n : Nat)
    (current : ∀ inst ∈ listed, ∃ e, s.getGitHubInstallation app.id inst.id = some e ∧
      e.current inst) :
    listed.foldl (refreshInstallation draw app) (s, n) = (s, n) := by
  induction listed with
  | nil => rfl
  | cons inst rest ih =>
    obtain ⟨e, found, fresh⟩ := current inst List.mem_cons_self
    have skipped : refreshInstallation draw app (s, n) inst = (s, n) := by
      unfold refreshInstallation
      rw [show (s, n).1.getGitHubInstallation app.id inst.id = some e from found]
      exact if_pos fresh
    rw [List.foldl_cons, skipped]
    exact ih fun other mem => current other (List.mem_cons_of_mem inst mem)

/-- A row that is listed or referred to is not dropped. -/
theorem drop_blocked (listed : List LiveInstallation) (rows : List Installation)
    (blocked : ∀ p ∈ rows, (∃ inst ∈ listed, inst.id = p.installationID) ∨
      ∃ e, s.getGitHubInstallation app.id p.installationID = some e ∧ s.referenced e.id) :
    rows.foldl (dropInstallation app listed) s = s := by
  induction rows with
  | nil => rfl
  | cons p rows ih =>
    have kept : dropInstallation app listed s p = s := by
      unfold dropInstallation
      rcases blocked p List.mem_cons_self with ⟨inst, mem, same⟩ | ⟨e, found, referred⟩
      · exact if_pos (List.any_eq_true.mpr ⟨inst, mem, decide_eq_true same⟩)
      · split
        · rfl
        · unfold GithubStore.deleteGitHubInstallation
          rw [if_pos (by rw [found]; exact referred)]
          rfl
    rw [List.foldl_cons, kept]
    exact ih fun q mem => blocked q (List.mem_cons_of_mem p mem)

/-- A referenced row outlives the run. -/
theorem reconcile_keeps_references (draw : Int → UUID) (distinct : (live.map (·.id)).Nodup)
    (known : (s.githubApps.find? app.id).isSome) :
    KeepsReferences app live s (reconcileInstallations draw app live s).1 := by
  obtain ⟨beside, rows⟩ := reconcile_row draw distinct known
  intro a mem e stored refers own _
  refine ⟨by rw [beside.apps]; exact mem, ?_⟩
  have referred : s.referenced e.id :=
    List.any_eq_true.mpr ⟨a, mem, decide_eq_true refers⟩
  have found : s.getGitHubInstallation app.id e.installationID = some e := by
    rw [← own]
    exact Table.find?_self stored
  have row := rows app.id e.installationID
  rw [if_pos rfl] at row
  apply Table.mem_of_find? (k := (app.id, e.installationID))
  refine row.trans ?_
  cases listed : (listInstallations live).find? fun inst => inst.id = e.installationID with
  | none =>
    show (s.getGitHubInstallation app.id e.installationID).filter _ = _
    rw [found, Option.filter_some, if_pos referred]
  | some inst =>
    have same : inst.id = e.installationID := by simpa using List.find?_some listed
    show s.settled draw app inst = _
    unfold GithubStore.settled
    rw [same, found, Option.filter_some, referred, Bool.or_true]
    rfl

/-- A listed installation's row after the run. -/
theorem reconcile_listed (draw : Int → UUID) (distinct : (live.map (·.id)).Nodup)
    (known : (s.githubApps.find? app.id).isSome) {inst : LiveInstallation}
    (mem : inst ∈ live.take 30) :
    (reconcileInstallations draw app live s).1.getGitHubInstallation app.id inst.id =
      s.settled draw app inst := by
  have distinctListed : ((live.take 30).map (·.id)).Nodup :=
    distinct.sublist ((List.take_sublist 30 live).map _)
  rw [(reconcile_row draw distinct known).2, if_pos rfl, listInstallations,
    find?_id_of_mem distinctListed mem]

/-- A row that is not listed, after the run. -/
theorem reconcile_unlisted (draw : Int → UUID) (distinct : (live.map (·.id)).Nodup)
    (known : (s.githubApps.find? app.id).isSome) {k : Int} (absent : ∀ inst ∈ live.take 30, inst.id ≠ k) :
    (reconcileInstallations draw app live s).1.getGitHubInstallation app.id k =
      (s.getGitHubInstallation app.id k).filter fun e => s.referenced e.id := by
  have none : ((live.take 30).find? fun inst => inst.id = k) = none :=
    List.find?_eq_none.mpr fun inst mem => by simpa using absent inst mem
  rw [(reconcile_row draw distinct known).2, if_pos rfl, listInstallations, none]

/-- An installation beyond the first page is not on it. -/
theorem beyond_unlisted (distinct : (live.map (·.id)).Nodup) {inst : LiveInstallation}
    (late : inst ∈ live.drop 30) : ∀ other ∈ live.take 30, other.id ≠ inst.id := by
  rw [← List.take_append_drop 30 live, List.map_append] at distinct
  intro other early same
  exact (List.nodup_append.mp distinct).2.2 other.id (List.mem_map_of_mem early) inst.id
    (List.mem_map_of_mem late) same

/-- **After one run the table matches exactly when it was reconcilable.** -/
theorem matches_iff (draw : Int → UUID) (distinct : (live.map (·.id)).Nodup)
    (known : (s.githubApps.find? app.id).isSome) :
    Matches app live (reconcileInstallations draw app live s).1 ↔ Reconcilable app live s := by
  constructor
  · intro settled
    refine ⟨fun inst mem => ?_, fun inst mem => ?_, fun k e found absent => ?_⟩
    · apply (settled_current_iff draw inst).mp
      obtain ⟨e, row, fresh⟩ := settled.stored inst (List.mem_of_mem_take mem)
      rw [reconcile_listed draw distinct known mem] at row
      exact ⟨e, row, fresh⟩
    · obtain ⟨e, row, fresh⟩ := settled.stored inst (List.mem_of_mem_drop mem)
      rw [reconcile_unlisted draw distinct known (beyond_unlisted distinct mem)] at row
      obtain ⟨stored, referred⟩ := Option.filter_eq_some_iff.mp row
      exact ⟨e, stored, fresh, referred⟩
    · by_contra referred
      have kept : (reconcileInstallations draw app live s).1.getGitHubInstallation app.id k =
          some e := by
        rw [reconcile_unlisted draw distinct known
          fun inst mem => absent inst (List.mem_of_mem_take mem), found, Option.filter_some,
          if_pos (by simpa using referred)]
      obtain ⟨inst, mem, same⟩ := settled.live k e kept
      exact absent inst mem same
  · intro ready
    refine ⟨fun inst mem => ?_, fun k e found => ?_⟩
    · rw [← List.take_append_drop 30 live] at mem
      rcases List.mem_append.mp mem with early | late
      · rw [reconcile_listed draw distinct known early]
        exact (settled_current_iff draw inst).mpr (ready.listed inst early)
      · obtain ⟨e, found, fresh, referred⟩ := ready.beyond inst late
        refine ⟨e, ?_, fresh⟩
        rw [reconcile_unlisted draw distinct known (beyond_unlisted distinct late), found,
          Option.filter_some, if_pos referred]
    · by_contra absent
      have gone : ∀ inst ∈ live, inst.id ≠ k := fun inst mem same => absent ⟨inst, mem, same⟩
      rw [reconcile_unlisted draw distinct known
        fun inst mem => gone inst (List.mem_of_mem_take mem)] at found
      obtain ⟨row, referred⟩ := Option.filter_eq_some_iff.mp found
      rw [ready.gone k e row gone] at referred
      cases referred

/-- **A second run finds nothing to do.** -/
theorem reconcile_again (draw draw' : Int → UUID) (distinct : (live.map (·.id)).Nodup)
    (known : (s.githubApps.find? app.id).isSome)
    (settled : Matches app live (reconcileInstallations draw app live s).1) :
    reconcileInstallations draw' app live (reconcileInstallations draw app live s).1 =
      ((reconcileInstallations draw app live s).1, 0) := by
  have beside := (reconcile_row draw distinct known).1
  have skipped := refresh_current draw' (listInstallations live) 0
    fun inst mem => settled.stored inst (List.mem_of_mem_take mem)
  rw [reconcileInstallations, skipped]
  refine Prod.ext (drop_blocked _ _ fun p mem => ?_) rfl
  obtain ⟨stored, own⟩ := List.mem_filter.mp mem
  have row : (reconcileInstallations draw app live s).1.getGitHubInstallation app.id
      p.installationID = some p := by
    rw [← of_decide_eq_true own]
    exact Table.find?_self stored
  by_cases page : ∃ inst ∈ live.take 30, inst.id = p.installationID
  · exact .inl page
  · refine .inr ⟨p, row, ?_⟩
    rw [reconcile_unlisted draw distinct known
      fun inst early same => page ⟨inst, early, same⟩] at row
    rw [beside.referenced]
    exact (Option.filter_eq_some_iff.mp row).2

/-- **When one run reconciles.**  For every set of live installations, of any size, every stored
table and every set of apps that refer to its rows: after one run the rows of the GitHub App
are exactly the live installations with their login and target type, every app that
referred to one of them still does, and a second run changes nothing and creates none,
exactly when the store was `Reconcilable`. -/
theorem reconciled_iff (draw : Int → UUID) (app : GithubApp) (live : List LiveInstallation)
    (s : GithubStore) (distinct : (live.map (·.id)).Nodup)
    (known : (s.githubApps.find? app.id).isSome) :
    (Matches app live (reconcileInstallations draw app live s).1 ∧
      KeepsReferences app live s (reconcileInstallations draw app live s).1 ∧
      ∀ draw', reconcileInstallations draw' app live (reconcileInstallations draw app live s).1 =
        ((reconcileInstallations draw app live s).1, 0)) ↔
      Reconcilable app live s := by
  constructor
  · rintro ⟨settled, -, -⟩
    exact (matches_iff draw distinct known).mp settled
  · intro ready
    have settled := (matches_iff draw distinct known).mpr ready
    exact ⟨settled, reconcile_keeps_references draw distinct known,
      fun draw' => reconcile_again draw draw' distinct known settled⟩

end Theorem

/-- The GitHub App 10 with rows for the installations 98 and 99, an app that refers to 99. -/
def twoInstallations : GithubStore where
  githubApps := ⟨[⟨10, 1, 4711, []⟩], by decide⟩
  installations := ⟨[⟨50, 10, 98, "beta", .user, .selected, false⟩,
    ⟨51, 10, 99, "acme", .organization, .all, false⟩], by decide⟩
  apps := ⟨[⟨40, 20, some 51, some "acme/site", none, true⟩], by decide⟩

/-- The installation 98 is gone, 99 is as stored and 100 is new. -/
theorem new_and_gone_reconciled :
    Matches ⟨10, 1, 4711, []⟩
      [⟨99, "acme", "Organization", "all"⟩, ⟨100, "gamma", "User", "selected"⟩]
      (reconcileInstallations (fun _ => 52) ⟨10, 1, 4711, []⟩
        [⟨99, "acme", "Organization", "all"⟩, ⟨100, "gamma", "User", "selected"⟩]
        twoInstallations).1 := by
  refine ((reconciled_iff (fun _ => 52) ⟨10, 1, 4711, []⟩ _ twoInstallations
    (by decide) (by decide)).mpr ⟨?_, ?_, ?_⟩).1
  · intro inst mem
    rcases List.mem_cons.mp mem with rfl | mem
    · refine ⟨fun missing => absurd missing (by decide), fun e found stale => ?_⟩
      obtain rfl : ⟨51, 10, 99, "acme", .organization, .all, false⟩ = e :=
        Option.some.inj ((by decide : twoInstallations.getGitHubInstallation 10 99 =
          some ⟨51, 10, 99, "acme", .organization, .all, false⟩).symm.trans found)
      exact absurd stale (by decide)
    · obtain rfl := List.mem_singleton.mp mem
      refine ⟨fun _ => by decide, fun e found => ?_⟩
      exact absurd found ((by decide : twoInstallations.getGitHubInstallation 10 100 = none) ▸
        (Option.some_ne_none e).symm)
  · exact fun inst mem => absurd mem List.not_mem_nil
  · intro k e found absent
    obtain ⟨stored, key⟩ := Table.find?_eq_some_iff.mp found
    rcases List.mem_cons.mp stored with rfl | stored
    · decide
    · obtain rfl := List.mem_singleton.mp stored
      exact absurd (Prod.mk.inj key).2 (absent _ List.mem_cons_self)

/-- The organization was renamed: its row is referred to, so it can be neither deleted nor
created again. -/
theorem renamed_stays_stale :
    (reconcileInstallations (fun _ => 52) ⟨10, 1, 4711, []⟩
        [⟨99, "acme-corp", "Organization", "all"⟩] twoInstallations).1.getGitHubInstallation 10 99 =
      some ⟨51, 10, 99, "acme", .organization, .all, false⟩ ∧
    ¬ Matches ⟨10, 1, 4711, []⟩ [⟨99, "acme-corp", "Organization", "all"⟩]
      (reconcileInstallations (fun _ => 52) ⟨10, 1, 4711, []⟩
        [⟨99, "acme-corp", "Organization", "all"⟩] twoInstallations).1 := by
  have stale : (reconcileInstallations (fun _ => 52) ⟨10, 1, 4711, []⟩
      [⟨99, "acme-corp", "Organization", "all"⟩] twoInstallations).1.getGitHubInstallation 10 99 =
        some ⟨51, 10, 99, "acme", .organization, .all, false⟩ := by decide
  refine ⟨stale, fun settled => ?_⟩
  obtain ⟨e, found, fresh⟩ := settled.stored _ List.mem_cons_self
  obtain rfl := Option.some.inj (stale.symm.trans found)
  exact absurd fresh (by decide)

end Nixway.Github
