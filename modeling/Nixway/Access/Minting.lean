/-
# Access.Minting -- tokens that make tokens

`TokenHandler.Create` of `internal/api/handler/token.go`.  It asks for `tokens:write`
and an admin, and checks that every requested scope is a known one; it compares the
request neither with the scopes nor with the team of the token it was made with.  A
chain of requests, each made with the first token or one minted in the chain, is a fold
over the tokens so far.
-/
import Nixway.Access.Tokens

namespace Nixway.Access

open Nixway.Store

set_option autoImplicit false

/-! ## The handler -/

structure CreateTokenRequest where
  name : String
  scopes : List String
  expiresIn : Option String := none

/-- The scopes of a request are checked in order; the first unknown one is reported. -/
def checkScopes : List String → Except Refusal Unit
  | [] => .ok ()
  | scope :: rest =>
    if validTokenScope scope then checkScopes rest
    else .error ⟨400, "unknown token scope: " ++ scope⟩

/-- What a request to create a token meets: the platform, the parsed path and body, the
id and digest a new token gets, the durations `time.ParseDuration` reads, and whether
the insert goes through. -/
structure Minting where
  platform : Platform
  teamID : Option UUID
  body : Option CreateTokenRequest
  generated : Option (UUID × String)
  parseDuration : String → Option Int
  stored : Bool

def checkName (name : String) : Except Refusal Unit :=
  if name = "" then .error ⟨400, "name is required"⟩ else .ok ()

def Minting.expiry (m : Minting) : Option String → Except Refusal (Option Int)
  | none => .ok none
  | some text =>
    match m.parseDuration text with
    | none => .error ⟨400, "invalid expires_in duration"⟩
    | some duration => .ok (some (m.platform.now + duration))

def Minting.create (m : Minting) (ctx : AuthContext) : Except Refusal APIToken := do
  let some teamID := m.teamID | .error ⟨400, "invalid team id"⟩
  let _ ← checkTeamRole m.platform (some ctx) teamID .admin ["tokens:write"]
  let some req := m.body | .error ⟨400, "invalid request body"⟩
  checkName req.name
  checkScopes req.scopes
  let some (id, hash) := m.generated | .error ⟨500, "internal server error"⟩
  let expiresAt ← m.expiry req.expiresIn
  if m.stored then
    .ok
      { id := id
        teamID := teamID
        userID := ctx.userID
        name := req.name
        tokenHash := hash
        scopes := req.scopes
        expiresAt := expiresAt }
  else .error ⟨500, "internal server error"⟩

theorem bind_eq_ok {α β : Type} {x : Except Refusal α} {f : α → Except Refusal β} {b : β}
    (ok : x >>= f = .ok b) : ∃ a, x = .ok a ∧ f a = .ok b := by
  cases x with
  | error refusal => cases ok
  | ok a => exact ⟨a, rfl, ok⟩

/-- A token is minted for the team of the path, with the scopes of the body. -/
theorem create_eq_ok {m : Minting} {ctx : AuthContext} {token : APIToken}
    (created : m.create ctx = .ok token) :
    m.teamID = some token.teamID ∧ ∃ req, m.body = some req ∧ token.scopes = req.scopes := by
  unfold Minting.create at created
  split at created
  · next teamID team =>
    obtain ⟨role, -, created⟩ := bind_eq_ok created
    split at created
    · next req body =>
      obtain ⟨-, -, created⟩ := bind_eq_ok created
      obtain ⟨-, -, created⟩ := bind_eq_ok created
      split at created
      · obtain ⟨expiresAt, -, created⟩ := bind_eq_ok created
        split at created
        · cases created
          exact ⟨team, req, body, rfl⟩
        · cases created
      · cases created
    · cases created
  · cases created

/-! ## Chains -/

/-- A request made with one of the tokens there are. -/
structure Call extends Minting where
  holder : Nat

/-- The tokens after a request: those before it, and the one it minted. -/
def mint (tokens : List APIToken) (call : Call) : List APIToken :=
  match tokens[call.holder]? with
  | none => tokens
  | some token =>
    match call.create token.context with
    | .ok new => tokens ++ [new]
    | .error _ => tokens

/-- The first token and those minted by a sequence of requests. -/
def chain (token : APIToken) (calls : List Call) : List APIToken := calls.foldl mint [token]

/-- `other` reaches no further than `token`: the same team, and no scope beyond. -/
def Within (token other : APIToken) : Prop :=
  other.teamID = token.teamID ∧
    ∀ scope, tokenHasScope other.scopes scope → tokenHasScope token.scopes scope

/-- The request names the team of its token and asks only for scopes its token grants. -/
def Attenuates (token : APIToken) (m : Minting) : Prop :=
  m.teamID = some token.teamID ∧
    ∀ req, m.body = some req → ∀ scope ∈ req.scopes, tokenHasScope token.scopes scope

/-- Every request of the chain attenuates the token it is made with. -/
def Attenuating : List APIToken → List Call → Prop
  | _, [] => True
  | tokens, call :: rest =>
    (∀ token ∈ tokens[call.holder]?, Attenuates token call.toMinting) ∧
      Attenuating (mint tokens call) rest

theorem Within.trans {a b c : APIToken} (first : Within a b) (second : Within b c) :
    Within a c :=
  ⟨second.1.trans first.1, fun scope granted => first.2 scope (second.2 scope granted)⟩

/-- A granted string is granted by one of the scopes. -/
theorem exists_of_tokenHasScope {scopes : List String} {required : String}
    (granted : tokenHasScope scopes required) :
    required = "" ∨ ∃ scope ∈ scopes, tokenHasScope [scope] required := by
  obtain empty | ⟨scope, held, grants⟩ := tokenHasScope_iff.mp granted
  · exact .inl empty
  · exact .inr ⟨scope, held, tokenHasScope_iff.mpr (.inr ⟨scope, by simp, grants⟩)⟩

/-- One request: the new token is within the one it was made with exactly if the
request attenuates it. -/
theorem within_iff_attenuates {token new : APIToken} {m : Minting}
    (created : m.create token.context = .ok new) : Within token new ↔ Attenuates token m := by
  obtain ⟨team, req, body, scopes⟩ := create_eq_ok created
  constructor
  · rintro ⟨home, within⟩
    refine ⟨by rw [team, home], ?_⟩
    intro req' body' scope asked
    obtain rfl : req = req' := Option.some.inj (body.symm.trans body')
    apply within
    apply tokenHasScope_of_mem
    rw [scopes]
    exact asked
  · rintro ⟨home, asks⟩
    refine ⟨Option.some.inj (team.symm.trans home), ?_⟩
    intro required granted
    rw [scopes] at granted
    obtain rfl | ⟨scope, asked, grants⟩ := exists_of_tokenHasScope granted
    · exact tokenHasScope_iff.mpr (.inl rfl)
    · exact tokenHasScope_trans (asks req body scope asked) grants

theorem mint_within {first : APIToken} {tokens : List APIToken} {call : Call}
    (within : ∀ token ∈ tokens, Within first token)
    (attenuates : ∀ token ∈ tokens[call.holder]?, Attenuates token call.toMinting) :
    ∀ token ∈ mint tokens call, Within first token := by
  unfold mint
  split
  · exact within
  · next holder held =>
    split
    · next new created =>
      intro token mem
      obtain earlier | rfl : token ∈ tokens ∨ token = new := by simpa using mem
      · exact within token earlier
      · have own := (within_iff_attenuates created).mpr (attenuates holder held)
        exact (within holder (List.mem_of_getElem? held)).trans own
    · exact within

theorem chain_within {first : APIToken} (calls : List Call) {tokens : List APIToken}
    (within : ∀ token ∈ tokens, Within first token) (attenuating : Attenuating tokens calls) :
    ∀ token ∈ calls.foldl mint tokens, Within first token := by
  induction calls generalizing tokens with
  | nil => exact within
  | cons call rest ih => exact ih (mint_within within attenuating.1) attenuating.2

/-- **When tokens cannot escalate.**  In every chain of requests that each attenuate the
token they are made with, every token is of the first one's team and grants nothing the
first does not; and a single request that mints a token within its own attenuates it. -/
theorem tokens_attenuate (first : APIToken) :
    (∀ calls, Attenuating [first] calls → ∀ token ∈ chain first calls, Within first token) ∧
    ∀ (m : Minting) (new : APIToken), m.create first.context = .ok new →
      (Within first new ↔ Attenuates first m) := by
  refine ⟨?_, fun m new created => within_iff_attenuates created⟩
  intro calls attenuating
  apply chain_within calls ?_ attenuating
  intro token mem
  obtain rfl := List.mem_singleton.mp mem
  exact ⟨rfl, fun scope granted => granted⟩

/-- A token that may only manage tokens, of an admin of two teams. -/
def tokensOnly : APIToken where
  id := 10
  teamID := 1
  userID := 7
  name := "rotate"
  tokenHash := "h:rotate"
  scopes := ["tokens:write"]

def asks (teamID : UUID) (scopes : List String) : Call where
  platform :=
    { memberships := [⟨1, 7, .admin⟩, ⟨2, 7, .admin⟩]
      apiTokens := [tokensOnly]
      sessions := fun _ => none
      hashToken := fun plain => "h:" ++ plain
      now := 0 }
  teamID := some teamID
  body := some { name := "new", scopes := scopes }
  generated := some (11, "h:new")
  parseDuration := fun _ => none
  stored := true
  holder := 0

/-- The first token mints one, and that one the next. -/
def twice : List Call :=
  [asks 1 ["tokens:write"],
   { asks 1 ["tokens:write"] with holder := 1, generated := some (12, "h:newer") }]

theorem tokens_attenuate_again :
    (chain tokensOnly twice).length = 3 ∧ Attenuating [tokensOnly] twice ∧
      ∀ token ∈ chain tokensOnly twice, Within tokensOnly token := by
  have alike : ∀ holder : APIToken, holder.teamID = 1 → holder.scopes = ["tokens:write"] →
      Attenuates holder (asks 1 ["tokens:write"]).toMinting := by
    intro holder team scopes
    refine ⟨congrArg some team.symm, ?_⟩
    intro req body scope asked
    obtain rfl := Option.some.inj body
    rw [scopes]
    exact tokenHasScope_of_mem asked
  have attenuating : Attenuating [tokensOnly] twice := by
    refine ⟨fun token held => ?_, fun token held => ?_, trivial⟩
    · obtain rfl := Option.some.inj held
      exact alike tokensOnly rfl rfl
    · have minted : (mint [tokensOnly] (asks 1 ["tokens:write"]))[1]? =
          some { tokensOnly with id := 11, name := "new", tokenHash := "h:new" } := by
        decide +kernel
      obtain rfl := Option.some.inj (minted.symm.trans held)
      exact alike _ rfl rfl
  exact ⟨by decide +kernel, attenuating, (tokens_attenuate tokensOnly).1 _ attenuating⟩

/-- It asks for a token of the other team with every scope, and gets it. -/
theorem token_escalates :
    chain tokensOnly [asks 2 ["*"]] =
        [tokensOnly, { tokensOnly with id := 11, teamID := 2, name := "new", tokenHash := "h:new"
                                       scopes := ["*"] }] ∧
      tokensOnly.teamID = 1 ∧ tokenHasScope tokensOnly.scopes "servers:write" = false ∧
      ¬ ∀ token ∈ chain tokensOnly [asks 2 ["*"]], Within tokensOnly token := by
  have minted : chain tokensOnly [asks 2 ["*"]] =
      [tokensOnly, { tokensOnly with id := 11, teamID := 2, name := "new", tokenHash := "h:new"
                                     scopes := ["*"] }] := by
    decide +kernel
  refine ⟨minted, rfl, by decide +kernel, fun within => ?_⟩
  rw [minted] at within
  exact absurd (within _ (List.mem_cons_of_mem _ (List.mem_singleton.mpr rfl))).1 (by decide)

end Nixway.Access
