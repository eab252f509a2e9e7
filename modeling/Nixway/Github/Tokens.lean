/-
# Github.Tokens -- installation tokens and their cache

`GetInstallationToken` of `internal/github/service.go` asks GitHub for a token with a JWT made
from the caller's app id and private key, and keeps the token in `TokenCache`, keyed by the
installation alone.  A call that finds a fresh token there is answered without its own
app id or key being looked at.

What GitHub would answer is part of each call.  The one thing asked of GitHub is that it
issues a token for an installation only to a JWT of the app that owns it.  Then every
cached token was issued to the owner, and a token crosses apps exactly when a call of
another app finds it fresh (`tokens_confined_iff_own`).
-/
import Nixway.Github.Webhook

namespace Nixway.Github

set_option autoImplicit false

/-! ## The service -/

/-- A token with the app id of the request it was issued to, which nothing reads. -/
structure IssuedToken where
  text : String
  issuedTo : Int

/-- `cachedToken`; times are in nanoseconds. -/
structure CachedToken where
  token : IssuedToken
  expiry : Int

abbrev TokenCache := Int → Option CachedToken

def minute : Int := 60 * 1000000000

/-- A token that lives for five more minutes. -/
def TokenCache.get (cache : TokenCache) (now installationID : Int) : Option IssuedToken :=
  match cache installationID with
  | none => none
  | some cached => if cached.expiry < now + 5 * minute then none else some cached.token

def TokenCache.set (cache : TokenCache) (installationID : Int) (token : IssuedToken)
    (expiry : Int) : TokenCache :=
  Function.update cache installationID (some ⟨token, expiry⟩)

section Service

variable {J : Type}

/-- A call, the time it is made at, and what GitHub's token endpoint answers to a JWT for an
installation then: the token and when it expires. -/
structure TokenCall (J : Type) where
  now : Int
  appID : Int
  installationID : Int
  privateKey : Bytes
  endpoint : J → Int → Option (String × Int)

variable (generateJWT : Int → Bytes → Option J)

/-- The request to GitHub: what the service would answer without a cache. -/
def requestToken (c : TokenCall J) : Option CachedToken := do
  let jwt ← generateJWT c.appID c.privateKey
  let (text, expiry) ← c.endpoint jwt c.installationID
  return ⟨⟨text, c.appID⟩, expiry⟩

def getInstallationToken (cache : TokenCache) (c : TokenCall J) : TokenCache × Option IssuedToken :=
  match cache.get c.now c.installationID with
  | some token => (cache, some token)
  | none =>
    match requestToken generateJWT c with
    | none => (cache, none)
    | some fetched => (cache.set c.installationID fetched.token fetched.expiry, some fetched.token)

def serve : TokenCache → List (TokenCall J) → List (TokenCall J × Option IssuedToken)
  | _, [] => []
  | cache, c :: calls =>
    (c, (getInstallationToken generateJWT cache c).2) ::
      serve (getInstallationToken generateJWT cache c).1 calls

/-- Every call of a sequence that finds a fresh token in the cache satisfies `ok`. -/
def Hits (ok : TokenCall J → Prop) : TokenCache → List (TokenCall J) → Prop
  | _, [] => True
  | cache, c :: calls =>
    ((cache.get c.now c.installationID).isSome → ok c) ∧
      Hits ok (getInstallationToken generateJWT cache c).1 calls

variable {generateJWT} {issuer : J → Int} {owner : Int → Int}

/-! ## What the cache holds -/

/-- Every cached token was issued to the owner of its installation. -/
def OwnedBy (owner : Int → Int) (cache : TokenCache) : Prop :=
  ∀ id cached, cache id = some cached → cached.token.issuedTo = owner id

theorem OwnedBy.get {cache : TokenCache} (owned : OwnedBy owner cache) {now id : Int}
    {token : IssuedToken} (hit : cache.get now id = some token) : token.issuedTo = owner id := by
  unfold TokenCache.get at hit
  split at hit
  · cases hit
  · next cached found =>
    split at hit
    · cases hit
    · cases hit
      exact owned id cached found

/-- A request that is answered was made for the app that owns the installation. -/
theorem requestToken_owner (signs : ∀ appID key jwt, generateJWT appID key = some jwt → issuer jwt = appID)
    {c : TokenCall J}
    (issues : ∀ jwt id answer, c.endpoint jwt id = some answer → issuer jwt = owner id)
    {fetched : CachedToken} (answered : requestToken generateJWT c = some fetched) :
    fetched.token.issuedTo = c.appID ∧ c.appID = owner c.installationID := by
  unfold requestToken at answered
  simp only [Option.bind_eq_bind, Option.bind_eq_some_iff] at answered
  obtain ⟨jwt, made, ⟨text, expiry⟩, issued, last⟩ := answered
  cases last
  exact ⟨rfl, (signs _ _ _ made).symm.trans (issues _ _ _ issued)⟩

/-- A call is answered from the cache, refused, or answered by GitHub. -/
theorem getInstallationToken_cases (generateJWT : Int → Bytes → Option J) (cache : TokenCache)
    (c : TokenCall J) :
    (∃ token, cache.get c.now c.installationID = some token ∧
      getInstallationToken generateJWT cache c = (cache, some token)) ∨
    (cache.get c.now c.installationID = none ∧ requestToken generateJWT c = none ∧
      getInstallationToken generateJWT cache c = (cache, none)) ∨
    ∃ fetched, cache.get c.now c.installationID = none ∧
      requestToken generateJWT c = some fetched ∧ getInstallationToken generateJWT cache c =
        (cache.set c.installationID fetched.token fetched.expiry, some fetched.token) := by
  unfold getInstallationToken
  cases hit : cache.get c.now c.installationID with
  | some token => exact .inl ⟨token, rfl, rfl⟩
  | none =>
    cases answered : requestToken generateJWT c with
    | none => exact .inr (.inl ⟨rfl, rfl, rfl⟩)
    | some fetched => exact .inr (.inr ⟨fetched, rfl, rfl, rfl⟩)

theorem OwnedBy.step (signs : ∀ appID key jwt, generateJWT appID key = some jwt → issuer jwt = appID)
    {cache : TokenCache} (owned : OwnedBy owner cache) {c : TokenCall J}
    (issues : ∀ jwt id answer, c.endpoint jwt id = some answer → issuer jwt = owner id) :
    OwnedBy owner (getInstallationToken generateJWT cache c).1 := by
  obtain ⟨token, -, same⟩ | ⟨-, -, same⟩ | ⟨fetched, -, answered, same⟩ :=
    getInstallationToken_cases generateJWT cache c
  · rw [same]
    exact owned
  · rw [same]
    exact owned
  · rw [same]
    obtain ⟨mine, owns⟩ := requestToken_owner signs issues answered
    intro id cached found
    by_cases here : id = c.installationID
    · subst here
      dsimp only at found
      rw [show cache.set c.installationID fetched.token fetched.expiry c.installationID =
        some ⟨fetched.token, fetched.expiry⟩ from Function.update_self _ _ _] at found
      cases found
      exact mine.trans owns
    · dsimp only at found
      rw [show cache.set c.installationID fetched.token fetched.expiry id = cache id from
        Function.update_of_ne here _ _] at found
      exact owned id cached found

/-! ## Sequences of calls -/

/-- Every token answered was issued to the app id of the call it answers. -/
def Confined (answers : List (TokenCall J × Option IssuedToken)) : Prop :=
  ∀ answer ∈ answers, ∀ token ∈ answer.2, token.issuedTo = answer.1.appID

/-- A call is refused whenever its own request would be. -/
def RefusesAlike (generateJWT : Int → Bytes → Option J)
    (answers : List (TokenCall J × Option IssuedToken)) : Prop :=
  ∀ answer ∈ answers, requestToken generateJWT answer.1 = none → answer.2 = none

/-- One call is answered with a token of its own exactly when a hit is one of the owner's. -/
theorem own_answer_iff (signs : ∀ appID key jwt, generateJWT appID key = some jwt → issuer jwt = appID)
    {cache : TokenCache} (owned : OwnedBy owner cache) {c : TokenCall J}
    (issues : ∀ jwt id answer, c.endpoint jwt id = some answer → issuer jwt = owner id) :
    (∀ token ∈ (getInstallationToken generateJWT cache c).2, token.issuedTo = c.appID) ↔
      ((cache.get c.now c.installationID).isSome → c.appID = owner c.installationID) := by
  obtain ⟨token, hit, same⟩ | ⟨missed, -, same⟩ | ⟨fetched, missed, answered, same⟩ :=
    getInstallationToken_cases generateJWT cache c
  · rw [same, hit]
    have issued := owned.get hit
    constructor
    · exact fun own _ => (own token rfl).symm.trans issued
    · intro mine token' found
      cases found
      exact issued.trans (mine rfl).symm
  · rw [same, missed]
    constructor
    · exact fun _ impossible => absurd impossible Bool.false_ne_true
    · intro _ token found
      cases found
  · rw [same, missed]
    constructor
    · exact fun _ impossible => absurd impossible Bool.false_ne_true
    · intro _ token found
      cases found
      exact (requestToken_owner signs issues answered).1

theorem alike_answer_iff {cache : TokenCache} {c : TokenCall J} :
    (requestToken generateJWT c = none → (getInstallationToken generateJWT cache c).2 = none) ↔
      ((cache.get c.now c.installationID).isSome → requestToken generateJWT c ≠ none) := by
  obtain ⟨token, hit, same⟩ | ⟨missed, refused, same⟩ | ⟨fetched, missed, answered, same⟩ :=
    getInstallationToken_cases generateJWT cache c
  · rw [same, hit]
    constructor
    · intro alike _ refused
      cases alike refused
    · exact fun served refused => absurd refused (served rfl)
  · rw [same, missed]
    exact ⟨fun _ impossible => absurd impossible Bool.false_ne_true, fun _ _ => rfl⟩
  · rw [same, missed, answered]
    constructor
    · exact fun _ impossible => absurd impossible Bool.false_ne_true
    · exact fun _ impossible => absurd impossible (Option.some_ne_none fetched)

theorem confined_iff_hits (signs : ∀ appID key jwt, generateJWT appID key = some jwt → issuer jwt = appID)
    {cache : TokenCache} (owned : OwnedBy owner cache) (calls : List (TokenCall J))
    (issues : ∀ c ∈ calls, ∀ jwt id answer, c.endpoint jwt id = some answer →
      issuer jwt = owner id) :
    Confined (serve generateJWT cache calls) ↔
      Hits generateJWT (fun c => c.appID = owner c.installationID) cache calls := by
  induction calls generalizing cache with
  | nil => exact ⟨fun _ => trivial, fun _ answer mem => nomatch mem⟩
  | cons c calls ih =>
    have here := issues c List.mem_cons_self
    have rest := ih (owned.step signs here) fun c' mem => issues c' (List.mem_cons_of_mem c mem)
    rw [Hits, ← own_answer_iff signs owned here, ← rest]
    exact List.forall_mem_cons

theorem alike_iff_hits (cache : TokenCache) (calls : List (TokenCall J)) :
    RefusesAlike generateJWT (serve generateJWT cache calls) ↔
      Hits generateJWT (fun c => requestToken generateJWT c ≠ none) cache calls := by
  induction calls generalizing cache with
  | nil => exact ⟨fun _ => trivial, fun _ answer mem => nomatch mem⟩
  | cons c calls ih =>
    rw [Hits, ← alike_answer_iff, ← ih]
    exact List.forall_mem_cons

theorem Hits.mono {ok ok' : TokenCall J → Prop} {cache : TokenCache} {calls : List (TokenCall J)}
    (weaker : ∀ c ∈ calls, ok c → ok' c) (hits : Hits generateJWT ok cache calls) :
    Hits generateJWT ok' cache calls := by
  induction calls generalizing cache with
  | nil => trivial
  | cons c calls ih =>
    refine ⟨fun hit => weaker c List.mem_cons_self (hits.1 hit), ?_⟩
    exact ih (fun c' mem => weaker c' (List.mem_cons_of_mem c mem)) hits.2

/-- **When tokens stay with their app.**  GitHub issues a token for an installation only to
a JWT of the app that owns it.  Then for every sequence of calls with any app ids,
installations, keys and times: every token answered was issued to a request with the
app id of the call exactly when every call that finds a fresh token in the cache is made
with the app id of the installation's owner; and the service also refuses every call it
would refuse without the cache exactly when GitHub would answer the own request of every
call that finds one. -/
theorem tokens_confined_iff_own (generateJWT : Int → Bytes → Option J) (issuer : J → Int)
    (owner : Int → Int) (calls : List (TokenCall J))
    (signs : ∀ appID key jwt, generateJWT appID key = some jwt → issuer jwt = appID)
    (issues : ∀ c ∈ calls, ∀ jwt id answer, c.endpoint jwt id = some answer →
      issuer jwt = owner id) :
    (Confined (serve generateJWT (fun _ => none) calls) ↔
      Hits generateJWT (fun c => c.appID = owner c.installationID) (fun _ => none) calls) ∧
    (Confined (serve generateJWT (fun _ => none) calls) ∧
        RefusesAlike generateJWT (serve generateJWT (fun _ => none) calls) ↔
      Hits generateJWT (fun c => requestToken generateJWT c ≠ none) (fun _ => none) calls) := by
  have owned : OwnedBy owner (fun _ => none) := fun _ _ found => nomatch found
  have confined := confined_iff_hits signs owned calls issues
  refine ⟨confined, ?_⟩
  rw [alike_iff_hits]
  refine ⟨fun both => both.2, fun served => ⟨confined.mpr (served.mono ?_), served⟩⟩
  intro c mem answered
  obtain ⟨fetched, found⟩ := Option.ne_none_iff_exists'.mp answered
  exact (requestToken_owner signs (issues c mem) found).2

end Service

/-- A call at a time; GitHub gives tokens of installation 99 to the app 1. -/
def callOf (now appID : Int) : TokenCall Int where
  now := now
  appID := appID
  installationID := 99
  privateKey := []
  endpoint := fun issuer id => if issuer = 1 ∧ id = 99 then some ("ghs_1", now + 60 * minute) else none

theorem owner_reuses_token :
    Confined (serve (fun appID _ => some appID) (fun _ => none) [callOf 0 1, callOf minute 1]) := by
  refine (tokens_confined_iff_own (fun appID _ => some appID) id (fun _ => 1)
    [callOf 0 1, callOf minute 1] (fun _ _ _ made => (Option.some.inj made).symm) ?_).1.mpr ?_
  · intro c mem jwt id answer issued
    have owner : ∀ now, (callOf now 1).endpoint jwt id = some answer → jwt = 1 := by
      intro now issued
      by_contra other
      simp [callOf, other] at issued
    rcases List.mem_cons.mp mem with rfl | mem
    · exact owner 0 issued
    · obtain rfl := List.mem_singleton.mp mem
      exact owner minute issued
  · exact ⟨fun _ => rfl, fun _ => rfl, trivial⟩

/-- The app 2 asks for the installation of app 1 a minute later, and gets its token, which
GitHub does not give to its own request. -/
theorem token_crosses_apps :
    (callOf minute 2, some ⟨"ghs_1", 1⟩) ∈
        serve (fun appID _ => some appID) (fun _ => none) [callOf 0 1, callOf minute 2] ∧
      requestToken (fun appID _ => some appID) (callOf minute 2) = none ∧
      ¬ Confined (serve (fun appID _ => some appID) (fun _ => none)
          [callOf 0 1, callOf minute 2]) := by
  have answered : (callOf minute 2, some ⟨"ghs_1", 1⟩) ∈
      serve (fun appID _ => some appID) (fun _ => none) [callOf 0 1, callOf minute 2] :=
    List.mem_cons_of_mem _ (List.mem_singleton.mpr rfl)
  refine ⟨answered, rfl, fun confined => ?_⟩
  exact absurd (confined _ answered ⟨"ghs_1", 1⟩ rfl) (by decide)

end Nixway.Github
