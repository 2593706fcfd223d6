import GuardedTools.Http.App
import GuardedTools.Proofs.Basic
import GuardedTools.Proofs.Text

/-!
# Who calls with bearer credentials

An authorization header names a scheme and, after a space, credentials.  Credentials of the bearer scheme
that are one word are a token, which is verified: it gives a principal or the request is refused, and never
does it stand for the anonymous caller (`App.answer_of_token`).  Credentials that are no word, or several,
are passed over, and the request is the one of the anonymous caller as if there were no header
(`App.caller_of_bearer`, `App.downgraded`).
-/

namespace GuardedTools

/-! ### Authorization headers -/

namespace Bearer

/-- The scheme of an authorization header: what stands before the first space. -/
def schemeIn (header : Text) : Text := ⟨header.trim.points.takeWhile fun p => !p.is ' '⟩

/-- The credentials of an authorization header: what stands after the first space. -/
def credentialsIn (header : Text) : Text :=
  (⟨(header.trim.points.dropWhile fun p => !p.is ' ').tail⟩ : Text).trim

/-- Credentials are a token if they are one word. -/
def IsToken (credentials : Text) : Prop :=
  credentials.isEmpty = false ∧ credentials.containsChar ' ' = false

instance (credentials : Text) : Decidable (IsToken credentials) := instDecidableAnd

theorem tokenOf_eq (header : Text) :
    tokenOf header = if (schemeIn header).lower = scheme ∧ IsToken (credentialsIn header) then
      some (credentialsIn header) else none := by
  unfold tokenOf Text.cutAt schemeIn credentialsIn
  cases spaced : header.trim.points.dropWhile fun p => !p.is ' ' with
  | nil =>
    -- there is no space, and so nothing after it
    have nothing : ¬ IsToken (Text.trim ⟨([] : List CodePoint).tail⟩) := fun h => absurd h.1 (by decide)
    rw [if_neg fun h => nothing h.2]
  | cons space after =>
    refine ite_congr (propext ?_) (fun _ => rfl) fun _ => rfl
    simp only [IsToken, List.tail_cons, Bool.and_eq_true, decide_eq_true_eq, Bool.not_eq_true',
      and_assoc]

end Bearer

namespace Http.App

variable {σ : Type}

/-- What a token can be answered with: never with the anonymous caller. -/
inductive Answer (app : App σ) (token : Text) : Except Refusal Identity → Prop where
  /-- The token is valid and names a principal. -/
  | principal {secret : Text} {algorithms : List Text} {claims : Token.Claims} {i : Identity}
    (keys : app.keys = some { secret := some secret, algorithms })
    (valid : Token.verify app.now token secret algorithms = .ok claims)
    (named : i.principal.isSome = true) : Answer app token (.ok i)
  /-- The token is refused. -/
  | refused (detail : Json) : Answer app token (.error (.told 401 detail))
  /-- There is no secret. -/
  | misconfigured {algorithms : List Text} (keys : app.keys = some { secret := none, algorithms }) :
    Answer app token (.error (.told 500 (.str "Auth misconfigured")))
  /-- There are no settings. -/
  | unsettled (keys : app.keys = none) : Answer app token (.error .crash)
  /-- The token cannot be looked at with the secret that there is. -/
  | crashed {secret : Text} {algorithms : List Text} {e : VerifyError}
    (keys : app.keys = some { secret := some secret, algorithms })
    (failed : Token.verify app.now token secret algorithms = .error e)
    (unrefused : ∀ fault, e ≠ .refused fault) : Answer app token (.error .crash)

/-- A token is answered with a principal or with a refusal. -/
theorem answer_of_token (app : App σ) (r : Request) {token : Text}
    (presented : Bearer.token? r.headers = some token) : Answer app token (app.caller r) := by
  rw [caller, presented]
  dsimp only
  split
  next unsettled => exact .unsettled unsettled
  next algorithms keys => exact .misconfigured keys
  next secret algorithms keys =>
    cases verified : Token.verify app.now token secret algorithms with
    | error e =>
      cases e with
      | refused fault => exact .refused _
      | badKey fault => exact .crashed keys verified nofun
      | notUnicode u => exact .crashed keys verified nofun
      | tooDeep => exact .crashed keys verified nofun
    | ok claims =>
      show Answer app token ((Identity.ofClaims (Value.ofJson (.object claims))).mapError _)
      unfold Identity.ofClaims
      split
      · exact .principal keys verified rfl
      · exact .refused _

theorem Answer.ne_anonymous {app : App σ} {token : Text} {answer : Except Refusal Identity}
    (h : Answer app token answer) : answer ≠ .ok .anonymous := by
  cases h with
  | principal _ _ named =>
    rintro ⟨⟩
    cases named
  | _ => exact nofun

/-- Credentials that are no token are passed over. -/
theorem caller_of_not_isToken (app : App σ) (r : Request) {header : Text}
    (given : Bearer.header? "authorization" r.headers = some header)
    (loose : ¬ Bearer.IsToken (Bearer.credentialsIn header)) : app.caller r = .ok .anonymous := by
  have none : Bearer.token? r.headers = none := by
    rw [Bearer.token?, given, Option.bind_some, Bearer.tokenOf_eq, if_neg fun h => loose h.2]
  rw [caller, none]

/-- **Bearer credentials**: a request whose authorization header names the bearer scheme, in letters of any
case, is the one of the anonymous caller exactly if its credentials are no token, that is none or several
words.  A token is answered with a principal or with a refusal. -/
theorem caller_of_bearer (app : App σ) (r : Request) {header : Text}
    (given : Bearer.header? "authorization" r.headers = some header)
    (scheme : (Bearer.schemeIn header).lower = Bearer.scheme) :
    (app.caller r = .ok .anonymous ↔ ¬ Bearer.IsToken (Bearer.credentialsIn header)) ∧
    (Bearer.IsToken (Bearer.credentialsIn header) →
      Answer app (Bearer.credentialsIn header) (app.caller r)) := by
  by_cases token : Bearer.IsToken (Bearer.credentialsIn header)
  · have presented : Bearer.token? r.headers = some (Bearer.credentialsIn header) := by
      rw [Bearer.token?, given, Option.bind_some, Bearer.tokenOf_eq, if_pos ⟨scheme, token⟩]
    have answer := answer_of_token app r presented
    exact ⟨iff_of_false answer.ne_anonymous (not_not_intro token), fun _ => answer⟩
  · exact ⟨iff_of_true (caller_of_not_isToken app r given token) token, fun h => absurd h token⟩

/-- An application without tools that verifies tokens. -/
def verifying : App Unit where
  service := .assemble .empty [] {} false none
  filtersDiscovery := false
  hasAudit := false
  hasMetrics := false
  keys := some { secret := some "secret", algorithms := ["HS256"] }
  now := 0
  trail := fun _ => .empty
  moment := fun _ => ""

/-- A request with an authorization header. -/
def authorized (header : Text) : Request where
  method := "GET"
  target := { path := "/tools" }
  headers := [("Authorization", header)]

/-- One word after the name of the scheme is not passed over. -/
theorem caller_of_bearer_word : verifying.caller (authorized "BEARER  word ") ≠ .ok .anonymous := by
  have scheme : (Bearer.schemeIn "BEARER  word ").lower = Bearer.scheme :=
    (Text.lower_of_isAscii (by decide +kernel)).trans (by decide +kernel)
  have token : Bearer.IsToken (Bearer.credentialsIn "BEARER  word ") := by decide +kernel
  have answer := caller_of_bearer verifying (authorized "BEARER  word ") rfl scheme
  exact fun anonymous => answer.1.mp anonymous token

/-- A request with the bearer scheme and two words, or nothing, after it is the one of the anonymous
caller. -/
theorem downgraded :
    ((Bearer.schemeIn "Bearer a b").lower = Bearer.scheme ∧
      verifying.caller (authorized "Bearer a b") = .ok .anonymous) ∧
    ((Bearer.schemeIn "bearer").lower = Bearer.scheme ∧
      verifying.caller (authorized "bearer") = .ok .anonymous) := by
  have several : ¬ Bearer.IsToken (Bearer.credentialsIn "Bearer a b") := by decide +kernel
  have missing : ¬ Bearer.IsToken (Bearer.credentialsIn "bearer") := by decide +kernel
  refine ⟨⟨?_, caller_of_not_isToken _ _ rfl several⟩, ?_, caller_of_not_isToken _ _ rfl missing⟩
  · exact (Text.lower_of_isAscii (by decide +kernel)).trans (by decide +kernel)
  · exact (Text.lower_of_isAscii (by decide +kernel)).trans (by decide +kernel)

end Http.App

end GuardedTools
