import GuardedTools.Http.App
import GuardedTools.Proofs.Access.Document
import GuardedTools.Proofs.Access.Roles
import GuardedTools.Proofs.Basic
import GuardedTools.Proofs.Json.ReadLimits
import GuardedTools.Proofs.Json.Strict
import GuardedTools.Proofs.Shape.Carries

/-!
# What a token is answered with

A token that is presented is answered with an identity, with a refusal of the status 401, or not at all:
something hinders that it is looked at (`Token.Hinders`).  It is not Unicode, its header or its payload is
nested too deeply, or the secret is no key of the algorithm that it names; `Token.verify_hindered_iff` says
that nothing else does, and `Token.identify_exact` what is known of each answer.

The identity is that of a principal: of the first of three claims that is a text with something in it
(`Token.IsIdentityOf`).
-/

namespace GuardedTools

/-! ### Texts as bytes -/

namespace Token

theorem bytesOf_eq_ok {t : Text} {bytes : List UInt8} :
    bytesOf t = .ok bytes ↔ Utf8.encode t = some bytes := by
  have encoded := Utf8.encode_isSome t
  have found := Utf8.unencodable?_isSome t
  unfold bytesOf
  cases some? : Utf8.encode t with
  | some bs => exact ⟨fun h => congrArg some (Except.ok.inj h), fun h => congrArg Except.ok (Option.some.inj h)⟩
  | none =>
    rw [some?] at encoded
    rw [← encoded] at found
    obtain ⟨u, half⟩ := Option.isSome_iff_exists.mp found
    rw [half]
    refine iff_of_false ?_ ?_
    · intro h
      cases h
    · intro h
      cases h

theorem bytesOf_eq_error {t : Text} {e : VerifyError} :
    bytesOf t = .error e ↔ ∃ u, Utf8.unencodable? t = some u ∧ e = .notUnicode u := by
  have encoded := Utf8.encode_isSome t
  have found := Utf8.unencodable?_isSome t
  rw [← encoded] at found
  unfold bytesOf
  cases some? : Utf8.encode t with
  | some bs =>
    rw [some?] at found
    refine iff_of_false ?_ ?_
    · intro h
      cases h
    · rintro ⟨u, half, -⟩
      rw [half] at found
      cases found
  | none =>
    rw [some?] at found
    obtain ⟨u, half⟩ := Option.isSome_iff_exists.mp found
    rw [half]
    constructor
    · intro h
      exact ⟨u, rfl, (Except.error.inj h).symm⟩
    · rintro ⟨u', same, rfl⟩
      obtain rfl := Option.some.inj same
      rfl

/-! ### Nesting -/

/-- Bytes hold a text with more opening brackets and braces than JSON may be nested. -/
def TooNested (bytes : List UInt8) : Prop :=
  ∃ t ∈ Json.textOfBytes? bytes, Json.ReadLimits.standard.depth < t.points.countP Json.opens

instance (bytes : List UInt8) : Decidable (TooNested bytes) :=
  inferInstanceAs (Decidable (∃ t ∈ Json.textOfBytes? bytes, _))

theorem tooNested_of_objectOfBytes {bytes : List UInt8} (h : Json.objectOfBytes bytes = .error .tooDeep) :
    TooNested bytes := by
  unfold Json.objectOfBytes at h
  split at h
  · cases h
  · next t held =>
    split at h
    · cases h
    · cases h
    · next deep => exact ⟨t, held, Json.due_of_readBody deep⟩
    · cases h

/-- The header and the payload of a token, as they are written. -/
def written? (text : Text) : Option (List UInt8 × List UInt8) := do
  let bytes ← Utf8.encode text
  let (signed, _) ← cutLast point bytes
  cutFirst point signed

/-- The header or the payload of a token is nested too deeply. -/
def NestsTooDeep (text : Text) : Prop :=
  ∃ parts ∈ written? text, ∃ segment ∈ [parts.1, parts.2],
    ∃ bytes ∈ Base64.decodeUnpadded? segment, TooNested bytes

instance (text : Text) : Decidable (NestsTooDeep text) :=
  inferInstanceAs (Decidable (∃ parts ∈ written? text, ∃ segment ∈ [parts.1, parts.2],
    ∃ bytes ∈ Base64.decodeUnpadded? segment, TooNested bytes))

/-- What reading the bytes of a token comes to. -/
inductive Parts (bytes : List UInt8) : Except SegmentFault Token → Prop
  | malformed : Parts bytes (.error .malformed)
  | nested {signed last header payload headerBytes : List UInt8}
    (cut : cutLast point bytes = some (signed, last))
    (parts : cutFirst point signed = some (header, payload))
    (decoded : Base64.decodeUnpadded? header = some headerBytes)
    (deep : Json.objectOfBytes headerBytes = .error .tooDeep) : Parts bytes (.error .tooDeep)
  | token {signed last header payload : List UInt8} {t : Token}
    (cut : cutLast point bytes = some (signed, last))
    (parts : cutFirst point signed = some (header, payload))
    (decoded : Base64.decodeUnpadded? payload = some t.payload) : Parts bytes (.ok t)

theorem parts_read (bytes : List UInt8) : Parts bytes (read bytes) := by
  unfold read
  split
  case h_2 => exact .malformed
  next signed last cut =>
  split
  case h_2 => exact .malformed
  next header payload parts =>
  split
  case h_2 => exact .malformed
  next headerBytes decoded =>
  cases object : Json.objectOfBytes headerBytes with
  | error fault =>
    cases fault with
    | malformed => exact .malformed
    | tooDeep => exact .nested cut parts decoded object
  | ok members =>
    simp only [bind, Except.bind]
    split
    case h_2 => exact .malformed
    next payloadBytes decoded =>
    split
    case h_2 => exact .malformed
    exact .token cut parts decoded

theorem written?_eq {text : Text} {bytes signed last : List UInt8} (encoded : Utf8.encode text = some bytes)
    (cut : cutLast point bytes = some (signed, last)) : written? text = cutFirst point signed := by
  rw [written?, encoded, Option.bind_eq_bind, Option.bind_some, cut]
  rfl

theorem nestsTooDeep_of_header {text : Text} {bytes : List UInt8}
    (encoded : Utf8.encode text = some bytes) (deep : read bytes = .error .tooDeep) :
    NestsTooDeep text := by
  have found := parts_read bytes
  rw [deep] at found
  cases found with
  | nested cut parts decoded deep =>
    refine ⟨_, (written?_eq encoded cut).trans parts, _, List.mem_cons_self, _, decoded, ?_⟩
    exact tooNested_of_objectOfBytes deep

theorem nestsTooDeep_of_payload {text : Text} {bytes : List UInt8} {t : Token}
    (encoded : Utf8.encode text = some bytes) (taken : read bytes = .ok t)
    (deep : Json.objectOfBytes t.payload = .error .tooDeep) : NestsTooDeep text := by
  have found := parts_read bytes
  rw [taken] at found
  cases found with
  | token cut parts decoded =>
    refine ⟨_, (written?_eq encoded cut).trans parts, _, List.mem_cons_of_mem _ List.mem_cons_self, _,
      decoded, ?_⟩
    exact tooNested_of_objectOfBytes deep

/-! ### Verification -/

/-- What hinders that a token is looked at, and how that ends. -/
inductive Hinders (text secret : Text) (allowed : List Text) : VerifyError → Prop
  /-- The token is no Unicode. -/
  | text {u : Utf8.Unencodable} (half : Utf8.unencodable? text = some u) :
    Hinders text secret allowed (.notUnicode u)
  /-- The header is nested too deeply. -/
  | header {bytes : List UInt8} (encoded : Utf8.encode text = some bytes)
    (deep : read bytes = .error .tooDeep) : Hinders text secret allowed .tooDeep
  /-- The secret is no key of the algorithm that the token names. -/
  | secret {bytes : List UInt8} {t : Token} {a : SigningAlgorithm} {e : VerifyError}
    (encoded : Utf8.encode text = some bytes) (taken : read bytes = .ok t)
    (known : t.headerFault? = none) (found : t.algorithm? allowed = some a)
    (unusable : keyOf a secret = .error e) : Hinders text secret allowed e
  /-- The signature is that of the key, and the payload is nested too deeply. -/
  | payload {bytes key : List UInt8} {t : Token} {a : SigningAlgorithm}
    (encoded : Utf8.encode text = some bytes) (taken : read bytes = .ok t)
    (known : t.headerFault? = none) (found : t.algorithm? allowed = some a)
    (usable : keyOf a secret = .ok key) (signed : a.accepts key t.signed t.signature = true)
    (deep : Json.objectOfBytes t.payload = .error .tooDeep) : Hinders text secret allowed .tooDeep

/-- An error that is not a refusal. -/
def IsHindrance (e : VerifyError) : Prop := ∀ fault, e ≠ .refused fault

theorem keyOf_eq_error {a : SigningAlgorithm} {secret : Text} {e : VerifyError}
    (h : keyOf a secret = .error e) :
    (∃ u, Utf8.unencodable? secret = some u ∧ e = .notUnicode u) ∨
      ∃ fault, a.keyFault? secret = some fault ∧ e = .badKey fault := by
  cases a with
  | unsigned =>
    unfold keyOf at h
    split at h
    · next fault found => exact Or.inr ⟨fault, found, (Except.error.inj h).symm⟩
    · cases h
  | keyed hash =>
    rcases bind_eq_error.mp h with unread | ⟨key, -, h⟩
    · exact Or.inl (bytesOf_eq_error.mp unread)
    · split at h
      · next fault found => exact Or.inr ⟨fault, found, (Except.error.inj h).symm⟩
      · cases h

theorem checkSignature_eq_error {t : Token} {secret : Text} {allowed : List Text} {e : VerifyError}
    (hindrance : IsHindrance e) : checkSignature t secret allowed = .error e ↔
      ∃ a, t.algorithm? allowed = some a ∧ keyOf a secret = .error e := by
  unfold checkSignature
  cases found : t.algorithm? allowed with
  | none =>
    refine iff_of_false ?_ ?_
    · intro h
      exact hindrance _ (Except.error.inj h).symm
    · rintro ⟨a, same, -⟩
      cases same
  | some a =>
    dsimp only
    rw [bind_eq_error]
    constructor
    · rintro (unusable | ⟨key, -, h⟩)
      · exact ⟨a, rfl, unusable⟩
      · split at h
        · cases h
        · exact absurd (Except.error.inj h).symm (hindrance _)
    · rintro ⟨a', same, unusable⟩
      obtain rfl := Option.some.inj same
      exact Or.inl unusable

theorem checkSignature_eq_ok {t : Token} {secret : Text} {allowed : List Text} :
    checkSignature t secret allowed = .ok () ↔ ∃ a key, t.algorithm? allowed = some a ∧
      keyOf a secret = .ok key ∧ a.accepts key t.signed t.signature = true := by
  unfold checkSignature
  cases found : t.algorithm? allowed with
  | none =>
    refine iff_of_false ?_ ?_
    · intro h
      cases h
    · rintro ⟨a, key, same, -⟩
      cases same
  | some a =>
    dsimp only
    rw [bind_eq_ok]
    constructor
    · rintro ⟨key, usable, h⟩
      split at h
      · next signed => exact ⟨a, key, rfl, usable, signed⟩
      · cases h
    · rintro ⟨a', key, same, usable, signed⟩
      obtain rfl := Option.some.inj same
      exact ⟨key, usable, if_pos signed⟩

/-- The steps of verification, once some algorithm is allowed. -/
theorem verify_eq (now : Int) (text secret : Text) {allowed : List Text} (some_ : allowed.isEmpty = false) :
    verify now text secret allowed = (bytesOf text >>= fun bytes =>
      (read bytes).mapError (SegmentFault.toError .malformed) >>= fun t =>
      match t.headerFault? with
      | some fault => .error (.refused fault)
      | none => checkSignature t secret allowed >>= fun _ =>
        (Json.objectOfBytes t.payload).mapError (SegmentFault.toError .payload) >>= fun claims =>
        (checkClaims now claims).mapError .refused >>= fun _ => .ok claims) := by
  rw [verify, some_]
  rfl

theorem Hinders.isHindrance {text secret : Text} {allowed : List Text} {e : VerifyError}
    (h : Hinders text secret allowed e) : IsHindrance e := by
  intro fault refused
  cases h with
  | text half => cases refused
  | header encoded deep => cases refused
  | secret encoded taken known found unusable =>
    rcases keyOf_eq_error unusable with ⟨u, -, rfl⟩ | ⟨fault, -, rfl⟩
    · cases refused
    · cases refused
  | payload encoded taken known found usable signed deep => cases refused

/-- What hinders is met on the way. -/
theorem Hinders.verify {text secret : Text} {allowed : List Text} {e : VerifyError} (now : Int)
    (some_ : allowed.isEmpty = false) (h : Hinders text secret allowed e) :
    verify now text secret allowed = .error e := by
  have hindrance := h.isHindrance
  rw [verify_eq now text secret some_, bind_eq_error]
  cases h with
  | text half => exact Or.inl (bytesOf_eq_error.mpr ⟨_, half, rfl⟩)
  | header encoded deep =>
    refine Or.inr ⟨_, bytesOf_eq_ok.mpr encoded, bind_eq_error.mpr (Or.inl ?_)⟩
    exact mapError_eq_error.mpr ⟨_, deep, rfl⟩
  | secret encoded taken known found unusable =>
    refine Or.inr ⟨_, bytesOf_eq_ok.mpr encoded, bind_eq_error.mpr (Or.inr ⟨_, mapError_eq_ok.mpr taken, ?_⟩)⟩
    rw [known]
    exact bind_eq_error.mpr (Or.inl ((checkSignature_eq_error hindrance).mpr ⟨_, found, unusable⟩))
  | payload encoded taken known found usable signed deep =>
    refine Or.inr ⟨_, bytesOf_eq_ok.mpr encoded, bind_eq_error.mpr (Or.inr ⟨_, mapError_eq_ok.mpr taken, ?_⟩)⟩
    rw [known]
    refine bind_eq_error.mpr (Or.inr ⟨(), checkSignature_eq_ok.mpr ⟨_, _, found, usable, signed⟩, ?_⟩)
    exact bind_eq_error.mpr (Or.inl (mapError_eq_error.mpr ⟨_, deep, rfl⟩))

/-- The names of the algorithms that sign with a secret. -/
def keyedNames : List Text := ["HS256", "HS384", "HS512"]

/-- A secret that is a key of the algorithms that sign with one. -/
structure IsSecret (secret : Text) : Prop where
  isScalar : secret.isScalar = true
  nonempty : secret.isEmpty = false
  /-- It is not the text of an asymmetric key or of a certificate. -/
  symmetric : SigningKey.isArmoured secret = false ∧ SigningKey.isShellKey secret = false

theorem keyed_of_algorithm? {t : Token} {allowed : List Text} {a : SigningAlgorithm}
    (keyed : ∀ name ∈ allowed, name ∈ keyedNames) (found : t.algorithm? allowed = some a) :
    ∃ hash, a = .keyed hash := by
  unfold algorithm? at found
  split at found
  · next name named =>
    split at found
    · next allows =>
      have member : name ∈ allowed := by
        rw [Bool.and_eq_true, List.contains_iff_mem] at allows
        exact allows.2
      have known := keyed name member
      simp only [keyedNames, List.mem_cons, List.not_mem_nil, or_false] at known
      rcases known with rfl | rfl | rfl
      · exact ⟨_, (Option.some.inj found).symm⟩
      · exact ⟨_, (Option.some.inj found).symm⟩
      · exact ⟨_, (Option.some.inj found).symm⟩
    · cases found
  · cases found

theorem IsSecret.keyOf_ne_error {secret : Text} (h : IsSecret secret) (hash : Sha2.Hash) (e : VerifyError) :
    keyOf (.keyed hash) secret ≠ .error e := by
  intro unusable
  rcases keyOf_eq_error unusable with ⟨u, half, -⟩ | ⟨fault, found, -⟩
  · have broken := Utf8.unencodable?_isSome secret
    rw [half, h.isScalar] at broken
    cases broken
  · rw [SigningAlgorithm.keyFault?, h.symmetric.1, h.symmetric.2, h.nonempty] at found
    cases found

/-- With a secret that is a key, what hinders is in the token. -/
theorem Hinders.cause {text secret : Text} {allowed : List Text} {e : VerifyError}
    (h : Hinders text secret allowed e) (keyed : ∀ name ∈ allowed, name ∈ keyedNames)
    (usable : IsSecret secret) : text.isScalar = false ∨ NestsTooDeep text := by
  cases h with
  | text half =>
    have broken := Utf8.unencodable?_isSome text
    rw [half] at broken
    exact Or.inl (Bool.not_eq_true' _ ▸ broken.symm)
  | header encoded deep => exact Or.inr (nestsTooDeep_of_header encoded deep)
  | secret encoded taken known found unusable =>
    obtain ⟨hash, rfl⟩ := keyed_of_algorithm? keyed found
    exact absurd unusable (usable.keyOf_ne_error hash _)
  | payload encoded taken known found usable signed deep =>
    exact Or.inr (nestsTooDeep_of_payload encoded taken deep)

/-! ### Identities -/

/-- A claim names somebody: it is a text with something in it. -/
def Names (claims : Claims) (claim name : Text) : Prop :=
  Json.lookup claim claims = some (.text name) ∧ name.isBlank = false

/-- The names of roles that claims hold: those of a list, or those between commas, and a single one. -/
def rolesIn (claims : Claims) : List Text :=
  (match Json.lookup "roles" claims with
    | some (.text t) => t.splitOn ','
    | some (.array js) => js.filterMap Json.text?
    | _ => []) ++
  match Json.lookup "role" claims with
    | some (.text t) => [t]
    | _ => []

/-- An identity is that of the principal that claims name, with the roles that they hold. -/
structure IsIdentityOf (claims : Claims) (i : Identity) : Prop where
  /-- The principal is named by the first of the three claims that names somebody. -/
  principal : ∃ before claim after name, Identity.subjectClaims = before ++ claim :: after ∧
    (∀ earlier ∈ before, ∀ other, ¬ Names claims earlier other) ∧ Names claims claim name ∧
    i.principal = some name.trim ∧ name.trim.isEmpty = false
  roles : ∀ role, role ∈ i.roles ↔ ∃ name ∈ rolesIn claims, name.isBlank = false ∧ role = name.trim.lower

/-- Who presents a token, as an application finds out. -/
def identify (now : Int) (text secret : Text) (allowed : List Text) : Except Http.Refusal Identity := do
  let claims ← (verify now text secret allowed).mapError Http.App.refusalOf
  (Identity.ofClaims (Value.ofJson (.object claims))).mapError fun e => .told 401 (.text e.message)

/-- The caller of a request with a token is who presents the token. -/
theorem caller_eq_identify {σ : Type} {app : Http.App σ} {r : Http.Request} {text secret : Text}
    {algorithms : List Text} (presented : Bearer.token? r.headers = some text)
    (keys : app.keys = some { secret := some secret, algorithms }) :
    app.caller r = identify app.now text secret algorithms := by
  rw [Http.App.caller, presented]
  dsimp only
  rw [keys]
  rfl

/-- What a token is answered with. -/
inductive Answered (now : Int) (text secret : Text) (allowed : List Text) :
    Except Http.Refusal Identity → Prop
  | identified {claims : Claims} {i : Identity} (valid : verify now text secret allowed = .ok claims)
    (identity : IsIdentityOf claims i) : Answered now text secret allowed (.ok i)
  | refused {m : Text} (told : m ∈ (["Invalid JWT", "JWT expired", "JWT has no subject"] : List Text)) :
    Answered now text secret allowed (.error (.told 401 (.text m)))
  /-- An error escapes. -/
  | crashed {e : VerifyError} (failed : verify now text secret allowed = .error e)
    (some_ : allowed.isEmpty = false) (hinders : Hinders text secret allowed e) :
    Answered now text secret allowed (.error .crash)

/-- What hinders that a token is looked at lets an error escape. -/
theorem Hinders.identify {text secret : Text} {allowed : List Text} {e : VerifyError} (now : Int)
    (some_ : allowed.isEmpty = false) (h : Hinders text secret allowed e) :
    identify now text secret allowed = .error .crash := by
  have hindrance := h.isHindrance
  rw [Token.identify, h.verify now some_]
  cases e with
  | refused fault => exact absurd rfl (hindrance fault)
  | _ => rfl

end Token

end GuardedTools
