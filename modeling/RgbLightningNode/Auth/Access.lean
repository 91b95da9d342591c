import RgbLightningNode.Auth.Middleware

/-!
# What a token gives access to

Attenuating a token never widens what it gives access to. The documented policy
grants access by any role a token has, under all its checks; the middleware
differs from it where a check looks at the operation, and where a read-only
token has a right of its own.
-/

namespace RgbLightningNode

open Biscuit

variable {token : AuthToken} {now : Nat} {op : String} {revoked : Finset (List UInt8)}

/-! ### Attenuation -/

theorem ChecksHold.of_attenuate {blocks : List (Block AuthorizerFacts)} {op : Option String}
    (h : ChecksHold (token.attenuate blocks) now op) : ChecksHold token now op :=
  Token.checks_hold_of_attenuate h

theorem not_revoked_of_attenuate {blocks : List (Block AuthorizerFacts)}
    (h : isTokenRevoked revoked (token.attenuate blocks) = false) :
    isTokenRevoked revoked token = false := by
  rw [← Bool.not_eq_true, isTokenRevoked_eq_true_iff] at h ⊢
  rintro ⟨id, hid, hrevoked⟩
  refine h ⟨id, ?_, hrevoked⟩
  rw [Token.revocationIdentifiers_attenuate]
  exact List.mem_append_left _ hid

/-- What an attenuated token may do the token itself may do: a role that the
attenuated one is found to have is a fact of both, and the checks of the token
are among those that held. -/
theorem checkToken_of_attenuate {blocks : List (Block AuthorizerFacts)}
    (h : checkToken revoked now op (token.attenuate blocks) = .ok ()) :
    checkToken revoked now op token = .ok () := by
  obtain ⟨hrev, hchecks, hrole⟩ := checkToken_eq_ok_iff.mp h
  refine checkToken_eq_ok_iff.mpr ⟨not_revoked_of_attenuate hrev, hchecks.of_attenuate, ?_⟩
  obtain hadmin | hread | ⟨hread, hcustom, hright, hop⟩ := hrole
  · exact .inl hadmin
  · exact .inr (.inl hread)
  · exact .inr (.inr ⟨hread, hcustom, hright, hop.of_attenuate⟩)

/-- A request that goes through with an attenuated token goes through with the
token it was made from. -/
theorem letsThrough_of_attenuated (fromBase64 : String → RootKey → Option AuthToken)
    (state : AuthState) (now : Nat) (t : AuthToken) (blocks : List (Block AuthorizerFacts))
    (req attenuated : AuthRequest) (hpath : req.path = attenuated.path)
    (ht : ∀ key, state.rootPublicKey = some key → req.token fromBase64 key = some t)
    (hu : ∀ key, state.rootPublicKey = some key →
      attenuated.token fromBase64 key = some (t.attenuate blocks))
    (h : conditionalAuthMiddleware fromBase64 state now attenuated = .ok ()) :
    conditionalAuthMiddleware fromBase64 state now req = .ok () := by
  obtain ⟨_ | key, revoked⟩ := state
  · rfl
  obtain ⟨u, hu', hcheck⟩ := conditionalAuthMiddleware_eq_ok_iff.mp h
  obtain rfl := Option.some.inj ((hu key rfl).symm.trans hu')
  refine conditionalAuthMiddleware_eq_ok_iff.mpr ⟨t, ht key rfl, ?_⟩
  rw [hpath]
  exact checkToken_of_attenuate hcheck

/-- A custom token for the endpoint that tells about the node. -/
def nodeinfoToken : AuthToken :=
  ⟨⟨["custom"], [("api", "/nodeinfo")]⟩, ⟨[1], [], by simp⟩, []⟩

/-- A block with an expiry at time 100. -/
def untilTime100 : Block AuthorizerFacts := ⟨[2], [fun facts => facts.time ≤ 100], by simp⟩

/-- A reader of the two texts that stand for these tokens. -/
def readsUserTokens (text : String) (_ : RootKey) : Option AuthToken :=
  if text = "user" then some nodeinfoToken
  else if text = "until 100" then some (nodeinfoToken.attenuate [untilTime100])
  else none

theorem bearer_user : AuthRequest.bearer ⟨some "Bearer user", "/nodeinfo"⟩ = some "user" := by
  decide +kernel

theorem bearer_until : AuthRequest.bearer ⟨some "Bearer until 100", "/nodeinfo"⟩ =
    some "until 100" := by
  decide +kernel

/-- Until its end the attenuated token may do what the token may do. -/
theorem letsThrough_of_nodeinfo :
    conditionalAuthMiddleware readsUserTokens ⟨some ⟨Vector.replicate 32 0⟩, ∅⟩ 50
      ⟨some "Bearer user", "/nodeinfo"⟩ = .ok () :=
  letsThrough_of_attenuated readsUserTokens ⟨some ⟨Vector.replicate 32 0⟩, ∅⟩ 50 nodeinfoToken
    [untilTime100] ⟨some "Bearer user", "/nodeinfo"⟩ ⟨some "Bearer until 100", "/nodeinfo"⟩ rfl
    (fun _ _ => by rw [AuthRequest.token, bearer_user]; rfl)
    (fun _ _ => by rw [AuthRequest.token, bearer_until]; rfl) (by decide +kernel)

/-! ### The documented policy -/

/-- The documented policy for a verified token. -/
structure Documented (revoked : Finset (List UInt8)) (now : Nat) (op : String)
    (token : AuthToken) : Prop where
  notRevoked : isTokenRevoked revoked token = false
  checks : ChecksHold token now (some op)
  granted : "admin" ∈ token.facts.roles ∨
    "read-only" ∈ token.facts.roles ∧ op ∈ readOnlyOps ∨
    "custom" ∈ token.facts.roles ∧ ("api", op) ∈ token.facts.rights

/-- The token's role alone covers the operation. -/
def CoveredByRole (op : String) (token : AuthToken) : Prop :=
  "admin" ∈ token.facts.roles ∨ "read-only" ∈ token.facts.roles ∧ op ∈ readOnlyOps

/-- Where the middleware and the policy agree on a token that is not revoked. -/
structure DecidesAlike (now : Nat) (op : String) (token : AuthToken) : Prop where
  byRole : CoveredByRole op token →
    (ChecksHold token now none ↔ ChecksHold token now (some op))
  byRight : ¬CoveredByRole op token → "custom" ∈ token.facts.roles →
    ("api", op) ∈ token.facts.rights → ChecksHold token now (some op) →
      ChecksHold token now none ∧ "read-only" ∉ token.facts.roles

theorem checkToken_iff_documented :
    (checkToken revoked now op token = .ok () ↔ Documented revoked now op token) ↔
      isTokenRevoked revoked token = true ∨ DecidesAlike now op token := by
  by_cases hrev : isTokenRevoked revoked token = true
  -- revoked: refused by both
  · refine iff_of_true (iff_of_false (fun h => ?_) fun h => ?_) (.inl hrev)
    · exact absurd (checkToken_eq_ok_iff.mp h).1 (by simp [hrev])
    · exact absurd h.notRevoked (by simp [hrev])
  have hrev' : isTokenRevoked revoked token = false := by simpa using hrev
  rw [or_iff_right hrev]
  by_cases hrole : CoveredByRole op token
  -- covered by a role: only the checks are left
  · have hcode : checkToken revoked now op token = .ok () ↔ ChecksHold token now none := by
      rw [checkToken_eq_ok_iff, and_iff_right hrev', ← or_assoc]
      exact and_iff_left (.inl hrole)
    have hdoc : Documented revoked now op token ↔ ChecksHold token now (some op) :=
      ⟨fun h => h.checks, fun h => ⟨hrev', h, or_assoc.mp (.inl hrole)⟩⟩
    rw [hcode, hdoc]
    exact ⟨fun h => ⟨fun _ => h, fun hno => absurd hrole hno⟩, fun h => h.byRole hrole⟩
  -- otherwise a right has to cover it
  · have hcode : checkToken revoked now op token = .ok () ↔ ChecksHold token now none ∧
        "read-only" ∉ token.facts.roles ∧ "custom" ∈ token.facts.roles ∧
        ("api", op) ∈ token.facts.rights ∧ ChecksHold token now (some op) := by
      rw [checkToken_eq_ok_iff, and_iff_right hrev', ← or_assoc]
      exact and_congr_right fun _ => or_iff_right hrole
    have hdoc : Documented revoked now op token ↔ ChecksHold token now (some op) ∧
        "custom" ∈ token.facts.roles ∧ ("api", op) ∈ token.facts.rights :=
      ⟨fun h => ⟨h.checks, (or_assoc.mpr h.granted).resolve_left hrole⟩,
        fun h => ⟨hrev', h.1, or_assoc.mp (.inr h.2)⟩⟩
    rw [hcode, hdoc]
    constructor
    · intro h
      refine ⟨fun hcov => absurd hcov hrole, fun _ hcustom hright hchecks => ?_⟩
      obtain ⟨hnone, hread, -⟩ := h.mpr ⟨hchecks, hcustom, hright⟩
      exact ⟨hnone, hread⟩
    · intro h
      constructor
      · rintro ⟨-, -, hcustom, hright, hchecks⟩
        exact ⟨hchecks, hcustom, hright⟩
      · rintro ⟨hchecks, hcustom, hright⟩
        obtain ⟨hnone, hread⟩ := h.byRight hrole hcustom hright hchecks
        exact ⟨hnone, hread, hcustom, hright, hchecks⟩

/-- With a root key, the middleware decides a request by the documented policy if
and only if its token, when it verifies, is revoked or is decided alike. -/
theorem letsThrough_iff_documented_iff (fromBase64 : String → RootKey → Option AuthToken)
    (key : RootKey) (revoked : Finset (List UInt8)) (now : Nat) (req : AuthRequest) :
    (conditionalAuthMiddleware fromBase64 ⟨some key, revoked⟩ now req = .ok () ↔
        ∃ token, req.token fromBase64 key = some token ∧
          Documented revoked now req.path token) ↔
      ∀ token, req.token fromBase64 key = some token →
        isTokenRevoked revoked token = true ∨ DecidesAlike now req.path token := by
  rw [conditionalAuthMiddleware_eq_ok_iff]
  cases htoken : req.token fromBase64 key with
  | none => simp
  | some token =>
    simp only [Option.some.injEq, exists_eq_left', forall_eq']
    exact checkToken_iff_documented

/-- A custom token whose check asks for the operation it has the right to. -/
def operationToken : AuthToken :=
  ⟨⟨["custom"], [("api", "/nodeinfo")]⟩,
    ⟨[3], [fun facts => facts.operation = some "/nodeinfo"], by simp⟩, []⟩

/-- The token's check holds for the requested operation but is evaluated without it: the
token counts as expired. -/
theorem refuses_operation_check :
    ¬∀ (fromBase64 : String → RootKey → Option AuthToken) (key : RootKey)
      (revoked : Finset (List UInt8)) (now : Nat) (req : AuthRequest),
      conditionalAuthMiddleware fromBase64 ⟨some key, revoked⟩ now req = .ok () ↔
        ∃ token, req.token fromBase64 key = some token ∧
          Documented revoked now req.path token := by
  intro h
  have hchecks : ChecksHold operationToken 50 (some "/nodeinfo") := by
    simp [ChecksHold, operationToken, Token.checks, Token.chain]
  have hmw := (h (fun _ _ => some operationToken) ⟨Vector.replicate 32 0⟩ ∅ 50
    ⟨some "Bearer user", "/nodeinfo"⟩).mpr
    ⟨operationToken, by rw [AuthRequest.token, bearer_user]; rfl, rfl, hchecks,
      .inr (.inr ⟨by decide, by decide⟩)⟩
  have hrefused : conditionalAuthMiddleware (fun _ _ => some operationToken)
      ⟨some ⟨Vector.replicate 32 0⟩, ∅⟩ 50 ⟨some "Bearer user", "/nodeinfo"⟩ =
        .error .unauthorized := by
    decide +kernel
  rw [hrefused] at hmw
  cases hmw

end RgbLightningNode
