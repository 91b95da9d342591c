import Mathlib.Data.Finset.Basic
import RgbLightningNode.Lib.Biscuit
import RgbLightningNode.Lib.Text
import RgbLightningNode.Types

/-!
# The authentication middleware

Every request brings a token. It goes through when the token verifies, is not
revoked and has not expired, and then by the first role the token is found to
have. Up to five authorizers look at the token, and only the last of them knows
the requested operation.
-/

namespace RgbLightningNode

open Biscuit

/-- The facts of an authority block. -/
structure AuthorityFacts where
  roles : List String
  rights : List (String × String)
  deriving DecidableEq

/-- The facts an authorizer provides: the time, and the operation where it names one. -/
structure AuthorizerFacts where
  time : Nat
  operation : Option String
  deriving DecidableEq

abbrev AuthToken := Token AuthorityFacts AuthorizerFacts

structure RootKey where
  bytes : Bytes32
  deriving DecidableEq

/-- The parts of the node's state the middleware reads. -/
structure AuthState where
  rootPublicKey : Option RootKey
  revokedTokens : Finset (List UInt8)

/-- A request: its authorization header, if there is one that is text, and its path. -/
structure AuthRequest where
  authorization : Option String
  path : String

inductive StatusCode where
  | unauthorized | forbidden
  deriving DecidableEq

def readOnlyOps : List String :=
  ["/assetbalance", "/assetmetadata", "/btcbalance", "/checkindexerurl", "/checkproxyendpoint",
    "/decodelninvoice", "/decodergbinvoice", "/estimatefee", "/getassetmedia", "/getchannelid",
    "/getpayment", "/getswap", "/invoicestatus", "/listassets", "/listchannels", "/listpayments",
    "/listpeers", "/listswaps", "/listtransactions", "/listtransfers", "/listunspents",
    "/networkinfo", "/nodeinfo"]

/-! ### The authorizers -/

def hasRole (role : String) (facts : AuthorityFacts) : Bool := facts.roles.contains role

def hasRight (op : String) (facts : AuthorityFacts) : Bool := facts.rights.contains ("api", op)

/-- A check on the operation sees no operation here. -/
def isRole (now : Nat) (token : AuthToken) (role : String) : Bool :=
  token.authorize (hasRole role) ⟨now, none⟩

def isAdminRole (now : Nat) (token : AuthToken) : Bool := isRole now token "admin"

def isCustomRole (now : Nat) (token : AuthToken) : Bool := isRole now token "custom"

def isReadyOnlyRole (now : Nat) (token : AuthToken) : Bool := isRole now token "read-only"

def isOperationPermitted (now : Nat) (token : AuthToken) (op : String) : Bool :=
  token.authorize (hasRight op) ⟨now, some op⟩

def isOperationReadonly (op : String) : Bool := readOnlyOps.contains op

/-- Any check that fails counts as an expiry. -/
def isTokenExpired (now : Nat) (token : AuthToken) : Bool :=
  !token.authorize (fun _ => true) ⟨now, none⟩

def isTokenRevoked (revoked : Finset (List UInt8)) (token : AuthToken) : Bool :=
  token.revocationIdentifiers.any fun id => id ∈ revoked

/-! ### The middleware -/

/-- What a verified token may do. -/
def checkToken (revoked : Finset (List UInt8)) (now : Nat) (op : String) (token : AuthToken) :
    Except StatusCode Unit :=
  if isTokenRevoked revoked token then .error .unauthorized
  else if isTokenExpired now token then .error .unauthorized
  else if isAdminRole now token then .ok ()
  else if isReadyOnlyRole now token then
    if isOperationReadonly op then .ok () else .error .forbidden
  else if isCustomRole now token then
    if isOperationPermitted now token op then .ok () else .error .forbidden
  else .error .unauthorized

/-- The text of the token a request brings. -/
def AuthRequest.bearer (req : AuthRequest) : Option String := do
  let header ← req.authorization
  let text ← Text.stripPrefix "Bearer ".toList header.toList
  return String.ofList text

/-- The token of a request, when it verifies against the root key. -/
def AuthRequest.token (fromBase64 : String → RootKey → Option AuthToken) (key : RootKey)
    (req : AuthRequest) : Option AuthToken :=
  req.bearer.bind fun text => fromBase64 text key

def conditionalAuthMiddleware (fromBase64 : String → RootKey → Option AuthToken)
    (state : AuthState) (now : Nat) (req : AuthRequest) : Except StatusCode Unit :=
  match state.rootPublicKey with
  -- no root key: authentication is skipped
  | none => .ok ()
  | some key =>
    match req.token fromBase64 key with
    | none => .error .unauthorized
    | some token => checkToken state.revokedTokens now req.path token

/-! ### What goes through -/

/-- All checks of the token hold at this time, for this operation if one is given. -/
def ChecksHold (token : AuthToken) (now : Nat) (op : Option String) : Prop :=
  ∀ check ∈ token.checks, check ⟨now, op⟩ = true

variable {token : AuthToken} {now : Nat} {op : String} {revoked : Finset (List UInt8)}

theorem isRole_eq_true_iff {role : String} :
    isRole now token role = true ↔ ChecksHold token now none ∧ role ∈ token.facts.roles := by
  rw [isRole, Token.authorize_eq_true_iff, hasRole, List.contains_iff_mem]
  exact Iff.rfl

theorem isOperationPermitted_eq_true_iff :
    isOperationPermitted now token op = true ↔
      ChecksHold token now (some op) ∧ ("api", op) ∈ token.facts.rights := by
  rw [isOperationPermitted, Token.authorize_eq_true_iff, hasRight, List.contains_iff_mem]
  exact Iff.rfl

theorem isTokenExpired_eq_false_iff :
    isTokenExpired now token = false ↔ ChecksHold token now none := by
  rw [isTokenExpired, Bool.not_eq_false', Token.authorize_eq_true_iff, and_iff_left rfl]
  exact Iff.rfl

theorem isOperationReadonly_eq_true_iff : isOperationReadonly op = true ↔ op ∈ readOnlyOps :=
  List.contains_iff_mem

theorem isTokenRevoked_eq_true_iff :
    isTokenRevoked revoked token = true ↔
      ∃ id ∈ token.revocationIdentifiers, id ∈ revoked := by
  simp [isTokenRevoked]

/-- A verified token is let through by its first role: admin, then read-only,
then custom. All checks have to hold without an operation; only a custom token's
checks have to hold for the operation as well. -/
theorem checkToken_eq_ok_iff :
    checkToken revoked now op token = .ok () ↔
      isTokenRevoked revoked token = false ∧ ChecksHold token now none ∧
        ("admin" ∈ token.facts.roles ∨
          "read-only" ∈ token.facts.roles ∧ op ∈ readOnlyOps ∨
          "read-only" ∉ token.facts.roles ∧ "custom" ∈ token.facts.roles ∧
            ("api", op) ∈ token.facts.rights ∧ ChecksHold token now (some op)) := by
  unfold checkToken
  by_cases hrev : isTokenRevoked revoked token = true
  · simp [hrev]
  by_cases hexp : ChecksHold token now none
  swap
  · have : isTokenExpired now token = true := by
      rw [← Bool.not_eq_false, isTokenExpired_eq_false_iff]
      exact hexp
    simp [this, hexp]
  -- the checks hold, so each role is found where it is a fact
  have hrole : ∀ role, isRole now token role = true ↔ role ∈ token.facts.roles := fun role => by
    rw [isRole_eq_true_iff, and_iff_right hexp]
  simp only [hrev, isTokenExpired_eq_false_iff.mpr hexp, isAdminRole, isReadyOnlyRole,
    isCustomRole, hrole, isOperationReadonly_eq_true_iff, Bool.false_eq_true, if_false, hexp,
    true_and]
  by_cases hadmin : "admin" ∈ token.facts.roles
  · simp [hadmin]
  by_cases hread : "read-only" ∈ token.facts.roles
  · by_cases hop : op ∈ readOnlyOps <;> simp [hadmin, hread, hop]
  by_cases hcustom : "custom" ∈ token.facts.roles
  · by_cases hperm : isOperationPermitted now token op = true
    · obtain ⟨hchecks, hright⟩ := isOperationPermitted_eq_true_iff.mp hperm
      simp [hadmin, hread, hcustom, hperm, hchecks, hright]
    · have hno : ¬(("api", op) ∈ token.facts.rights ∧ ChecksHold token now (some op)) :=
        fun h => hperm (isOperationPermitted_eq_true_iff.mpr h.symm)
      simp [hadmin, hread, hcustom, hperm, hno]
  · simp [hadmin, hread, hcustom]

section Requests

variable {fromBase64 : String → RootKey → Option AuthToken} {key : RootKey} {req : AuthRequest}

/-- With a root key, a request goes through if and only if it has a token that is let
through. -/
theorem conditionalAuthMiddleware_eq_ok_iff :
    conditionalAuthMiddleware fromBase64 ⟨some key, revoked⟩ now req = .ok () ↔
      ∃ token, req.token fromBase64 key = some token ∧
        checkToken revoked now req.path token = .ok () := by
  rw [conditionalAuthMiddleware]
  dsimp only
  cases req.token fromBase64 key <;> simp

end Requests

end RgbLightningNode
