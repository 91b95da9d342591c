import RgbLightningNode.Auth.Access

/-!
# The tokens of a revocation

A revocation adds every id of the token to the list, the authority block's among
them. It revokes every token that stems from the same issued token.
-/

namespace RgbLightningNode

open Biscuit

/-- The update of the set that a revocation makes under the lock. -/
def insertRevocationIds (revoked : Finset (List UInt8)) (token : AuthToken) :
    Finset (List UInt8) :=
  token.revocationIdentifiers.foldl (fun revoked id => insert id revoked) revoked

/-- The set after the revocations of some tokens, one after the other. -/
def revokeTokens (revoked : Finset (List UInt8)) (tokens : List AuthToken) :
    Finset (List UInt8) :=
  tokens.foldl insertRevocationIds revoked

theorem mem_foldl_insert {id : List UInt8} (ids : List (List UInt8)) :
    ∀ revoked : Finset (List UInt8),
      id ∈ ids.foldl (fun revoked id => insert id revoked) revoked ↔ id ∈ revoked ∨ id ∈ ids := by
  induction ids with
  | nil => intro revoked; simp
  | cons i ids ih =>
    intro revoked
    rw [List.foldl_cons, ih, Finset.mem_insert, List.mem_cons, or_comm (a := id = i), or_assoc]

theorem mem_insertRevocationIds {revoked : Finset (List UInt8)} {token : AuthToken}
    {id : List UInt8} :
    id ∈ insertRevocationIds revoked token ↔ id ∈ revoked ∨ id ∈ token.revocationIdentifiers :=
  mem_foldl_insert _ revoked

theorem mem_revokeTokens {id : List UInt8} (tokens : List AuthToken) :
    ∀ revoked : Finset (List UInt8),
      id ∈ revokeTokens revoked tokens ↔
        id ∈ revoked ∨ ∃ t ∈ tokens, id ∈ t.revocationIdentifiers := by
  induction tokens with
  | nil => intro revoked; simp [revokeTokens]
  | cons t tokens ih =>
    intro revoked
    have := ih (insertRevocationIds revoked t)
    rw [revokeTokens] at this ⊢
    rw [List.foldl_cons, this, mem_insertRevocationIds, or_assoc, List.exists_mem_cons_iff]

/-- After the revocations, a token counts as revoked if and only if it stems from
the same issued token as one of the revoked ones. -/
theorem isTokenRevoked_revokeTokens_iff {tokens revoked : List AuthToken}
    (h : Token.Minted tokens) (hrevoked : revoked ⊆ tokens) {u : AuthToken} (hu : u ∈ tokens) :
    isTokenRevoked (revokeTokens ∅ revoked) u = true ↔ ∃ t ∈ revoked, t.origin = u.origin := by
  rw [isTokenRevoked_eq_true_iff]
  constructor
  · rintro ⟨id, hid, hmem⟩
    obtain hmem | ⟨t, ht, hid'⟩ := (mem_revokeTokens revoked ∅).mp hmem
    · cases hmem
    · exact ⟨t, ht, h.origin_eq t (hrevoked ht) u hu id hid' hid⟩
  · rintro ⟨t, ht, horigin⟩
    have hid := Token.authority_id_mem u
    refine ⟨u.authority.revocationId, hid, (mem_revokeTokens revoked ∅).mpr (.inr ⟨t, ht, ?_⟩)⟩
    obtain ⟨-, hauth : t.authority = u.authority, -⟩ := Token.mk.inj horigin
    rw [← hauth]
    exact Token.authority_id_mem t

/-- A token, and the token attenuated from it by an expiry. -/
def delegated : List AuthToken := [nodeinfoToken.attenuate [untilTime100], nodeinfoToken]

theorem minted_delegated : Token.Minted delegated := by
  refine .attenuate untilTime100 (.issue nodeinfoToken .nil rfl ?_) (List.mem_singleton_self _) ?_
  · intro u hu
    cases hu
  · intro u hu
    obtain rfl := List.mem_singleton.mp hu
    decide

/-- Revoking an attenuated token revokes the token it was made from. -/
theorem isTokenRevoked_parent :
    isTokenRevoked (revokeTokens ∅ [nodeinfoToken.attenuate [untilTime100]]) nodeinfoToken =
      true :=
  (isTokenRevoked_revokeTokens_iff minted_delegated (List.cons_subset_cons _ (List.nil_subset _))
    (List.mem_cons_of_mem _ (List.mem_singleton_self _))).mpr
    ⟨_, List.mem_singleton_self _, rfl⟩

/-- A revocation is not limited to the token and those attenuated from it. -/
theorem revokes_ancestor :
    ¬∀ tokens revoked : List AuthToken, Token.Minted tokens → revoked ⊆ tokens →
      ∀ u ∈ tokens, isTokenRevoked (revokeTokens ∅ revoked) u = true ↔
        ∃ t ∈ revoked, ∃ blocks, u = t.attenuate blocks := by
  intro h
  obtain ⟨t, ht, blocks, heq⟩ := (h delegated [nodeinfoToken.attenuate [untilTime100]]
    minted_delegated (List.cons_subset_cons _ (List.nil_subset _)) nodeinfoToken
    (List.mem_cons_of_mem _ (List.mem_singleton_self _))).mp (by decide +kernel)
  obtain rfl := List.mem_singleton.mp ht
  have hlength := congrArg (fun t : AuthToken => t.blocks.length) heq
  simp [Token.attenuate, nodeinfoToken] at hlength

end RgbLightningNode
