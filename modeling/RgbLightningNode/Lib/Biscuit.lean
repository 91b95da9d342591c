import Mathlib.Data.Finset.Basic
import Mathlib.Data.Finset.Union

/-!
# Attenuable tokens

A token is an authority block with facts, followed by blocks that anyone may
append. Every block brings checks, and an id of its own. An authorizer lets a
token through when all its checks hold under the authorizer's facts and the
policy matches the facts of the authority block; appended facts are not seen.
-/

namespace Biscuit

/-- A block over the facts `A` that an authorizer provides. The id is a
signature, so it is not empty. -/
structure Block (A : Type) where
  revocationId : List UInt8
  checks : List (A → Bool)
  revocationId_ne_nil : revocationId ≠ []

structure Token (F A : Type) where
  facts : F
  authority : Block A
  blocks : List (Block A)

namespace Token

variable {F A : Type}

/-- The blocks of a token, the authority block first. -/
def chain (t : Token F A) : List (Block A) := t.authority :: t.blocks

def checks (t : Token F A) : List (A → Bool) := t.chain.flatMap Block.checks

def revocationIdentifiers (t : Token F A) : List (List UInt8) := t.chain.map Block.revocationId

/-- Append blocks. -/
def attenuate (t : Token F A) (blocks : List (Block A)) : Token F A :=
  { t with blocks := t.blocks ++ blocks }

/-- The token as it was issued. -/
def origin (t : Token F A) : Token F A := { t with blocks := [] }

/-- An authorizer that provides `ambient` and has one policy. -/
def authorize (policy : F → Bool) (ambient : A) (t : Token F A) : Bool :=
  (t.checks.all fun check => check ambient) && policy t.facts

@[simp] theorem facts_attenuate (t : Token F A) (blocks : List (Block A)) :
    (t.attenuate blocks).facts = t.facts := rfl

@[simp] theorem origin_attenuate (t : Token F A) (blocks : List (Block A)) :
    (t.attenuate blocks).origin = t.origin := rfl

theorem chain_attenuate (t : Token F A) (blocks : List (Block A)) :
    (t.attenuate blocks).chain = t.chain ++ blocks := rfl

theorem checks_attenuate (t : Token F A) (blocks : List (Block A)) :
    (t.attenuate blocks).checks = t.checks ++ blocks.flatMap Block.checks := by
  rw [checks, chain_attenuate, List.flatMap_append, checks]

theorem revocationIdentifiers_attenuate (t : Token F A) (blocks : List (Block A)) :
    (t.attenuate blocks).revocationIdentifiers =
      t.revocationIdentifiers ++ blocks.map Block.revocationId := by
  rw [revocationIdentifiers, chain_attenuate, List.map_append, revocationIdentifiers]

theorem authority_id_mem (t : Token F A) :
    t.authority.revocationId ∈ t.revocationIdentifiers :=
  List.mem_map_of_mem List.mem_cons_self

theorem ne_nil_of_mem {t : Token F A} {id : List UInt8} (h : id ∈ t.revocationIdentifiers) :
    id ≠ [] := by
  obtain ⟨block, -, rfl⟩ := List.mem_map.mp h
  exact block.revocationId_ne_nil

theorem authorize_eq_true_iff {policy : F → Bool} {ambient : A} {t : Token F A} :
    t.authorize policy ambient = true ↔
      (∀ check ∈ t.checks, check ambient = true) ∧ policy t.facts = true := by
  rw [authorize, Bool.and_eq_true, List.all_eq_true]

/-- The checks of a token are checks of what it is attenuated to. -/
theorem checks_hold_of_attenuate {ambient : A} {t : Token F A} {blocks : List (Block A)}
    (h : ∀ check ∈ (t.attenuate blocks).checks, check ambient = true) :
    ∀ check ∈ t.checks, check ambient = true := by
  intro check hc
  refine h check ?_
  rw [checks_attenuate]
  exact List.mem_append_left _ hc

/-! ### Minting -/

/-- The tokens made so far, by issuing and by attenuating, with an id of its own
for every block. -/
inductive Minted : List (Token F A) → Prop where
  | nil : Minted []
  | issue {tokens : List (Token F A)} (t : Token F A) (h : Minted tokens)
      (hblocks : t.blocks = [])
      (hfresh : ∀ u ∈ tokens, t.authority.revocationId ∉ u.revocationIdentifiers) :
      Minted (t :: tokens)
  | attenuate {tokens : List (Token F A)} {t : Token F A} (block : Block A) (h : Minted tokens)
      (ht : t ∈ tokens)
      (hfresh : ∀ u ∈ tokens, block.revocationId ∉ u.revocationIdentifiers) :
      Minted (t.attenuate [block] :: tokens)

/-- Two tokens that share an id stem from the same issued token. -/
theorem Minted.origin_eq {tokens : List (Token F A)} (h : Minted tokens) :
    ∀ t ∈ tokens, ∀ u ∈ tokens, ∀ id ∈ t.revocationIdentifiers,
      id ∈ u.revocationIdentifiers → t.origin = u.origin := by
  -- a new token against an old one: the shared id is none of the new block
  have step : ∀ {tokens : List (Token F A)} {new : Token F A},
      (∀ u ∈ tokens, ∀ id ∈ new.revocationIdentifiers, id ∈ u.revocationIdentifiers →
        new.origin = u.origin) →
      (∀ t ∈ tokens, ∀ u ∈ tokens, ∀ id ∈ t.revocationIdentifiers,
        id ∈ u.revocationIdentifiers → t.origin = u.origin) →
      ∀ t ∈ new :: tokens, ∀ u ∈ new :: tokens, ∀ id ∈ t.revocationIdentifiers,
        id ∈ u.revocationIdentifiers → t.origin = u.origin := by
    intro tokens new hnew hold t ht u hu id hid hid'
    rcases List.mem_cons.mp ht with rfl | hto <;> rcases List.mem_cons.mp hu with rfl | huo
    · rfl
    · exact hnew u huo id hid hid'
    · exact (hnew t hto id hid' hid).symm
    · exact hold t hto u huo id hid hid'
  induction h with
  | nil => intro t ht; cases ht
  | issue t h hblocks hfresh ih =>
    refine step (fun u hu id hid hid' => ?_) ih
    have hids : t.revocationIdentifiers = [t.authority.revocationId] := by
      rw [revocationIdentifiers, chain, hblocks, List.map_singleton]
    rw [hids] at hid
    obtain rfl := List.mem_singleton.mp hid
    exact absurd hid' (hfresh u hu)
  | @attenuate tokens t block h ht hfresh ih =>
    refine step (fun u hu id hid hid' => ?_) ih
    rw [revocationIdentifiers_attenuate] at hid
    obtain hid | hid := List.mem_append.mp hid
    · exact ih t ht u hu id hid hid'
    · obtain rfl := List.mem_singleton.mp hid
      exact absurd hid' (hfresh u hu)

end Token

end Biscuit
