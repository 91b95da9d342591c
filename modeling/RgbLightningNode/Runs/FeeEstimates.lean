import RgbLightningNode.Lib.Fallible
import RgbLightningNode.Lib.MachineInt
import RgbLightningNode.Lib.Mealy
import RgbLightningNode.Types
import Mathlib.Logic.Function.Basic

/-!
# Fee estimates

A task polls the fee estimates of bitcoind over and over and stores one rate for
each confirmation target of the Lightning library. Every estimate that is missing
has a constant in its place, whatever the others are.
-/

namespace RgbLightningNode

open Fallible

inductive ConfirmationTarget where
  | maximumFeeEstimate
  | urgentOnChainSweep
  | minAllowedAnchorChannelRemoteFee
  | minAllowedNonAnchorChannelRemoteFee
  | anchorChannelFee
  | nonAnchorChannelFee
  | channelCloseMinimum
  | outputSpendingFee
  deriving DecidableEq

/-- The rates that are stored, in satoshis for 1000 weight units. There is one for
every target. -/
abbrev FeeTable := ConfirmationTarget → Nat

inductive EstimateMode where
  | economical | conservative
  deriving DecidableEq

/-- What is read of the answer to `getmempoolinfo`. -/
structure MempoolInfo where
  maxmempool : Option Nat
  mempoolminfee : Option Nat

structure MempoolMinFeeResponse where
  feerateSatPerKw : Option Nat

structure FeeResponse where
  feerateSatPerKw : Option Nat

/-- What bitcoind answers during one poll. -/
structure FeeNode where
  mempoolInfo : Except String MempoolInfo
  estimateSmartFee : (confTarget : Nat) → EstimateMode → Except String FeeResponse

/-- A query for an estimate, and what stands for it when there is none. -/
structure FeeQuery where
  confTarget : Nat
  mode : EstimateMode
  default : Nat
  deriving DecidableEq

def minFeerate : Nat := 253

def backgroundQuery : FeeQuery := ⟨144, .economical, minFeerate⟩
def normalQuery : FeeQuery := ⟨18, .economical, 2000⟩
def highPrioQuery : FeeQuery := ⟨6, .conservative, 5000⟩
def veryHighPrioQuery : FeeQuery := ⟨2, .conservative, 50000⟩

/-- The queries of a poll, those for the longest targets first. -/
def feeQueries : List FeeQuery :=
  [backgroundQuery, normalQuery, highPrioQuery, veryHighPrioQuery]

def MempoolInfo.toResponse (info : MempoolInfo) : Except (Exit String) MempoolMinFeeResponse :=
  if info.maxmempool = some 300000000 then .ok ⟨info.mempoolminfee⟩
  else .error (.panic none "assertion `left == right` failed")

def subU32 (overflowChecks : Bool) : Nat → Nat → Except (Exit String) Nat :=
  MachineInt.sub 32 overflowChecks (.panic none "attempt to subtract with overflow")

namespace FeeNode

def mempoolMinEstimate (node : FeeNode) : Except (Exit String) Nat :=
  match node.mempoolInfo with
  | .ok info => do
    let res ← info.toResponse
    return (res.feerateSatPerKw.map (max · minFeerate)).getD minFeerate
  | .error _ => .ok minFeerate

/-- The rate that is given for a query. -/
def feerate? (node : FeeNode) (q : FeeQuery) : Option Nat :=
  match node.estimateSmartFee q.confTarget q.mode with
  | .ok res => res.feerateSatPerKw
  | .error _ => none

def getEstimate (node : FeeNode) (q : FeeQuery) : Nat :=
  ((node.feerate? q).map (max · minFeerate)).getD q.default

end FeeNode

namespace FeeTable

def store (target : ConfirmationTarget) (rate : Nat) : Fallible (Exit String) FeeTable Unit :=
  modify fun fees => Function.update fees target rate

/-- One poll for fee estimates. -/
def pollForFeeEstimates (overflowChecks : Bool) (node : FeeNode) :
    Fallible (Exit String) FeeTable Unit := do
  let mempoolminEstimate ← attempt node.mempoolMinEstimate
  let backgroundEstimate := node.getEstimate backgroundQuery
  let normalEstimate := node.getEstimate normalQuery
  let highPrioEstimate := node.getEstimate highPrioQuery
  let veryHighPrioEstimate := node.getEstimate veryHighPrioQuery
  store .maximumFeeEstimate veryHighPrioEstimate
  store .urgentOnChainSweep highPrioEstimate
  store .minAllowedAnchorChannelRemoteFee mempoolminEstimate
  let lowest ← attempt (subU32 overflowChecks backgroundEstimate 250)
  store .minAllowedNonAnchorChannelRemoteFee lowest
  store .anchorChannelFee backgroundEstimate
  store .nonAnchorChannelFee normalEstimate
  store .channelCloseMinimum backgroundEstimate
  store .outputSpendingFee backgroundEstimate

/-- The rates before the first poll. -/
def initial : FeeTable
  | .maximumFeeEstimate => 50000
  | .urgentOnChainSweep => 5000
  | .minAllowedAnchorChannelRemoteFee => minFeerate
  | .minAllowedNonAnchorChannelRemoteFee => minFeerate
  | .anchorChannelFee => minFeerate
  | .nonAnchorChannelFee => 2000
  | .channelCloseMinimum => minFeerate
  | .outputSpendingFee => minFeerate

/-- The rates increase with the urgency. -/
structure Ordered (fees : FeeTable) : Prop where
  minAllowed_le : fees .minAllowedNonAnchorChannelRemoteFee ≤ fees .anchorChannelFee
  anchor_eq : fees .anchorChannelFee = fees .channelCloseMinimum
  close_eq : fees .channelCloseMinimum = fees .outputSpendingFee
  spending_le : fees .outputSpendingFee ≤ fees .nonAnchorChannelFee
  nonAnchor_le : fees .nonAnchorChannelFee ≤ fees .urgentOnChainSweep
  urgent_le : fees .urgentOnChainSweep ≤ fees .maximumFeeEstimate

theorem ordered_initial : Ordered initial := by
  constructor <;> decide

end FeeTable

/-- The task that polls, which a panic ends. -/
structure FeePoller where
  fees : FeeTable
  running : Bool

namespace FeePoller

def new : FeePoller := ⟨.initial, true⟩

def step (overflowChecks : Bool) (s : FeePoller) (node : FeeNode) : Unit × FeePoller :=
  if s.running then
    match FeeTable.pollForFeeEstimates overflowChecks node s.fees with
    | .ok () fees => ((), ⟨fees, true⟩)
    | .error _ fees => ((), ⟨fees, false⟩)
  else ((), s)

end FeePoller

/-! ### One estimate against another -/

namespace FeeNode

variable {node : FeeNode}

/-- The rates that are given do not increase with the confirmation target. -/
def NonIncreasing (node : FeeNode) : Prop :=
  ∀ short ∈ feeQueries, ∀ long ∈ feeQueries, short.confTarget ≤ long.confTarget →
    ∀ f ∈ node.feerate? short, ∀ g ∈ node.feerate? long, g ≤ f

instance : Decidable node.NonIncreasing := by
  unfold NonIncreasing
  infer_instance

/-- Of two queries, one that is given no rate stands in the right order to the rate
that the other one is given. -/
def FallbackFits (node : FeeNode) (long short : FeeQuery) : Prop :=
  (node.feerate? short = none → ∀ g ∈ node.feerate? long, g ≤ short.default) ∧
    (node.feerate? long = none → ∀ f ∈ node.feerate? short, long.default ≤ max f minFeerate)

/-- Whatever falls back fits to whatever does not. -/
def FallbacksFit (node : FeeNode) : Prop := feeQueries.Pairwise node.FallbackFits

/-- The memory pool of the node is of the size that the task insists on. -/
def MempoolAccepted (node : FeeNode) : Prop :=
  ∀ info, node.mempoolInfo = .ok info → info.maxmempool = some 300000000

theorem getEstimate_le_iff {long short : FeeQuery}
    (hgiven : ∀ f ∈ node.feerate? short, ∀ g ∈ node.feerate? long, g ≤ f)
    (hmin : minFeerate ≤ short.default) (hdefault : long.default ≤ short.default) :
    node.getEstimate long ≤ node.getEstimate short ↔ node.FallbackFits long short := by
  unfold getEstimate FallbackFits
  cases hlong : node.feerate? long with
  | none =>
    cases hshort : node.feerate? short with
    | none => simpa using hdefault
    | some f => simp
  | some g =>
    cases hshort : node.feerate? short with
    | none => simp [hmin]
    | some f =>
      have hle := hgiven f hshort g hlong
      exact iff_of_true (max_le_max hle le_rfl) ⟨fun h => (by cases h), fun h => (by cases h)⟩

/-- The longer a target, the lower its default. -/
theorem pairwise_default : feeQueries.Pairwise fun long short =>
    short.confTarget ≤ long.confTarget ∧ minFeerate ≤ short.default ∧
      long.default ≤ short.default := by
  decide

/-- The estimates of a poll are in order if and only if what falls back fits. -/
theorem pairwise_getEstimate_iff (h : node.NonIncreasing) :
    feeQueries.Pairwise (fun long short => node.getEstimate long ≤ node.getEstimate short) ↔
      node.FallbacksFit := by
  have hiff : feeQueries.Pairwise fun long short =>
      (node.getEstimate long ≤ node.getEstimate short ↔ node.FallbackFits long short) := by
    refine (List.Pairwise.and_mem.mp pairwise_default).imp ?_
    rintro long short ⟨hlong, hshort, htarget, hmin, hdefault⟩
    exact getEstimate_le_iff (h short hshort long hlong htarget) hmin hdefault
  exact ⟨fun hle => List.Pairwise.imp₂ (fun _ _ hiff => hiff.mp) hiff hle,
    fun hfit => List.Pairwise.imp₂ (fun _ _ hiff => hiff.mpr) hiff hfit⟩

/-- An estimate for the longest target is enough to subtract from. -/
theorem le_getEstimate_background (node : FeeNode) : 250 ≤ node.getEstimate backgroundQuery := by
  have hmin : minFeerate ≤ node.getEstimate backgroundQuery := by
    unfold getEstimate
    cases node.feerate? backgroundQuery with
    | none => exact le_rfl
    | some f => exact le_max_right f minFeerate
  exact le_trans (by decide) hmin

/-- A poll gets the memory pool's rate if and only if its size is accepted. -/
theorem mempoolMinEstimate_ok_iff :
    (∃ rate, node.mempoolMinEstimate = .ok rate) ↔ node.MempoolAccepted := by
  unfold mempoolMinEstimate MempoolAccepted
  cases node.mempoolInfo with
  | error e => simp
  | ok info =>
    dsimp only [MempoolInfo.toResponse]
    by_cases hsize : info.maxmempool = some 300000000
    · rw [if_pos hsize]
      exact iff_of_true ⟨_, rfl⟩ fun info' h => Except.ok.inj h ▸ hsize
    · rw [if_neg hsize]
      refine iff_of_false ?_ fun h => hsize (h info rfl)
      rintro ⟨rate, h⟩
      cases h

end FeeNode

/-! ### One poll -/

namespace FeeTable

variable {overflowChecks : Bool} {node : FeeNode}

/-- The rates after a poll that goes through. -/
def polled (node : FeeNode) (mempoolmin : Nat) : FeeTable
  | .maximumFeeEstimate => node.getEstimate veryHighPrioQuery
  | .urgentOnChainSweep => node.getEstimate highPrioQuery
  | .minAllowedAnchorChannelRemoteFee => mempoolmin
  | .minAllowedNonAnchorChannelRemoteFee => node.getEstimate backgroundQuery - 250
  | .anchorChannelFee => node.getEstimate backgroundQuery
  | .nonAnchorChannelFee => node.getEstimate normalQuery
  | .channelCloseMinimum => node.getEstimate backgroundQuery
  | .outputSpendingFee => node.getEstimate backgroundQuery

theorem pollForFeeEstimates_apply (fees : FeeTable) :
    pollForFeeEstimates overflowChecks node fees =
      match node.mempoolMinEstimate with
      | .ok mempoolmin => .ok () (polled node mempoolmin)
      | .error e => .error e fees := by
  have hsub : subU32 overflowChecks (node.getEstimate backgroundQuery) 250 =
      .ok (node.getEstimate backgroundQuery - 250) :=
    MachineInt.sub_of_le node.le_getEstimate_background
  simp only [pollForFeeEstimates, hsub]
  cases node.mempoolMinEstimate with
  | error e => rfl
  | ok mempoolmin =>
    refine congrArg (EStateM.Result.ok ()) (funext fun target => ?_)
    cases target <;> rfl

/-- The rates of a poll are ordered as its estimates are. -/
theorem ordered_polled_iff (mempoolmin : Nat) :
    (polled node mempoolmin).Ordered ↔
      feeQueries.Pairwise fun long short => node.getEstimate long ≤ node.getEstimate short := by
  simp only [feeQueries, List.pairwise_cons, List.mem_cons, List.not_mem_nil, or_false,
    forall_eq_or_imp, forall_eq, List.Pairwise.nil, and_true, false_imp_iff, implies_true]
  constructor
  · rintro ⟨-, -, -, hnormal, hhigh, hveryHigh⟩
    exact ⟨⟨hnormal, hnormal.trans hhigh, (hnormal.trans hhigh).trans hveryHigh⟩,
      ⟨hhigh, hhigh.trans hveryHigh⟩, hveryHigh⟩
  · rintro ⟨⟨hnormal, -, -⟩, ⟨hhigh, -⟩, hveryHigh⟩
    exact ⟨Nat.sub_le .., rfl, rfl, hnormal, hhigh, hveryHigh⟩

end FeeTable

namespace FeePoller

variable {overflowChecks : Bool} {s : FeePoller} {node : FeeNode}

/-- A poll keeps the rates ordered if and only if what falls back fits, where it goes
through. -/
theorem ordered_step_iff (hs : s.fees.Ordered) (h : node.NonIncreasing) :
    (step overflowChecks s node).2.fees.Ordered ↔
      (s.running = true → node.MempoolAccepted → node.FallbacksFit) := by
  rw [step, FeeTable.pollForFeeEstimates_apply, ← FeeNode.mempoolMinEstimate_ok_iff]
  split
  · rename_i hrunning
    cases hrate : node.mempoolMinEstimate with
    | error e => simpa [hrunning] using hs
    | ok mempoolmin =>
      rw [← FeeNode.pairwise_getEstimate_iff h, ← FeeTable.ordered_polled_iff mempoolmin]
      simp [hrunning]
  · rename_i hstopped
    simpa [hstopped] using hs

/-- The subtraction never underflows, and every poll leaves the rates ordered if and
only if what falls back fits in every poll that goes through. -/
theorem keepsOrder_iff (overflowChecks : Bool) (nodes : List FeeNode)
    (h : ∀ node ∈ nodes, node.NonIncreasing) :
    Mealy.Along (step overflowChecks) (fun s node =>
        (step overflowChecks s node).2.fees.Ordered ∧ 250 ≤ node.getEstimate backgroundQuery)
      new nodes ↔
    Mealy.Along (step overflowChecks)
      (fun s node => s.running = true → node.MempoolAccepted → node.FallbacksFit) new nodes := by
  refine Mealy.along_iff_of_invariant_of (I := fun s => s.fees.Ordered)
    (C := fun _ node => node.NonIncreasing) (fun s node hs hnode => ?_)
    (fun s node hs hnode hfits => (ordered_step_iff hs hnode).mpr hfits)
    FeeTable.ordered_initial (Mealy.along_of_forall h new)
  rw [ordered_step_iff hs hnode]
  exact and_iff_left node.le_getEstimate_background

/-- A node that has an estimate for the longest target alone. -/
def sparseNode (feerate : Nat) : FeeNode where
  mempoolInfo := .ok ⟨some 300000000, some 253⟩
  estimateSmartFee confTarget _ :=
    if confTarget = 144 then .ok ⟨some feerate⟩ else .error "Insufficient data"

/-- An estimate between the defaults, and no estimates at all. -/
theorem keepsOrder_iff_sparse :
    Mealy.Along (step true) (fun s node =>
        (step true s node).2.fees.Ordered ∧ 250 ≤ node.getEstimate backgroundQuery)
      new [sparseNode 1000, ⟨.error "", fun _ _ => .ok ⟨none⟩⟩] ↔
    Mealy.Along (step true)
      (fun s node => s.running = true → node.MempoolAccepted → node.FallbacksFit) new
      [sparseNode 1000, ⟨.error "", fun _ _ => .ok ⟨none⟩⟩] :=
  keepsOrder_iff true _ (by simp only [List.forall_mem_cons]; decide)

/-- One estimate above the default of the next target. -/
theorem disordered_by_fallback :
    (sparseNode 3000).NonIncreasing ∧
      ¬Mealy.Along (step true) (fun s node =>
        (step true s node).2.fees.Ordered ∧ 250 ≤ node.getEstimate backgroundQuery)
      new [sparseNode 3000] := by
  refine ⟨by decide, fun h => ?_⟩
  have hspending := h.1.1.spending_le
  exact absurd hspending (by decide)

end FeePoller

end RgbLightningNode
