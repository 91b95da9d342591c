import RgbLightningNode.Routes.RouteAmounts

/-!
# Panics of executing a swap

The maker updates the recorded swap without having looked it up, and unwraps the
counterparty's forwarding info of every channel it can receive on. Where one of
these is missing the request panics, and a build with overflow checks also panics
where an amount or the fees of the route do not fit a `u64`. Otherwise the request
answers.
-/

namespace RgbLightningNode

open Fallible Node

section Route

variable {ContractId : Type} [DecidableEq ContractId]

/-- A channel on which the maker could receive what the taker gives. -/
def receivesOn (info : SwapInfo ContractId) (dir : LdkDataDir ContractId)
    (details : UsableChannel) : Bool :=
  info.isFromBtc ||
    (dir.channelInfo.lookup details.channelId.hex).any fun rgbInfo =>
      some rgbInfo.contractId = info.fromAsset

theorem isReceiveChannel_eq (info : SwapInfo ContractId) (dir : LdkDataDir ContractId)
    (details : UsableChannel) :
    isReceiveChannel info dir details = .ok (receivesOn info dir details) := by
  rw [isReceiveChannel, LdkDataDir.getRgbChannelInfoOptional_false, receivesOn]
  change (if info.isFromBtc then _ else _) = _
  cases info.isFromBtc
  · cases dir.channelInfo.lookup details.channelId.hex <;> rfl
  · rfl

/-- The channel says how the node behind it reaches this one. -/
def HasHint (details : UsableChannel) : Prop :=
  details.forwardingInfo.isSome ∧ details.shortChannelId.isSome

omit [DecidableEq ContractId] in
theorem receiveHint_cases (details : UsableChannel) :
    (HasHint details ∧ ∃ hint, receiveHint details = .ok hint) ∨
      (¬HasHint details ∧ receiveHint details = .error (.panic none unwrapNone)) := by
  cases hf : details.forwardingInfo <;> cases hs : details.shortChannelId <;>
    simp [receiveHint, HasHint, orPanic, hf, hs, bind, Except.bind, pure, Except.pure]

/-- The hints are made, or one that is missing is a panic. -/
theorem failsOnly_receiveHints_iff {E : Exit APIError → Prop} {info : SwapInfo ContractId}
    {dir : LdkDataDir ContractId} {channels : List UsableChannel} :
    FailsOnly E (receiveHints info dir channels) ↔
      ((∀ details ∈ channels, receivesOn info dir details → HasHint details) ∨
        E (.panic none unwrapNone)) := by
  rw [receiveHints, filterM_of_ok (isReceiveChannel_eq info dir)]
  change FailsOnly E ((channels.filter (receivesOn info dir)).mapM receiveHint) ↔ _
  cases hm : (channels.filter (receivesOn info dir)).mapM receiveHint with
  | ok hints =>
    refine iff_of_true (.ok hints) (.inl fun details hmem hr => ?_)
    obtain ⟨hint, hd⟩ := mapM_eq_ok hm details (List.mem_filter.mpr ⟨hmem, hr⟩)
    obtain ⟨hhas, -⟩ | ⟨-, herror⟩ := receiveHint_cases details
    · exact hhas
    · rw [hd] at herror
      cases herror
  | error e =>
    obtain ⟨details, hmem, hd⟩ := mapM_eq_error hm
    obtain ⟨hmem, hr⟩ := List.mem_filter.mp hmem
    obtain ⟨-, hint, hok⟩ | ⟨hnone, herror⟩ := receiveHint_cases details
    · rw [hd] at hok
      cases hok
    · obtain rfl := Except.error.inj (hd.symm.trans herror)
      rw [FailsOnly.error_iff, or_iff_right fun hall => hnone (hall details hmem hr)]

/-- The router answers with a path, and the path has a hop. -/
def Lightning.FindsPaths (ln : Lightning ContractId) : Prop :=
  ∀ query paths, ln.getRoute query = some paths →
    ∃ path others, paths = path :: others ∧ path ≠ []

/-- The router finds both legs, and their fees stay below the most a swap may
cost. -/
def FindsRoute (ln : Lightning ContractId) (info : SwapInfo ContractId) (takerPk : PublicKey)
    (dir : LdkDataDir ContractId) : Prop :=
  ∃ hints there back fee, receiveHints info dir ln.listUsableChannels = .ok hints ∧
    FindsLegs ln info takerPk hints there back ∧
    MachineInt.Holds 64 ln.overflowChecks (legFees there + legFees back) fee ∧
    fee < maxSwapFeeMsat

/-- In a build with overflow checks every amount fits. -/
def PassesChecks (ln : Lightning ContractId) (info : SwapInfo ContractId) (takerPk : PublicKey)
    (dir : LdkDataDir ContractId) : Prop :=
  ln.overflowChecks = true → ∀ hints,
    receiveHints info dir ln.listUsableChannels = .ok hints → AmountsFit ln info takerPk hints

variable {ln : Lightning ContractId} {info : SwapInfo ContractId} {takerPk : PublicKey}
  {dir : LdkDataDir ContractId} {hints : List RouteHintHop}

omit [DecidableEq ContractId] in
theorem FindsLegs.unique {there back there' back' : List (RouteHop ContractId)}
    (h : FindsLegs ln info takerPk hints there back)
    (h' : FindsLegs ln info takerPk hints there' back') : there = there' ∧ back = back' := by
  obtain ⟨⟨first, _, hfirst, hthere⟩, ⟨second, _, hsecond, hback⟩⟩ := h
  obtain ⟨⟨first', _, hfirst', hthere'⟩, ⟨second', _, hsecond', hback'⟩⟩ := h'
  obtain rfl := Except.ok.inj (hfirst.symm.trans hfirst')
  obtain rfl := Except.ok.inj (hsecond.symm.trans hsecond')
  exact ⟨(List.cons.inj (Option.some.inj (hthere.symm.trans hthere'))).1,
    (List.cons.inj (Option.some.inj (hback.symm.trans hback'))).1⟩

omit [DecidableEq ContractId] in
theorem circularRoute_panics (ln : Lightning ContractId) (info : SwapInfo ContractId)
    {there back : List (RouteHop ContractId)} (h : there = [] ∨ back = []) :
    ∃ message, circularRoute ln info there back = .error (.panic none message) := by
  cases back with
  | nil => exact ⟨_, rfl⟩
  | cons hop back =>
    obtain rfl := h.resolve_right (List.cons_ne_nil _ _)
    exact ⟨_, rfl⟩

/-! ### Amounts that do not fit -/

section Queries

omit [DecidableEq ContractId]

/-- A query is made unless the build has overflow checks and an amount does not fit. -/
theorem isOk_iff_of_asksFor {query : Except (Exit APIError) (RouteQuery ContractId)}
    {overflowChecks : Bool} {amount : Nat}
    (h : ∀ {msat}, AsksFor query msat ↔ MachineInt.Holds 64 overflowChecks amount msat) :
    (∃ q, query = .ok q) ↔ (overflowChecks = true → amount < 2 ^ 64) := by
  constructor
  · rintro ⟨q, hq⟩
    exact (h.mp ⟨q, hq, rfl⟩).2
  · intro hfits
    obtain ⟨q, hq, -⟩ := h.mpr ⟨rfl, hfits⟩
    exact ⟨q, hq⟩

theorem failsOnly_addHtlcMin (ln : Lightning ContractId) (qty : Nat) :
    FailsOnly (· = addOverflows) (addHtlcMin ln qty) := by
  intro e he
  rw [addHtlcMin, MachineInt.add] at he
  split at he
  · cases he
  · split at he <;> cases he
    rfl

theorem failsOnly_firstLegQuery (ln : Lightning ContractId) (info : SwapInfo ContractId)
    (takerPk : PublicKey) : FailsOnly (· = addOverflows) (firstLegQuery ln info takerPk) := by
  refine FailsOnly.bind_iff.mpr ⟨?_, fun _ _ => FailsOnly.ok _⟩
  rw [firstLegMsat]
  split
  · exact failsOnly_addHtlcMin ln _
  · exact FailsOnly.ok _

theorem failsOnly_secondLegQuery (ln : Lightning ContractId) (info : SwapInfo ContractId)
    (takerPk : PublicKey) (hints : List RouteHintHop) :
    FailsOnly (· = addOverflows) (secondLegQuery ln info takerPk hints) := by
  refine FailsOnly.bind_iff.mpr ⟨?_, fun _ _ => FailsOnly.ok _⟩
  rw [secondLegMsat]
  split
  · exact FailsOnly.ok _
  · exact failsOnly_addHtlcMin ln _

/-- A build that passes its checks makes both queries. -/
theorem exists_queries (hne : info.fromAsset ≠ info.toAsset)
    (h : ln.overflowChecks = true → AmountsFit ln info takerPk hints) :
    ∃ first second, firstLegQuery ln info takerPk = .ok first ∧
      secondLegQuery ln info takerPk hints = .ok second := by
  obtain ⟨first, hfirst⟩ : ∃ first, firstLegQuery ln info takerPk = .ok first :=
    (isOk_iff_of_asksFor asksFor_firstLeg_iff).mpr fun hc => (btcTo_fits_iff info).mpr (h hc).qtyTo
  obtain ⟨second, hsecond⟩ : ∃ second, secondLegQuery ln info takerPk hints = .ok second :=
    (isOk_iff_of_asksFor (asksFor_secondLeg_iff hne)).mpr fun hc =>
      (btcFrom_fits_iff info).mpr (h hc).qtyFrom
  exact ⟨first, second, hfirst, hsecond⟩

end Queries

/-- A sum that does not fit is a panic in a build with overflow checks. -/
theorem buildRoute_of_overflow (hne : info.fromAsset ≠ info.toAsset)
    (hhints : receiveHints info dir ln.listUsableChannels = .ok hints)
    (hc : ln.overflowChecks = true) (h : ¬AmountsFit ln info takerPk hints) :
    buildRoute ln info takerPk dir = .error addOverflows := by
  cases hfirst : firstLegQuery ln info takerPk with
  | error e =>
    obtain rfl := failsOnly_firstLegQuery ln info takerPk e hfirst
    rw [buildRoute, hhints, except_ok_bind, hfirst]
    rfl
  | ok first =>
    cases hsecond : secondLegQuery ln info takerPk hints with
    | error e =>
      obtain rfl := failsOnly_secondLegQuery ln info takerPk hints e hsecond
      rw [buildRoute, hhints, except_ok_bind, hfirst, except_ok_bind, hsecond]
      rfl
    | ok second =>
      -- both queries are made, so it is the fees that do not fit
      have hto := (isOk_iff_of_asksFor asksFor_firstLeg_iff).mp ⟨first, hfirst⟩ hc
      have hfrom := (isOk_iff_of_asksFor (asksFor_secondLeg_iff hne)).mp ⟨second, hsecond⟩ hc
      have hfees : ∃ there back, FindsLegs ln info takerPk hints there back ∧ there ≠ [] ∧
          back ≠ [] ∧ ¬legFees there + legFees back < 2 ^ 64 := by
        by_contra hnone
        push Not at hnone
        exact h ⟨(btcTo_fits_iff info).mp hto, (btcFrom_fits_iff info).mp hfrom, hnone⟩
      obtain ⟨there, back, hlegs, hthere, hback, hbig⟩ := hfees
      obtain ⟨hops, hhops⟩ := circularRoute_isOk_iff.mpr ⟨hthere, hback⟩
      have hsum : totalFee ln hops = .error addOverflows := by
        refine MachineInt.sum_eq_error hc ?_
        rwa [sum_fees_eq, legFees_circularRoute hhops]
      rw [buildRoute_of_legs hhints hlegs, hhops, except_ok_bind, checkFee, hsum]
      rfl

theorem buildRoute_of_not_passesChecks (hne : info.fromAsset ≠ info.toAsset)
    (h : ¬PassesChecks ln info takerPk dir) :
    buildRoute ln info takerPk dir = .error addOverflows := by
  rw [PassesChecks] at h
  push Not at h
  obtain ⟨hc, hints, hhints, hbig⟩ := h
  exact buildRoute_of_overflow hne hhints hc hbig

/-! ### What is built -/

/-- What is built from the answers of the router. -/
inductive RouteBuilt (ln : Lightning ContractId) (info : SwapInfo ContractId)
    (takerPk : PublicKey) (dir : LdkDataDir ContractId) :
    Except (Exit APIError) (List (RouteHop ContractId)) → Prop where
  | noHints {e : Exit APIError} (h : receiveHints info dir ln.listUsableChannels = .error e) :
      RouteBuilt ln info takerPk dir (.error e)
  | overflows (h : ¬PassesChecks ln info takerPk dir) :
      RouteBuilt ln info takerPk dir (.error addOverflows)
  | refused {e : APIError} (he : e.isInvalidSwapString = false)
      (hpass : PassesChecks ln info takerPk dir) (h : ¬FindsRoute ln info takerPk dir) :
      RouteBuilt ln info takerPk dir (.error (.err e))
  | found {hops : List (RouteHop ContractId)} (hpass : PassesChecks ln info takerPk dir)
      (h : FindsRoute ln info takerPk dir) : RouteBuilt ln info takerPk dir (.ok hops)
  | noPath {message : String} (hpass : PassesChecks ln info takerPk dir) (h : ¬ln.FindsPaths) :
      RouteBuilt ln info takerPk dir (.error (.panic none message))

/-- Without a leg there is no route. -/
theorem buildRoute_of_none {first second : RouteQuery ContractId}
    (hhints : receiveHints info dir ln.listUsableChannels = .ok hints)
    (hfirst : firstLegQuery ln info takerPk = .ok first)
    (hsecond : secondLegQuery ln info takerPk hints = .ok second)
    (h : ln.getRoute first = none ∨ ln.getRoute second = none) :
    buildRoute ln info takerPk dir = .error (.err .noRoute) := by
  rw [buildRoute, hhints, except_ok_bind, hfirst, except_ok_bind, hsecond, except_ok_bind]
  obtain h | h := h
  · simp only [h]
  · simp only [h]
    cases ln.getRoute first <;> rfl

/-- A leg without a path is a panic. -/
theorem buildRoute_of_no_path {first second : RouteQuery ContractId}
    {theres backs : List (List (RouteHop ContractId))}
    (hhints : receiveHints info dir ln.listUsableChannels = .ok hints)
    (hfirst : firstLegQuery ln info takerPk = .ok first)
    (hsecond : secondLegQuery ln info takerPk hints = .ok second)
    (hthere : ln.getRoute first = some theres) (hback : ln.getRoute second = some backs)
    (h : theres = [] ∨ backs = []) :
    ∃ message, buildRoute ln info takerPk dir = .error (.panic none message) := by
  rw [buildRoute, hhints, except_ok_bind, hfirst, except_ok_bind, hsecond, except_ok_bind]
  simp only [hthere, hback]
  cases backs with
  | nil => exact ⟨_, rfl⟩
  | cons back backs =>
    obtain rfl := h.resolve_right (List.cons_ne_nil _ _)
    cases back <;> exact ⟨_, rfl⟩

theorem routeBuilt_of_legs {there back : List (RouteHop ContractId)}
    (hhints : receiveHints info dir ln.listUsableChannels = .ok hints)
    (hlegs : FindsLegs ln info takerPk hints there back)
    (hpass : PassesChecks ln info takerPk dir) :
    RouteBuilt ln info takerPk dir (buildRoute ln info takerPk dir) := by
  rw [buildRoute_of_legs hhints hlegs]
  by_cases hempty : there = [] ∨ back = []
  · obtain ⟨message, hpanic⟩ := circularRoute_panics ln info hempty
    rw [hpanic]
    refine .noPath hpass fun hpaths => ?_
    obtain ⟨⟨_, _, -, hthere⟩, ⟨_, _, -, hback⟩⟩ := hlegs
    obtain ⟨_, _, hcons, hne⟩ := hpaths _ _ hthere
    obtain ⟨_, _, hcons', hne'⟩ := hpaths _ _ hback
    obtain rfl | rfl := hempty
    · exact hne (List.cons.inj hcons).1.symm
    · exact hne' (List.cons.inj hcons').1.symm
  · obtain ⟨hthere, hback⟩ := not_or.mp hempty
    obtain ⟨hops, hhops⟩ := circularRoute_isOk_iff.mpr ⟨hthere, hback⟩
    have hfee : MachineInt.Holds 64 ln.overflowChecks (legFees there + legFees back)
        ((legFees there + legFees back) % 2 ^ 64) :=
      ⟨rfl, fun hc => (hpass hc hints hhints).fees there back hlegs hthere hback⟩
    rw [hhops, except_ok_bind, checkFee, (totalFee_circularRoute_iff hhops).mpr hfee,
      except_ok_bind]
    split
    · refine .refused rfl hpass ?_
      rintro ⟨hints₁, there₁, back₁, fee₁, hhints₁, hlegs₁, ⟨rfl, -⟩, hlt⟩
      obtain rfl := Except.ok.inj (hhints.symm.trans hhints₁)
      obtain ⟨rfl, rfl⟩ := hlegs.unique hlegs₁
      omega
    · exact .found hpass ⟨hints, there, back, _, hhints, hlegs, hfee, by omega⟩

theorem routeBuilt (ln : Lightning ContractId) (hne : info.fromAsset ≠ info.toAsset)
    (takerPk : PublicKey) (dir : LdkDataDir ContractId) :
    RouteBuilt ln info takerPk dir (buildRoute ln info takerPk dir) := by
  cases hhints : receiveHints info dir ln.listUsableChannels with
  | error e =>
    rw [buildRoute, hhints]
    exact .noHints hhints
  | ok hints =>
    by_cases hpass : PassesChecks ln info takerPk dir
    swap
    · rw [buildRoute_of_not_passesChecks hne hpass]
      exact .overflows hpass
    obtain ⟨first, second, hfirst, hsecond⟩ :=
      exists_queries hne fun hc => hpass hc hints hhints
    have hasked : ∀ {there back}, FindsLegs ln info takerPk hints there back →
        ln.getRoute first ≠ none ∧ ln.getRoute second ≠ none := by
      rintro there back ⟨⟨_, _, hfirst₁, hthere⟩, ⟨_, _, hsecond₁, hback⟩⟩
      obtain rfl := Except.ok.inj (hfirst.symm.trans hfirst₁)
      obtain rfl := Except.ok.inj (hsecond.symm.trans hsecond₁)
      exact ⟨hthere ▸ Option.some_ne_none _, hback ▸ Option.some_ne_none _⟩
    by_cases hnone : ln.getRoute first = none ∨ ln.getRoute second = none
    · rw [buildRoute_of_none hhints hfirst hsecond hnone]
      refine .refused rfl hpass ?_
      rintro ⟨hints₁, _, _, _, hhints₁, hlegs, -⟩
      obtain rfl := Except.ok.inj (hhints.symm.trans hhints₁)
      obtain ⟨hthere, hback⟩ := hasked hlegs
      exact hnone.elim hthere hback
    obtain ⟨hthere, hback⟩ := not_or.mp hnone
    obtain ⟨theres, hthere⟩ := Option.ne_none_iff_exists'.mp hthere
    obtain ⟨backs, hback⟩ := Option.ne_none_iff_exists'.mp hback
    by_cases hnil : theres = [] ∨ backs = []
    · obtain ⟨message, hpanic⟩ :=
        buildRoute_of_no_path hhints hfirst hsecond hthere hback hnil
      rw [hpanic]
      refine .noPath hpass fun hpaths => ?_
      obtain ⟨_, _, rfl, -⟩ := hpaths _ _ hthere
      obtain ⟨_, _, rfl, -⟩ := hpaths _ _ hback
      obtain h | h := hnil <;> cases h
    · obtain ⟨hthere', hback'⟩ := not_or.mp hnil
      obtain ⟨there, there', rfl⟩ := List.exists_cons_of_ne_nil hthere'
      obtain ⟨back, back', rfl⟩ := List.exists_cons_of_ne_nil hback'
      exact routeBuilt_of_legs hhints
        ⟨⟨first, there', hfirst, hthere⟩, ⟨second, back', hsecond, hback⟩⟩ hpass

theorem buildRoute_isOk_iff (hpaths : ln.FindsPaths) (hne : info.fromAsset ≠ info.toAsset) :
    (∃ hops, buildRoute ln info takerPk dir = .ok hops) ↔
      PassesChecks ln info takerPk dir ∧ FindsRoute ln info takerPk dir := by
  have hbuilt := routeBuilt ln hne takerPk dir
  cases hb : buildRoute ln info takerPk dir with
  | ok hops =>
    rw [hb] at hbuilt
    cases hbuilt with
    | found hpass h => exact iff_of_true ⟨hops, rfl⟩ ⟨hpass, h⟩
  | error e =>
    rw [hb] at hbuilt
    refine iff_of_false (by simp) ?_
    cases hbuilt with
    | noHints h =>
      rintro ⟨-, _, _, _, _, hhints, -⟩
      rw [h] at hhints
      cases hhints
    | overflows h => exact fun hroute => h hroute.1
    | refused _ _ h => exact fun hroute => h hroute.2
    | noPath _ h => exact absurd hpaths h

theorem preparePayment_isOk_iff {parsed : MakerExecuteRequest.Parsed ContractId}
    (hpaths : ln.FindsPaths)
    (hne : parsed.swapstring.swapInfo.fromAsset ≠ parsed.swapstring.swapInfo.toAsset) :
    (∃ payment, preparePayment ln parsed dir = .ok payment) ↔
      (ln.getPaymentPreimage parsed.swapstring.paymentHash parsed.paymentSecret).isSome ∧
        PassesChecks ln parsed.swapstring.swapInfo parsed.takerPk dir ∧
        FindsRoute ln parsed.swapstring.swapInfo parsed.takerPk dir := by
  rw [preparePayment, ← buildRoute_isOk_iff hpaths hne]
  cases ln.getPaymentPreimage parsed.swapstring.paymentHash parsed.paymentSecret with
  | none => simp
  | some preimage =>
    simp only [except_bind_eq_ok_iff, Option.isSome_some, true_and]
    constructor
    · rintro ⟨_, hops, hhops, -⟩
      exact ⟨hops, hhops⟩
    · rintro ⟨hops, hhops⟩
      exact ⟨_, hops, hhops, rfl⟩

end Route

section Execute

variable {ContractId : Type} [DecidableEq ContractId]

/-- The panic of an update of a maker swap that is not there, with the store locked. -/
def makerSwapMissing : Exit APIError := .panic (some .makerSwaps) unwrapNone

variable {E : Exit APIError → Prop}
  (herr : ∀ e : APIError, e.isInvalidSwapString = false → E (.err e))
  {ln : Lightning ContractId} {now : Nat} {paymentHash : PaymentHash} {n : Node ContractId}
include herr

omit [DecidableEq ContractId] in
theorem stopsOnly_expireOffer_iff :
    StopsOnly E (expireOffer paymentHash now) n ↔
      (n.stores.isMakerSwap paymentHash ∨ E makerSwapMissing) := by
  rw [expireOffer, StopsOnly.bind_iff, onStores, StopsOnly.zoom_iff,
    Stores.stopsOnly_updateMakerSwapStatus_iff (by decide)]
  exact and_iff_left fun _ _ _ => StopsOnly.throw_iff.mpr (herr _ rfl)

omit [DecidableEq ContractId] in
/-- A swap that is there is still there when the payment is refused. -/
theorem stopsOnly_sendPayment (payment : SpontaneousPayment ContractId)
    (h : n.stores.isMakerSwap paymentHash) :
    StopsOnly E (sendPayment ln paymentHash now payment) n := by
  rw [sendPayment, StopsOnly.bind_of_ok_iff (modify_apply _ n)]
  cases ln.sendSpontaneousPayment payment with
  | ok => exact StopsOnly.pure _
  | error e =>
    refine StopsOnly.bind_iff.mpr ⟨?_, fun _ _ _ => StopsOnly.throw_iff.mpr (herr _ rfl)⟩
    rw [onStores, StopsOnly.zoom_iff, Stores.stopsOnly_updateMakerSwapStatus_iff (by decide)]
    exact .inl h

omit [DecidableEq ContractId] in
theorem stopsOnly_payAlong_iff {s : SwapString ContractId}
    {payment : SpontaneousPayment ContractId} :
    StopsOnly E (payAlong ln s now payment) n ↔
      (n.stores.isMakerSwap s.paymentHash ∨ E makerSwapMissing) := by
  rw [payAlong, StopsOnly.bind_of_ok_iff (modify_apply _ n), StopsOnly.bind_iff, onStores,
    StopsOnly.zoom_iff, Stores.stopsOnly_updateMakerSwapStatus_iff (by decide)]
  refine and_iff_left fun _ t ht => stopsOnly_sendPayment herr payment ?_
  obtain ⟨stores, hstores, rfl⟩ := zoom_eq_ok_iff.mp ht
  obtain ⟨swap, -, -, rfl⟩ := Stores.updateMakerSwapStatus_eq_ok_iff.mp hstores
  rw [Stores.isMakerSwap, Stores.saveMakerSwaps, Finmap.lookup_insert]
  rfl

theorem failsOnly_buildRoute_iff (hpaths : ln.FindsPaths ∨ ∀ message, E (.panic none message))
    {info : SwapInfo ContractId} (hne : info.fromAsset ≠ info.toAsset) {takerPk : PublicKey}
    {dir : LdkDataDir ContractId} :
    FailsOnly E (buildRoute ln info takerPk dir) ↔
      FailsOnly E (receiveHints info dir ln.listUsableChannels) ∧
        (PassesChecks ln info takerPk dir ∨ E addOverflows) := by
  constructor
  · intro h
    refine ⟨?_, ?_⟩
    · rw [buildRoute, FailsOnly.bind_iff] at h
      exact h.1
    · by_cases hpass : PassesChecks ln info takerPk dir
      · exact .inl hpass
      · exact .inr (h _ (buildRoute_of_not_passesChecks hne hpass))
  · rintro ⟨h, hsums⟩ e he
    have hbuilt := routeBuilt ln hne takerPk dir
    rw [he] at hbuilt
    cases hbuilt with
    | noHints hhints => exact h e hhints
    | overflows hnot => exact hsums.resolve_left hnot
    | refused herror => exact herr _ herror
    | noPath _ hnot => exact (hpaths.resolve_left hnot) _

/-- The exits of the preparation of a payment: missing hints, a sum that does not fit, or
a router without a path. -/
theorem failsOnly_preparePayment_iff (hpaths : ln.FindsPaths ∨ ∀ message, E (.panic none message))
    {parsed : MakerExecuteRequest.Parsed ContractId}
    (hne : parsed.swapstring.swapInfo.fromAsset ≠ parsed.swapstring.swapInfo.toAsset)
    {dir : LdkDataDir ContractId} :
    FailsOnly E (preparePayment ln parsed dir) ↔
      ((ln.getPaymentPreimage parsed.swapstring.paymentHash parsed.paymentSecret).isSome →
        ((∀ details ∈ ln.listUsableChannels,
            receivesOn parsed.swapstring.swapInfo dir details → HasHint details) ∨
          E (.panic none unwrapNone)) ∧
        (PassesChecks ln parsed.swapstring.swapInfo parsed.takerPk dir ∨ E addOverflows)) := by
  rw [preparePayment]
  cases ln.getPaymentPreimage parsed.swapstring.paymentHash parsed.paymentSecret with
  | none => exact iff_of_true (FailsOnly.error_iff.mpr (herr _ rfl)) (by simp)
  | some preimage =>
    refine FailsOnly.bind_iff.trans ?_
    rw [failsOnly_buildRoute_iff herr hpaths hne, failsOnly_receiveHints_iff]
    simp only [Option.isSome_some, forall_const]
    exact and_iff_left fun _ _ => FailsOnly.ok _

variable [ContractIdText ContractId] {req : MakerExecuteRequest}

omit herr in
/-- The swap of a request that parses is between two assets. -/
theorem assets_ne_of_parse {parsed : MakerExecuteRequest.Parsed ContractId}
    (h : req.parse ln = .ok parsed) :
    parsed.swapstring.swapInfo.fromAsset ≠ parsed.swapstring.swapInfo.toAsset := by
  rw [MakerExecuteRequest.parse] at h
  split at h
  · cases h
  rename_i s hs
  split at h
  · cases h
  split at h
  · cases h
  obtain rfl := Except.ok.inj h
  exact (SwapString.fromStr_wellFormed hs).assets_ne

/-- A request is refused while it is parsed for its swap string only when that
does not parse. -/
theorem failsOnly_parse_iff :
    FailsOnly E (req.parse ln) ↔
      ∀ message, (SwapString.fromStr req.swapstring : Except String (SwapString ContractId)) =
          .error message → E (.err (.invalidSwapString req.swapstring message)) := by
  rw [MakerExecuteRequest.parse]
  cases hs : (SwapString.fromStr req.swapstring : Except String (SwapString ContractId)) with
  | error message => simp [FailsOnly.error_iff]
  | ok s =>
    refine iff_of_true ?_ (by simp)
    simp only
    cases (hexStrToVec req.paymentSecret.toList).bind bytes32? with
    | none => exact FailsOnly.error_iff.mpr (herr _ rfl)
    | some secret =>
      simp only
      cases ln.publicKeyFromStr req.takerPubkey with
      | none => exact FailsOnly.error_iff.mpr (herr _ rfl)
      | some takerPk => exact FailsOnly.ok _

theorem stopsOnly_makerExecute_iff :
    StopsOnly E (makerExecute ln now req) n ↔ FailsOnly E (req.parse ln) ∧
      ∀ parsed, req.parse ln = .ok parsed →
        if now > parsed.swapstring.swapInfo.expiry then
          n.stores.isMakerSwap parsed.swapstring.paymentHash ∨ E makerSwapMissing
        else FailsOnly E (preparePayment ln parsed n.ldkDataDir) ∧
          ∀ payment, preparePayment ln parsed n.ldkDataDir = .ok payment →
            n.stores.isMakerSwap parsed.swapstring.paymentHash ∨ E makerSwapMissing := by
  rw [makerExecute, StopsOnly.attempt_bind_iff]
  refine and_congr_right fun _ => forall_congr' fun parsed => imp_congr_right fun _ => ?_
  split
  · exact stopsOnly_expireOffer_iff herr
  · rw [StopsOnly.bind_of_ok_iff (get_apply n), StopsOnly.attempt_bind_iff]
    refine and_congr_right fun _ => forall_congr' fun payment => imp_congr_right fun _ => ?_
    exact stopsOnly_payAlong_iff herr

end Execute

section Answers

variable {ContractId : Type} [DecidableEq ContractId] [ContractIdText ContractId]

/-- Everything that the request unwraps is there. -/
structure Serviceable (ln : Lightning ContractId) (now : Nat)
    (parsed : MakerExecuteRequest.Parsed ContractId) (n : Node ContractId) : Prop where
  /-- An offer that has expired is the node's. -/
  expired : now > parsed.swapstring.swapInfo.expiry →
    n.stores.isMakerSwap parsed.swapstring.paymentHash
  /-- When the node knows the preimage, the channels it can receive on have hints. -/
  hints : now ≤ parsed.swapstring.swapInfo.expiry →
    (ln.getPaymentPreimage parsed.swapstring.paymentHash parsed.paymentSecret).isSome →
    ∀ details ∈ ln.listUsableChannels,
      receivesOn parsed.swapstring.swapInfo n.ldkDataDir details → HasHint details
  /-- Where the build checks its arithmetic, the amounts and the fees of the route fit. -/
  amounts : now ≤ parsed.swapstring.swapInfo.expiry →
    (ln.getPaymentPreimage parsed.swapstring.paymentHash parsed.paymentSecret).isSome →
    PassesChecks ln parsed.swapstring.swapInfo parsed.takerPk n.ldkDataDir
  /-- An offer that can be paid is the node's. -/
  recorded : now ≤ parsed.swapstring.swapInfo.expiry →
    (ln.getPaymentPreimage parsed.swapstring.paymentHash parsed.paymentSecret).isSome →
    FindsRoute ln parsed.swapstring.swapInfo parsed.takerPk n.ldkDataDir →
    n.stores.isMakerSwap parsed.swapstring.paymentHash

/-- The request answers in every case if and only if, for each offer that parses,
everything that it unwraps is there. -/
theorem makerExecute_answers_iff {ln : Lightning ContractId} (hpaths : ln.FindsPaths) (now : Nat)
    (req : MakerExecuteRequest) (n : Node ContractId) :
    StopsOnly Exit.answers (makerExecute ln now req) n ↔
      ∀ parsed, req.parse ln = .ok parsed → Serviceable ln now parsed n := by
  have herr : ∀ e : APIError, e.isInvalidSwapString = false → Exit.answers (.err e) :=
    fun _ _ => trivial
  have hpanic : ∀ held message, ¬Exit.answers (.panic held message : Exit APIError) :=
    fun _ _ h => h
  have hparse : FailsOnly Exit.answers (req.parse ln) :=
    (failsOnly_parse_iff herr).mpr fun _ _ => trivial
  rw [stopsOnly_makerExecute_iff herr, and_iff_right hparse]
  refine forall_congr' fun parsed => imp_congr_right fun hparsed => ?_
  have hne := assets_ne_of_parse hparsed
  simp only [failsOnly_preparePayment_iff herr (.inl hpaths) hne, makerSwapMissing, addOverflows,
    hpanic, or_false]
  constructor
  · intro h
    refine ⟨fun hlate => ?_, fun hin hpre => ?_, fun hin hpre => ?_, fun hin hpre hroute => ?_⟩
    · rw [if_pos hlate] at h
      exact h
    · rw [if_neg (Nat.not_lt.mpr hin)] at h
      exact (h.1 hpre).1
    · rw [if_neg (Nat.not_lt.mpr hin)] at h
      exact (h.1 hpre).2
    · rw [if_neg (Nat.not_lt.mpr hin)] at h
      obtain ⟨payment, hpayment⟩ :=
        (preparePayment_isOk_iff hpaths hne).mpr ⟨hpre, (h.1 hpre).2, hroute⟩
      exact h.2 payment hpayment
  · intro h
    split
    · rename_i hlate
      exact h.expired hlate
    · rename_i hlate
      have hin := Nat.not_lt.mp hlate
      refine ⟨fun hpre => ⟨h.hints hin hpre, h.amounts hin hpre⟩, fun payment hpayment => ?_⟩
      obtain ⟨hpre, -, hroute⟩ := (preparePayment_isOk_iff hpaths hne).mp ⟨payment, hpayment⟩
      exact h.recorded hin hpre hroute

/-- The direct routes, for a build with overflow checks. -/
def checkedLightning : Lightning ℕ :=
  { MakerExecuteRequest.directLightning with overflowChecks := true }

theorem checkedLightning_findsPaths : checkedLightning.FindsPaths := by
  intro query paths h
  exact ⟨_, _, (Option.some.inj h).symm, List.cons_ne_nil _ _⟩

/-- The offer the maker has recorded is served, also when its text was changed. -/
theorem rewrittenOffer_answers :
    StopsOnly Exit.answers
      (makerExecute checkedLightning 150 MakerExecuteRequest.rewrittenOffer)
      MakerExecuteRequest.offeringMaker := by
  refine (makerExecute_answers_iff checkedLightning_findsPaths 150 _ _).mpr fun parsed hparsed => ?_
  obtain rfl := Except.ok.inj
    (MakerExecuteRequest.rewrittenOffer_prepares.parses.symm.trans hparsed)
  refine ⟨fun _ => by decide, fun _ _ => List.forall_mem_nil _, fun _ _ _ _ _ => ?_,
    fun _ _ _ => by decide⟩
  refine ⟨by decide, by decide, fun there back hlegs _ _ => ?_⟩
  rw [hlegs.fees_eq_zero fun _ => rfl]
  decide

/-- An expired offer that the maker has not recorded. -/
def strangersOffer : MakerExecuteRequest where
  swapstring := "1000/btc/5/1/200/" ++ hexStr (List.replicate 32 6)
  paymentSecret := hexStr (List.replicate 32 9)
  takerPubkey := "taker"

/-- The maker panics with its swaps locked; a build with overflow checks also panics
at an offer of nearly 2^64 msat. -/
theorem offers_panic :
    (outcome (makerExecute MakerExecuteRequest.directLightning 300 strangersOffer)
        MakerExecuteRequest.offeringMaker).1 = .error (.panic (some .makerSwaps) unwrapNone) ∧
      (outcome (makerExecute checkedLightning 150 hugeOffer)
        MakerExecuteRequest.offeringMaker).1 =
          .error (.panic none "attempt to add with overflow") := by
  constructor <;> decide +kernel

end Answers

end RgbLightningNode
