import RgbLightningNode.Auth.ReadOnlyToken
import RgbLightningNode.Lib.Mealy

/-!
# Temporary channel ids

One map takes temporary ids to channel ids, for the channels this node opens and
for those that peers open. An entry comes with ChannelPending and is found by its
value when the channel ends. The peer chooses the temporary id of its channels,
and a caller may choose those of this node's.
-/

namespace RgbLightningNode

open Fallible

variable {ContractId : Type}

/-- A channel with its temporary id; the channel id is there from ChannelPending
on. The code keeps none of this beside the map. -/
structure TrackedChannel where
  outbound : Bool
  temporary : ChannelId
  channelId : Option ChannelId
  ended : Bool
  deriving DecidableEq

/-- A request that has passed its checks, with the id its caller has chosen and
the channels there were at that time. -/
structure OpeningRequest where
  temporary : Option ChannelId
  seen : List TrackedChannel
  locked : Bool

/-- What the map of channel ids depends on. -/
structure ChannelIdNode (ContractId : Type) where
  stores : Stores ContractId
  rgbSendLock : Bool
  opening : Option OpeningRequest
  channels : List TrackedChannel

/-- The channel an event is about: one of those that are tracked, or one of a peer
that ends before it is pending, under the temporary id the peer has chosen. -/
inductive EventChannel where
  | tracked (n : Nat)
  | unfunded (temporary : ChannelId)

inductive ChannelIdStep where
  /-- A request passes its checks, or is answered with an error. -/
  | checkOpenChannel (req : OpenChannelRequest)
  /-- A request that has passed its checks fails before the channel is created. -/
  | refuse
  | setLock
  /-- The channel manager creates the channel and returns its temporary id, drawn
  by itself when the caller has none, or fails. -/
  | createChannel (drawn : Option ChannelId)
  /-- The channel manager refuses a funding transaction. -/
  | fundingRefused
  /-- ChannelPending of a channel of this node, whose funding may be completed. -/
  | channelPending (n : Nat) (channelId : ChannelId) (completes : Bool)
  /-- ChannelPending of a channel that a peer has opened. -/
  | inboundPending (formerTemporaryChannelId channelId : ChannelId)
  | channelClosed (channel : EventChannel) (order : List ChannelId)
  | discardFunding (channel : EventChannel) (order : List ChannelId)

namespace TrackedChannel

/-- A channel of this node that waits for its ChannelPending or is open, or one of
a peer that is open. -/
def Live (o : TrackedChannel) : Prop := o.ended = false

/-- A channel of this node between its ChannelPending and its end. -/
def OpenedAs (o : TrackedChannel) (channelId : ChannelId) : Prop :=
  o.Live ∧ o.outbound = true ∧ o.channelId = some channelId

/-- The id under which its end is reported. -/
def reportedId (o : TrackedChannel) : ChannelId := o.channelId.getD o.temporary

end TrackedChannel

/-- The id in an event about the end of a channel. -/
def EventChannel.id (channels : List TrackedChannel) : EventChannel → Option ChannelId
  | tracked n => channels[n]?.map TrackedChannel.reportedId
  | unfunded temporary => some temporary

/-- The channels behind the end of one. -/
def EventChannel.endIn (channels : List TrackedChannel) : EventChannel → List TrackedChannel
  | tracked n => channels.modify n fun o => { o with ended := true }
  | unfunded _ => channels

namespace ChannelIdNode

/-- A node that has opened no channel. -/
def new (stores : Stores ContractId) : ChannelIdNode ContractId := ⟨stores, false, none, []⟩

/-- A channel ends: its entry is looked for by the id in the event. -/
def endChannel (channel : EventChannel) (order : List ChannelId) (s : ChannelIdNode ContractId) :
    ChannelIdNode ContractId :=
  match channel.id s.channels with
  | none => s
  | some channelId => { s with
      stores := s.stores.deleteChannelId order channelId
      channels := channel.endIn s.channels }

def runCreateChannel (req : OpeningRequest) (s : ChannelIdNode ContractId) :
    Option ChannelId → ChannelIdNode ContractId
  | none => { s with rgbSendLock := false, opening := none }
  | some drawn => { s with
      opening := none
      channels := s.channels ++ [⟨true, req.temporary.getD drawn, none, false⟩] }

/-- The event may be delivered again, about the same channel. -/
def runChannelPending (n : Nat) (channelId : ChannelId) (completes : Bool)
    (s : ChannelIdNode ContractId) : ChannelIdNode ContractId :=
  match s.channels[n]? with
  | some o =>
    if o.outbound ∧ (o.channelId = none ∨ o.channelId = some channelId) then { s with
      stores := s.stores.addChannelId o.temporary channelId
      rgbSendLock := s.rgbSendLock && !completes
      channels := s.channels.set n { o with channelId := some channelId } }
    else s
  | none => s

section Steps

variable [ContractIdText ContractId]

/-- One request at a time. -/
def runCheck (req : OpenChannelRequest) (s : ChannelIdNode ContractId) :
    ChannelIdNode ContractId :=
  match s.opening, (checkOpenChannel s.rgbSendLock s.stores.channelIds req :
      Except APIError (Option ChannelId × Option (ContractId × Nat))) with
  | none, .ok (temporary, _) => { s with opening := some ⟨temporary, s.channels, false⟩ }
  | _, _ => s

def step (s : ChannelIdNode ContractId) : ChannelIdStep → Unit × ChannelIdNode ContractId
  | .checkOpenChannel req => ((), s.runCheck req)
  | .refuse => ((), { s with opening := s.opening.filter (·.locked) })
  | .setLock =>
    match s.opening with
    | some req => ((), { s with rgbSendLock := true, opening := some { req with locked := true } })
    | none => ((), s)
  | .createChannel drawn =>
    match s.opening with
    | some req => ((), if req.locked then s.runCreateChannel req drawn else s)
    | none => ((), s)
  | .fundingRefused => ((), { s with rgbSendLock := false })
  | .channelPending n channelId completes => ((), s.runChannelPending n channelId completes)
  | .inboundPending former channelId => ((), { s with
      stores := s.stores.addChannelId former channelId
      channels := s.channels ++ [⟨false, former, some channelId, false⟩] })
  | .channelClosed channel order => ((), s.endChannel channel order)
  -- the lock is cleared also when another open holds it
  | .discardFunding channel order => ((), { s.endChannel channel order with rgbSendLock := false })

end Steps

/-- The request for a temporary id is answered with the channel id, by every
unlocked node with these stores. -/
def Answers (s : ChannelIdNode ContractId) (temporary channelId : ChannelId) : Prop :=
  ∀ served : ServedNode ContractId Unit, served.isUnlocked = true →
    served.node.stores = s.stores →
    ServedNode.getChannelId temporary.hex served =
      .ok (.channelId channelId.hex : ReadReply Unit) served

/-- Every open channel of this node is found under its temporary id. -/
def Answered (s : ChannelIdNode ContractId) : Prop :=
  ∀ o ∈ s.channels, ∀ channelId, o.OpenedAs channelId → s.Answers o.temporary channelId

/-- A channel that is created under an id its caller has chosen: no channel had
this id when the request was checked. -/
def AcceptsUnused (s : ChannelIdNode ContractId) : ChannelIdStep → Prop
  | .createChannel (some _) => ∀ req, s.opening = some req → req.locked = true →
      ∀ temporary, req.temporary = some temporary → ∀ o ∈ req.seen, o.Live →
        o.temporary ≠ temporary
  | _ => True

/-- The end of a channel does not hit the entry of another: where the id in the
event is that of an open channel of this node, its entry is not the one found. -/
def KeepsEntries (s : ChannelIdNode ContractId) (channel : EventChannel) (order : List ChannelId) :
    Prop :=
  ∀ channelId, channel.id s.channels = some channelId → ∀ o ∈ channel.endIn s.channels,
    o.OpenedAs channelId →
      (order.find? fun tmp => s.stores.channelIds.lookup tmp = some channelId) ≠ some o.temporary

/-- The ids in the step are those of the channel it is about. -/
def KeepsIds (s : ChannelIdNode ContractId) : ChannelIdStep → Prop
  -- no open that waits for its ChannelPending has the chosen id, and no channel of a peer
  | .createChannel (some _) => ∀ req, s.opening = some req → req.locked = true →
      ∀ temporary, req.temporary = some temporary → ∀ o ∈ req.seen, o.Live →
        (o.outbound = true → o.channelId = none) → o.temporary ≠ temporary
  -- an entry is only overwritten by itself
  | .channelPending n channelId _ => ∀ o, s.channels[n]? = some o → o.outbound = true →
      (o.channelId = none ∨ o.channelId = some channelId) →
        ∀ p ∈ s.channels, ∀ other, p.OpenedAs other → p.temporary = o.temporary →
          other = channelId
  | .inboundPending former channelId => ∀ p ∈ s.channels, ∀ other, p.OpenedAs other →
      p.temporary = former → other = channelId
  | .channelClosed channel order => s.KeepsEntries channel order
  | .discardFunding channel order => s.KeepsEntries channel order
  | _ => True

end ChannelIdNode

/-! ### The map and the channels -/

/-- The map has the open channels of this node under their temporary ids. -/
def Found (ids : HashMap ChannelId ChannelId) (channels : List TrackedChannel) : Prop :=
  ∀ o ∈ channels, ∀ channelId, o.OpenedAs channelId → ids.lookup o.temporary = some channelId

namespace Found

variable {ids : HashMap ChannelId ChannelId} {channels : List TrackedChannel}
  {temporary channelId : ChannelId}

theorem insert_iff (h : Found ids channels) : Found (ids.insert temporary channelId) channels ↔
    ∀ p ∈ channels, ∀ other, p.OpenedAs other → p.temporary = temporary → other = channelId := by
  constructor
  · intro hafter p hp other hopened heq
    have hlookup := hafter p hp other hopened
    rw [heq, Finmap.lookup_insert] at hlookup
    exact (Option.some.inj hlookup).symm
  · intro hother p hp other hopened
    by_cases heq : p.temporary = temporary
    · rw [heq, Finmap.lookup_insert, hother p hp other hopened heq]
    · rw [Finmap.lookup_insert_of_ne _ heq]
      exact h p hp other hopened

theorem erase_iff (h : Found ids channels) : Found (ids.erase temporary) channels ↔
    ∀ p ∈ channels, ∀ other, p.OpenedAs other → p.temporary ≠ temporary := by
  constructor
  · rintro hafter p hp other hopened rfl
    have hlookup := hafter p hp other hopened
    rw [Finmap.lookup_erase] at hlookup
    cases hlookup
  · intro hother p hp other hopened
    rw [Finmap.lookup_erase_ne (hother p hp other hopened)]
    exact h p hp other hopened

/-- A channel that is not open does not count. -/
theorem append_iff {o : TrackedChannel} (ho : ∀ channelId, ¬o.OpenedAs channelId) :
    Found ids (channels ++ [o]) ↔ Found ids channels := by
  refine ⟨fun h p hp => h p (List.mem_append_left _ hp), fun h p hp => ?_⟩
  obtain hp | hp := List.mem_append.mp hp
  · exact h p hp
  · rw [List.mem_singleton.mp hp]
    exact fun channelId hopened => absurd hopened (ho channelId)

theorem mem_set_or_eq {α : Type} {l : List α} {n : Nat} {a b c : α} (hn : l[n]? = some a)
    (hc : c ∈ l) : c = a ∨ c ∈ l.set n b := by
  obtain ⟨i, hi⟩ := List.mem_iff_getElem?.mp hc
  by_cases heq : n = i
  · subst heq
    exact .inl (Option.some.inj (hi.symm.trans hn))
  · exact .inr (List.mem_iff_getElem?.mpr ⟨i, by rw [List.getElem?_set_ne heq, hi]⟩)

/-- The map behind a ChannelPending that it has an entry for. -/
theorem pending_iff (h : Found ids channels) {n : Nat} {o : TrackedChannel}
    (hn : channels[n]? = some o) (hid : o.channelId = none ∨ o.channelId = some channelId) :
    Found (ids.insert o.temporary channelId)
        (channels.set n { o with channelId := some channelId }) ↔
      ∀ p ∈ channels, ∀ other, p.OpenedAs other → p.temporary = o.temporary →
        other = channelId := by
  rw [← h.insert_iff]
  constructor
  · intro hafter p hp other hopened
    obtain rfl | hp := mem_set_or_eq (b := { o with channelId := some channelId }) hn hp
    · obtain ⟨-, -, hother⟩ := hopened
      obtain hid | hid := hid
      · cases hid.symm.trans hother
      · rw [Finmap.lookup_insert, ← hid, hother]
    · exact hafter p hp other hopened
  · intro hold p hp other hopened
    obtain hp | rfl := List.mem_or_eq_of_mem_set hp
    · exact hold p hp other hopened
    · rw [Finmap.lookup_insert]
      exact hopened.2.2

/-- The channels that are open behind the end of one were open before. -/
theorem endIn (h : Found ids channels) (channel : EventChannel) :
    Found ids (channel.endIn channels) := by
  intro p hp other hopened
  cases channel with
  | unfunded temporary => exact h p hp other hopened
  | tracked n =>
    obtain ⟨i, hi⟩ := List.mem_iff_getElem?.mp hp
    rw [EventChannel.endIn, List.getElem?_modify] at hi
    obtain ⟨q, hq, hqp⟩ := Option.map_eq_some_iff.mp hi
    split at hqp
    · subst hqp
      cases hopened.1
    · subst hqp
      exact h q (List.mem_iff_getElem?.mpr ⟨i, hq⟩) other hopened

/-- The map behind the end of a channel, whose entry is found by its value. -/
theorem delete_iff {stores : Stores ContractId} (h : Found stores.channelIds channels)
    {order : List ChannelId} : Found (stores.deleteChannelId order channelId).channelIds channels ↔
      ∀ p ∈ channels, p.OpenedAs channelId →
        (order.find? fun tmp => stores.channelIds.lookup tmp = some channelId) ≠
          some p.temporary := by
  rw [Stores.deleteChannelId]
  cases hfind : order.find? fun tmp => stores.channelIds.lookup tmp = some channelId with
  | none => exact iff_of_true h fun _ _ _ hnone => by cases hnone
  | some tmp =>
    have hlookup : stores.channelIds.lookup tmp = some channelId := by
      simpa using List.find?_some hfind
    refine h.erase_iff.trans ⟨fun hne p hp hopened heq => ?_, fun hne p hp other hopened heq => ?_⟩
    · exact hne p hp channelId hopened (Option.some.inj heq).symm
    · -- what is found has the id of the event for its value
      subst heq
      obtain rfl := Option.some.inj (hlookup.symm.trans (h p hp other hopened))
      exact hne p hp hopened rfl

end Found

/-! ### The answer to a request for an id -/

theorem ChannelId.hex_inj {c d : ChannelId} : c.hex = d.hex ↔ c = d := by
  refine ⟨fun h => ?_, congrArg _⟩
  have hbytes := Vector.toList_inj.mp (hexStr_injective h)
  cases c
  cases d
  exact congrArg ChannelId.mk hbytes

theorem checkChannelId_hex (c : ChannelId) : checkChannelId c.hex = .ok c := by
  have hbytes : (hexStrToVec c.hex.toList).bind bytes32? = some c.bytes := by
    rw [ChannelId.hex, hexStr, String.toList_ofList, hexStrToVec_flatMap_hexByte, Option.bind_some,
      bytes32?, dif_pos (Vector.length_toList ..)]
    rfl
  rw [checkChannelId, hbytes]

namespace ChannelIdNode

variable {s : ChannelIdNode ContractId}

/-- A node with some stores and nothing else. -/
def servedWith (stores : Stores ContractId) : ServedNode ContractId Unit where
  app := ⟨some (), some (), false⟩
  node := ⟨stores, ⟨∅, ∅, []⟩, [], [], []⟩
  disk _ := none
  wallet := ()
  peers := []
  channelPeerData := []
  auth := ⟨none, ∅⟩
  revokedTokensFile := none

theorem getChannelId_apply {served : ServedNode ContractId Unit}
    (h : served.isUnlocked = true) (temporary : ChannelId) :
    (ServedNode.getChannelId temporary.hex :
      Fallible (Exit APIError) (ServedNode ContractId Unit) (ReadReply Unit)) served =
      (served.node.stores.channelIds.lookup temporary).elim
        (.error (.err .unknownTemporaryChannelId) served)
        fun channelId => .ok (.channelId channelId.hex) served := by
  rw [ServedNode.getChannelId, checkChannelId_hex,
    bind_of_ok (show attempt ((Except.ok temporary).mapError Exit.err) served = .ok temporary served
      from rfl), bind_of_ok (ServedNode.checkUnlocked_eq_ok_iff.mpr ⟨h, rfl⟩),
    bind_of_ok (get_apply served)]
  cases served.node.stores.channelIds.lookup temporary <;> rfl

theorem answers_iff {temporary channelId : ChannelId} :
    s.Answers temporary channelId ↔ s.stores.channelIds.lookup temporary = some channelId := by
  constructor
  · intro h
    have hanswer := h (servedWith s.stores) rfl rfl
    rw [getChannelId_apply rfl] at hanswer
    cases hlookup : s.stores.channelIds.lookup temporary with
    | none =>
      rw [servedWith, hlookup] at hanswer
      cases hanswer
    | some found =>
      rw [servedWith, hlookup] at hanswer
      have hreply := ReadReply.channelId.inj (EStateM.Result.ok.inj hanswer).1
      rw [ChannelId.hex_inj.mp hreply]
  · intro hlookup served hunlocked hstores
    rw [getChannelId_apply hunlocked, hstores, hlookup]
    rfl

theorem answered_iff : s.Answered ↔ Found s.stores.channelIds s.channels :=
  forall₂_congr fun _ _ => forall₂_congr fun _ _ => answers_iff

/-! ### One step -/

theorem answered_endChannel_iff (h : s.Answered) {channel : EventChannel}
    {order : List ChannelId} :
    (s.endChannel channel order).Answered ↔ s.KeepsEntries channel order := by
  have hfound := answered_iff.mp h
  rw [answered_iff, endChannel, KeepsEntries]
  cases channel.id s.channels with
  | none => exact iff_of_true hfound fun _ hnone => by cases hnone
  | some channelId =>
    refine (hfound.endIn channel).delete_iff.trans ⟨fun hne d hd => ?_, fun hne => hne _ rfl⟩
    obtain rfl := Option.some.inj hd
    exact hne

theorem answered_channelPending_iff (h : s.Answered) (n : Nat) (channelId : ChannelId)
    (completes : Bool) : (s.runChannelPending n channelId completes).Answered ↔
      ∀ o, s.channels[n]? = some o → o.outbound = true →
        (o.channelId = none ∨ o.channelId = some channelId) →
          ∀ p ∈ s.channels, ∀ other, p.OpenedAs other → p.temporary = o.temporary →
            other = channelId := by
  have hfound := answered_iff.mp h
  rw [answered_iff, runChannelPending]
  cases hn : s.channels[n]? with
  | none => exact iff_of_true hfound fun _ hnone => by cases hnone
  | some o =>
    simp only
    split
    · rename_i hpending
      refine (hfound.pending_iff hn hpending.2).trans ⟨fun hall p hp _ _ => ?_, fun hall => ?_⟩
      · obtain rfl := Option.some.inj hp
        exact hall
      · exact hall o rfl hpending.1 hpending.2
    · rename_i hother
      refine iff_of_true hfound fun p hp hout hid => absurd ⟨?_, ?_⟩ hother
      · rwa [Option.some.inj hp]
      · rwa [Option.some.inj hp]

theorem answered_congr {t : ChannelIdNode ContractId} (hstores : t.stores = s.stores)
    (hchannels : t.channels = s.channels) : t.Answered ↔ s.Answered := by
  rw [answered_iff, answered_iff, hstores, hchannels]

theorem answered_createChannel_iff (req : OpeningRequest) (drawn : Option ChannelId) :
    (s.runCreateChannel req drawn).Answered ↔ s.Answered := by
  cases drawn with
  | none => exact answered_congr rfl rfl
  | some drawn =>
    rw [answered_iff, answered_iff]
    exact Found.append_iff fun channelId hopened => by cases hopened.2.2

theorem opening_endChannel (s : ChannelIdNode ContractId) (channel : EventChannel)
    (order : List ChannelId) : (s.endChannel channel order).opening = s.opening := by
  rw [endChannel]
  split <;> rfl

section Runs

variable [ContractIdText ContractId]

/-- Behind the step every id is answered, and it accepts no id that was in use. -/
def Sound (s : ChannelIdNode ContractId) (x : ChannelIdStep) : Prop :=
  (s.step x).2.Answered ∧ s.AcceptsUnused x

/-- The ids are answered, and that of the request under way is of no open channel
of this node. -/
structure Inv (s : ChannelIdNode ContractId) : Prop where
  answered : s.Answered
  unused : ∀ req, s.opening = some req → ∀ temporary, req.temporary = some temporary →
    ∀ o ∈ req.seen, ∀ channelId, o.OpenedAs channelId → o.temporary ≠ temporary

/-- An id that passes the checks has no entry. -/
theorem lookup_of_checkOpenChannel {rgbSendLock : Bool} {ids : HashMap ChannelId ChannelId}
    {req : OpenChannelRequest} {temporary : ChannelId} {colored : Option (ContractId × Nat)}
    (h : checkOpenChannel rgbSendLock ids req = .ok (some temporary, colored)) :
    ids.lookup temporary = none := by
  cases rgbSendLock with
  | true => cases h
  | false =>
    obtain ⟨tmp, htmp, h⟩ := except_bind_eq_ok_iff.mp h
    obtain ⟨_, -, h⟩ := except_bind_eq_ok_iff.mp h
    obtain ⟨_, -, h⟩ := except_bind_eq_ok_iff.mp h
    cases h
    cases hreq : req.temporaryChannelId with
    | none =>
      rw [hreq] at htmp
      cases htmp
    | some text =>
      rw [hreq] at htmp
      obtain ⟨tmp, -, htmp⟩ := except_bind_eq_ok_iff.mp htmp
      split at htmp
      · cases htmp
      · rename_i hnone
        cases htmp
        exact Option.not_isSome_iff_eq_none.mp hnone

/-- A request that is checked changes neither the map nor the channels, and is
under way with an id that has no entry. -/
theorem runCheck_spec (s : ChannelIdNode ContractId) (req : OpenChannelRequest) :
    (s.runCheck req).stores = s.stores ∧ (s.runCheck req).channels = s.channels ∧
      ((s.runCheck req).opening = s.opening ∨ ∃ temporary,
        (s.runCheck req).opening = some ⟨temporary, s.channels, false⟩ ∧
        ∀ t, temporary = some t → s.stores.channelIds.lookup t = none) := by
  rw [runCheck]
  split
  · rename_i hcheck
    refine ⟨rfl, rfl, .inr ⟨_, rfl, fun t ht => ?_⟩⟩
    subst ht
    exact lookup_of_checkOpenChannel hcheck
  · exact ⟨rfl, rfl, .inl rfl⟩

theorem sound_iff (h : s.Inv) (x : ChannelIdStep) : s.Sound x ↔ s.KeepsIds x := by
  have hanswered := h.answered
  cases x with
  | checkOpenChannel req =>
    obtain ⟨hstores, hchannels, -⟩ := runCheck_spec s req
    exact iff_of_true ⟨(answered_congr hstores hchannels).mpr hanswered, trivial⟩ trivial
  | refuse => exact iff_of_true ⟨(answered_congr rfl rfl).mpr hanswered, trivial⟩ trivial
  | setLock =>
    refine iff_of_true ⟨?_, trivial⟩ trivial
    rw [step]
    split
    · exact (answered_congr rfl rfl).mpr hanswered
    · exact hanswered
  | createChannel drawn =>
    have hafter : (s.step (.createChannel drawn)).2.Answered := by
      rw [step]
      split
      · split
        · exact (answered_createChannel_iff _ drawn).mpr hanswered
        · exact hanswered
      · exact hanswered
    refine (and_iff_right hafter).trans ?_
    cases drawn with
    | none => exact Iff.rfl
    | some drawn =>
      refine ⟨fun hall req hreq hlocked t ht o ho hlive _ => hall req hreq hlocked t ht o ho hlive,
        fun hall req hreq hlocked t ht o ho hlive => ?_⟩
      by_cases hwaits : o.outbound = true → o.channelId = none
      · exact hall req hreq hlocked t ht o ho hlive hwaits
      · -- an open channel of this node was found by the check
        obtain ⟨hout, hid⟩ := Classical.not_imp.mp hwaits
        obtain ⟨channelId, hid⟩ := Option.ne_none_iff_exists'.mp hid
        exact h.unused req hreq t ht o ho channelId ⟨hlive, hout, hid⟩
  | fundingRefused => exact iff_of_true ⟨(answered_congr rfl rfl).mpr hanswered, trivial⟩ trivial
  | channelPending n channelId completes =>
    exact (and_iff_left trivial).trans (answered_channelPending_iff hanswered n channelId completes)
  | inboundPending former channelId =>
    refine (and_iff_left trivial).trans ?_
    rw [answered_iff]
    exact (Found.append_iff fun _ hopened => by cases hopened.2.1).trans
      (answered_iff.mp hanswered).insert_iff
  | channelClosed channel order =>
    exact (and_iff_left trivial).trans (answered_endChannel_iff hanswered)
  | discardFunding channel order =>
    exact (and_iff_left trivial).trans
      ((answered_congr rfl rfl).trans (answered_endChannel_iff hanswered))

/-- The request under way behind a step was so before, or has just been checked. -/
theorem opening_step (x : ChannelIdStep) {req : OpeningRequest}
    (h : (s.step x).2.opening = some req) :
    (∃ old, s.opening = some old ∧ old.temporary = req.temporary ∧ old.seen = req.seen) ∨
      req.seen = s.channels ∧
        ∀ t, req.temporary = some t → s.stores.channelIds.lookup t = none := by
  have hsame : s.opening = some req →
      ∃ old, s.opening = some old ∧ old.temporary = req.temporary ∧ old.seen = req.seen :=
    fun hreq => ⟨req, hreq, rfl, rfl⟩
  cases x with
  | checkOpenChannel request =>
    obtain ⟨-, -, hopening | ⟨temporary, hopening, hnone⟩⟩ := runCheck_spec s request
    · exact .inl (hsame (hopening ▸ h))
    · obtain rfl := Option.some.inj (hopening.symm.trans h)
      exact .inr ⟨rfl, hnone⟩
  | refuse => exact .inl (hsame (Option.filter_eq_some_iff.mp h).1)
  | setLock =>
    rw [step] at h
    split at h
    · rename_i old hold
      cases h
      exact .inl ⟨old, hold, rfl, rfl⟩
    · exact .inl (hsame h)
  | createChannel drawn =>
    rw [step] at h
    split at h
    · split at h
      · cases drawn <;> cases h
      · exact .inl (hsame h)
    · exact .inl (hsame h)
  | fundingRefused => exact .inl (hsame h)
  | channelPending n channelId completes =>
    have hopening : (s.runChannelPending n channelId completes).opening = s.opening := by
      rw [runChannelPending]
      split
      · split <;> rfl
      · rfl
    exact .inl (hsame (hopening ▸ h))
  | inboundPending former channelId => exact .inl (hsame h)
  | channelClosed channel order =>
    exact .inl (hsame (opening_endChannel s channel order ▸ h))
  | discardFunding channel order =>
    exact .inl (hsame (opening_endChannel s channel order ▸ h))

theorem inv_step (h : s.Inv) {x : ChannelIdStep} (hx : s.KeepsIds x) : (s.step x).2.Inv := by
  refine ⟨((sound_iff h x).mpr hx).1, fun req hreq t ht o ho channelId hopened => ?_⟩
  obtain ⟨old, hold, htemporary, hseen⟩ | ⟨hseen, hnone⟩ := opening_step x hreq
  · exact h.unused old hold t (htemporary.trans ht) o (hseen ▸ ho) channelId hopened
  · -- an open channel has an entry, the id that was checked has none
    rintro rfl
    have hfound := answered_iff.mp h.answered o (hseen ▸ ho) channelId hopened
    cases hfound.symm.trans (hnone o.temporary ht)

omit [ContractIdText ContractId] in
theorem inv_new (stores : Stores ContractId) : (new stores).Inv where
  answered := List.forall_mem_nil _
  unused _ hreq := by cases hreq

/-- From a node that has opened no channel, along every order of requests and
events: the ids are answered and no id in use is accepted, exactly when no peer or
caller gives another channel the id of one of this node's. -/
theorem channelIds_sound_iff (stores : Stores ContractId) (xs : List ChannelIdStep) :
    Mealy.Along step Sound (new stores) xs ↔ Mealy.Along step KeepsIds (new stores) xs :=
  Mealy.along_iff_of_invariant (fun _ x h => sound_iff h x) (fun _ _ h hx => inv_step h hx)
    (inv_new stores)

end Runs

/-! ### A peer that copies an id -/

def chosenId : ChannelId := ⟨Vector.replicate 32 1⟩

def ownChannelId : ChannelId := ⟨Vector.replicate 32 2⟩

def peersChannelId : ChannelId := ⟨Vector.replicate 32 3⟩

/-- This node opens a channel, and it becomes pending. -/
def openOwn : List ChannelIdStep :=
  [.checkOpenChannel ⟨some chosenId.hex, none, none, 50000, 0, true⟩, .setLock,
    .createChannel (some peersChannelId), .channelPending 0 ownChannelId true]

/-- Then a peer opens one under the same temporary id. -/
theorem copiedId_answered_wrong : ¬∀ (stores : Stores ℕ) (xs : List ChannelIdStep),
    Mealy.Along step Sound (new stores) xs := by
  intro h
  have hrun := h (Stores.load ∅) (openOwn ++ [.inboundPending chosenId peersChannelId])
  obtain ⟨⟨hanswered, -⟩, -⟩ := ((Mealy.along_append Sound _ _ _).mp hrun).2
  have hown := answered_iff.mp hanswered ⟨true, chosenId, some ownChannelId, false⟩
    (by decide +kernel) ownChannelId ⟨rfl, rfl, rfl⟩
  exact absurd hown (by decide +kernel)

end ChannelIdNode

end RgbLightningNode
