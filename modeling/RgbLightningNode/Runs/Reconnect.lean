import RgbLightningNode.Runs.PeerFile

/-!
# Connecting again to the peers of channels

Every second the node reads the file of channel peers and dials those peers of
its channels that are not connected. The peer of a channel that this node has
opened is in the file for as long as the channel lives: it is persisted before
the channel is created, and not deleted while there is a channel with it.
-/

namespace RgbLightningNode

open Fallible

variable {ContractId Addr : Type}

namespace PeerEnv

variable {lib : PeerLibrary ContractId Addr} (env : PeerEnv lib)

/-- One round: the peers it dials, each at its address. It ends early when the node is
told to stop, behind the first `visited` peers. -/
def reconnect (visited : Nat) : Fallible (Exit APIError) PeerFile (List (PublicKey × Addr)) := do
  let info ← env.readChannelPeerData
  let disconnectedPeers := (env.channels.map (·.counterparty)).filter fun nodeId =>
    !env.peers.any (·.1 = nodeId)
  return (disconnectedPeers.take visited).flatMap fun nodeId =>
    (info.lookup nodeId).toList.map fun peerAddr => (nodeId, peerAddr)

/-- What a request takes from the file. -/
def fileMap (file : PeerFile) : HashMap PublicKey Addr :=
  match env.readChannelPeerData file with
  | .ok peerInfo _ => peerInfo
  | .error _ _ => ∅

/-- The peer that an opened channel persists. -/
def openPersisted (text : String) (file : PeerFile) : Option (PublicKey × Addr) :=
  env.persisted text fun pubkey => (env.connectedAddr pubkey).or ((env.fileMap file).lookup pubkey)

variable {env} {peers : Peers Addr} {file file' : PeerFile} {text : String}

theorem persisted_of_error {e : String} (hio : env.io = .error e)
    (orElse : PublicKey → Option Addr) : env.persisted text orElse = none := by
  rw [persisted, hio]
  cases env.admitted with
  | error e => rfl
  | ok u =>
    cases env.parsePeerInfo text with
    | error e => rfl
    | ok peer =>
      change ((peer.2.or (orElse peer.1)).bind fun addr =>
        (env.connectPeerIfNecessary peer.1).toOption.bind fun _ => none) = none
      cases peer.2.or (orElse peer.1) with
      | none => rfl
      | some addr => cases env.connectPeerIfNecessary peer.1 <;> rfl

/-- The address is taken from the peers that the file holds. -/
theorem openPersisted_eq (h : lib.HoldsPeers peers file) :
    env.openPersisted text file = env.persisted text fun pubkey =>
      (env.connectedAddr pubkey).or (peers.toMap.lookup pubkey) := by
  cases hio : env.io with
  | error e => rw [openPersisted, persisted_of_error hio, persisted_of_error hio]
  | ok u => rw [openPersisted, fileMap, h.read hio]

/-- A request that comes behind its connection has persisted its peer. -/
theorem openPersisted_of_ok (h : lib.HoldsPeers peers file)
    (hok : env.openChannelPeer text file = .ok () file') :
    ∃ pubkey peerAddr addr, env.parsePeerInfo text = .ok (pubkey, peerAddr) ∧
      env.openPersisted text file = some (pubkey, addr) := by
  obtain ⟨u, hadmitted, hok⟩ := attempt_bind_eq_ok_iff.mp hok
  obtain ⟨⟨pubkey, peerAddr⟩, hparse, hok⟩ := attempt_bind_eq_ok_iff.mp hok
  obtain ⟨found, t, hfound, hok⟩ := bind_eq_ok_iff.mp hok
  cases found with
  | none => cases hok
  | some addr =>
  obtain ⟨u', hconnect, hok⟩ := attempt_bind_eq_ok_iff.mp hok
  rw [persistChannelPeer, bind_of_ok (get_apply t), fileIo] at hok
  obtain ⟨u'', hio, -⟩ := attempt_bind_eq_ok_iff.mp hok
  rw [except_mapError_eq_ok_iff] at hadmitted hparse hconnect hio
  -- the address is the one in the request, of the connection, or in the file
  have haddr : peerAddr.or ((env.connectedAddr pubkey).or (peers.toMap.lookup pubkey)) =
      some addr := by
    rw [← Option.or_assoc]
    cases hown : peerAddr.or (env.connectedAddr pubkey) with
    | some own =>
      rw [hown] at hfound
      exact (EStateM.Result.ok.inj hfound).1
    | none =>
      rw [hown, findPeerAddr, bind_of_ok (h.read hio)] at hfound
      exact (EStateM.Result.ok.inj hfound).1
  refine ⟨pubkey, peerAddr, addr, hparse, ?_⟩
  rw [openPersisted_eq h, persisted, hadmitted, hparse, hio]
  simp [Except.toOption, haddr, hconnect]

/-- A peer is deleted only while there is no channel with it. -/
theorem no_channel_of_deleted {pubkey : PublicKey} (h : env.deleted text = some pubkey) :
    ∀ details ∈ env.channels, details.counterparty ≠ pubkey := by
  obtain ⟨_, -, h⟩ := Option.bind_eq_some_iff.mp h
  obtain ⟨pubkey', -, h⟩ := Option.bind_eq_some_iff.mp h
  obtain ⟨_, -, h⟩ := Option.bind_eq_some_iff.mp h
  split at h
  · cases h
  · rename_i hnone
    cases h
    intro details hmem heq
    exact hnone (List.any_eq_true.mpr ⟨details, hmem, decide_eq_true heq⟩)

end PeerEnv

/-- A channel, and whether it was this node that opened it. -/
structure PeerChannel where
  details : ChannelDetails
  ours : Bool
  deriving DecidableEq

structure PeerNode (Addr : Type) where
  file : PeerFile
  channels : List PeerChannel
  /-- The address that was last persisted for each peer. -/
  given : HashMap PublicKey Addr

/-- The inputs that change the file or the channels. Each request is handled with the
channels that the node has. -/
inductive PeerInput (lib : PeerLibrary ContractId Addr) where
  | connectPeer (env : PeerEnv lib) (peerPubkeyAndAddr : String)
  /-- The rest of the request creates a channel, or is refused. -/
  | openChannel (env : PeerEnv lib) (peerPubkeyAndOptAddr : String)
      (created : Option (ChannelId × Option Nat))
  | disconnectPeer (env : PeerEnv lib) (peerPubkey : String)
  /-- A peer has opened a channel with this node. -/
  | channelAccepted (details : ChannelDetails)
  /-- Channels close, or the node starts again without them. -/
  | channelsGone (channelIds : List ChannelId)

namespace PeerNode

variable {lib : PeerLibrary ContractId Addr}

def start : PeerNode Addr := ⟨none, [], ∅⟩

/-- A request's environment, with the channels of the node. -/
def meet (s : PeerNode Addr) (env : PeerEnv lib) : PeerEnv lib :=
  { env with channels := s.channels.map (·.details) }

/-- The addresses that were given, with one more. -/
def giving (s : PeerNode Addr) (peer : Option (PublicKey × Addr)) : HashMap PublicKey Addr :=
  peer.elim s.given fun peer => s.given.insert peer.1 peer.2

def step (s : PeerNode Addr) : PeerInput lib → Unit × PeerNode Addr
  | .connectPeer env text =>
    ((), { s with
      file := after ((s.meet env).connectPeer text) s.file
      given := s.giving ((s.meet env).persisted text fun _ => none) })
  | .openChannel env text created =>
    ((), {
      file := after ((s.meet env).openChannelPeer text) s.file
      given := s.giving ((s.meet env).openPersisted text s.file)
      channels :=
        match (s.meet env).openChannelPeer text s.file, created, env.parsePeerInfo text with
        | .ok _ _, some (channelId, scid), .ok (peerPubkey, _) =>
          ⟨⟨channelId, scid, peerPubkey⟩, true⟩ :: s.channels
        | _, _, _ => s.channels })
  | .disconnectPeer env text =>
    ((), { s with file := after ((s.meet env).disconnectPeer text) s.file })
  | .channelAccepted details => ((), { s with channels := ⟨details, false⟩ :: s.channels })
  | .channelsGone channelIds =>
    ((), { s with channels := s.channels.filter fun chan => chan.details.channelId ∉ channelIds })

/-- The file holds these peers, each at the address that was given last, and
among them the peers of the channels that this node has opened. -/
structure Records (s : PeerNode Addr) (lib : PeerLibrary ContractId Addr) (peers : Peers Addr) :
    Prop where
  holds : lib.HoldsPeers peers s.file
  given : ∀ pubkey addr, peers.toMap.lookup pubkey = some addr → s.given.lookup pubkey = some addr
  ours : ∀ chan ∈ s.channels, chan.ours = true → chan.details.counterparty ∈ peers.toMap

/-- The peers behind a request that may have persisted one. -/
def persistedPeers (peers : Peers Addr) (peer : Option (PublicKey × Addr)) : Peers Addr :=
  peer.elim peers fun peer => peers.without peer.1 ++ [peer]

variable {s : PeerNode Addr} {peers : Peers Addr}

theorem toMap_persistedPeers (peers : Peers Addr) (peer : Option (PublicKey × Addr)) :
    Peers.toMap (persistedPeers peers peer) =
      peer.elim peers.toMap fun peer => peers.toMap.insert peer.1 peer.2 := by
  cases peer with
  | none => rfl
  | some peer => exact Peers.toMap_persist peer.1 peer.2 peers

/-- Persisting a peer keeps the records, and the channels may grow by one with
that peer. -/
theorem Records.persist (h : s.Records lib peers) {peer : Option (PublicKey × Addr)}
    (hknown : ∀ p, peer = some p → lib.Known p.1) {channels : List PeerChannel}
    (hchannels : ∀ chan ∈ channels, chan ∈ s.channels ∨
      ∃ addr, peer = some (chan.details.counterparty, addr)) :
    (⟨lib.filePersisted peer s.file, channels, s.giving peer⟩ : PeerNode Addr).Records lib
      (persistedPeers peers peer) := by
  have hkept : ∀ {pubkey}, pubkey ∈ peers.toMap →
      pubkey ∈ Peers.toMap (persistedPeers peers peer) := by
    intro pubkey hmem
    rw [toMap_persistedPeers]
    cases peer with
    | none => exact hmem
    | some peer => exact Finmap.mem_insert.mpr (.inr hmem)
  refine ⟨?_, fun pubkey addr hl => ?_, fun chan hchan hours => ?_⟩
  · cases peer with
    | none => exact h.holds
    | some peer => exact h.holds.persist (hknown peer rfl) peer.2
  · rw [toMap_persistedPeers] at hl
    cases peer with
    | none => exact h.given pubkey addr hl
    | some peer =>
      by_cases hkey : pubkey = peer.1
      · subst hkey
        rw [Option.elim_some, Finmap.lookup_insert] at hl
        rw [giving, Option.elim_some, Finmap.lookup_insert, hl]
      · rw [Option.elim_some, Finmap.lookup_insert_of_ne _ hkey] at hl
        rw [giving, Option.elim_some, Finmap.lookup_insert_of_ne _ hkey]
        exact h.given pubkey addr hl
  · obtain hold | ⟨addr, rfl⟩ := hchannels chan hchan
    · exact hkept (h.ours chan hold hours)
    · rw [toMap_persistedPeers]
      exact Finmap.mem_insert.mpr (.inl rfl)

/-- Deleting a peer keeps the records: the node has no channel with it. -/
theorem Records.disconnectPeer (h : s.Records lib peers) (env : PeerEnv lib) (text : String) :
    ∃ peers', ({ s with file := after ((s.meet env).disconnectPeer text) s.file } :
      PeerNode Addr).Records lib peers' := by
  rw [PeerEnv.after_disconnectPeer]
  cases hdeleted : (s.meet env).deleted text with
  | none => exact ⟨peers, h.holds, h.given, h.ours⟩
  | some pubkey =>
    obtain ⟨htext, -⟩ := PeerEnv.deleted_eq_some hdeleted
    rw [Option.elim_some]
    by_cases hhex : text = pubkey.hex
    swap
    · rw [h.holds.delete_spelling htext hhex]
      exact ⟨peers, h.holds, h.given, h.ours⟩
    subst hhex
    refine ⟨peers.without pubkey, h.holds.delete htext, fun other addr hl => ?_,
      fun chan hchan hours => ?_⟩
    · rw [Peers.toMap_without] at hl
      by_cases hkey : other = pubkey
      · rw [hkey, Finmap.lookup_erase] at hl
        cases hl
      · rw [Finmap.lookup_erase_ne hkey] at hl
        exact h.given other addr hl
    · rw [Peers.toMap_without]
      have hother := PeerEnv.no_channel_of_deleted hdeleted chan.details
        (List.mem_map_of_mem hchan)
      exact Finmap.mem_erase.mpr ⟨hother, h.ours chan hchan hours⟩

theorem Records.step (h : s.Records lib peers) (x : PeerInput lib) :
    ∃ peers', (PeerNode.step s x).2.Records lib peers' := by
  cases x with
  | connectPeer env text =>
    simp only [PeerNode.step, PeerEnv.after_connectPeer]
    exact ⟨_, h.persist (fun _ => PeerEnv.known_of_persisted) fun chan hchan => .inl hchan⟩
  | openChannel env text created =>
    have hfile : after ((s.meet env).openChannelPeer text) s.file = _ :=
      PeerEnv.after_openChannelPeer h.holds text
    rw [← PeerEnv.openPersisted_eq h.holds] at hfile
    simp only [PeerNode.step, hfile]
    refine ⟨_, h.persist (fun _ => PeerEnv.known_of_persisted) fun chan hchan => ?_⟩
    revert hchan
    split
    · rename_i hok hparse
      intro hchan
      obtain rfl | hold := List.mem_cons.mp hchan
      · obtain ⟨pubkey, peerAddr, addr, hread, hpersisted⟩ :=
          PeerEnv.openPersisted_of_ok h.holds hok
        obtain ⟨rfl, -⟩ := Prod.mk.inj (Except.ok.inj (hread.symm.trans hparse))
        exact .inr ⟨addr, hpersisted⟩
      · exact .inl hold
    · exact .inl
  | disconnectPeer env text => exact h.disconnectPeer env text
  | channelAccepted details =>
    refine ⟨peers, h.holds, h.given, fun chan hchan hours => ?_⟩
    obtain rfl | hchan := List.mem_cons.mp hchan
    · cases hours
    · exact h.ours chan hchan hours
  | channelsGone channelIds =>
    exact ⟨peers, h.holds, h.given, fun chan hchan =>
      h.ours chan (List.mem_of_mem_filter hchan)⟩

theorem records_start : (start : PeerNode Addr).Records lib [] where
  holds := ⟨List.forall_mem_nil _, .inl ⟨rfl, rfl⟩⟩
  given _ _ h := by cases h
  ours _ h := by cases h

theorem records_run (lib : PeerLibrary ContractId Addr) (xs : List (PeerInput lib)) :
    ∃ peers, (Mealy.final PeerNode.step start xs).Records lib peers :=
  Mealy.invariant_final (I := fun s : PeerNode Addr => ∃ peers, s.Records lib peers)
    (C := fun _ _ => True) (fun _ x ⟨_, h⟩ _ => h.step x) ⟨[], records_start⟩
    (Mealy.along_of_forall (fun _ _ => trivial) _)

/-! ### A round -/

/-- The peers of channels that are not connected, in the order of the channels. -/
def disconnectedPeers (s : PeerNode Addr) (env : PeerEnv lib) : List PublicKey :=
  (s.channels.map (·.details.counterparty)).filter fun nodeId => !env.peers.any (·.1 = nodeId)

theorem mem_disconnectedPeers {env : PeerEnv lib} {pubkey : PublicKey} :
    pubkey ∈ s.disconnectedPeers env ↔
      (∃ chan ∈ s.channels, chan.details.counterparty = pubkey) ∧
        ∀ peer ∈ env.peers, peer.1 ≠ pubkey := by
  simp [disconnectedPeers]

/-- A round dials the peers it goes through that are in the file. -/
theorem Records.mem_reconnect (h : s.Records lib peers) {env : PeerEnv lib} (hio : env.io = .ok ())
    (visited : Nat) :
    ∃ dials, (s.meet env).reconnect visited s.file = .ok dials s.file ∧ ∀ pubkey addr,
      (pubkey, addr) ∈ dials ↔
        pubkey ∈ (s.disconnectedPeers env).take visited ∧
          peers.toMap.lookup pubkey = some addr := by
  have hread : (s.meet env).readChannelPeerData s.file = .ok peers.toMap s.file :=
    h.holds.read hio
  have hpeers : ((s.meet env).channels.map (·.counterparty)).filter
      (fun nodeId => !env.peers.any (·.1 = nodeId)) = s.disconnectedPeers env := by
    rw [disconnectedPeers, meet, List.map_map]
    rfl
  refine ⟨_, by rw [PeerEnv.reconnect, bind_of_ok hread]; rfl, fun pubkey addr => ?_⟩
  simp only [meet] at hpeers ⊢
  rw [hpeers]
  simp only [List.mem_flatMap, List.mem_map, Option.mem_toList, Prod.mk.injEq]
  constructor
  · rintro ⟨_, hmem, _, hl, rfl, rfl⟩
    exact ⟨hmem, hl⟩
  · rintro ⟨hmem, hl⟩
    exact ⟨pubkey, hmem, addr, hl, rfl, rfl⟩

/-- At any point of any run, a round dials only peers of channels that are not
connected, each at the address that was last persisted for it; and unless it is
stopped it dials every such peer whose channel this node has opened. -/
theorem reconnect_run (lib : PeerLibrary ContractId Addr) (xs : List (PeerInput lib))
    {s : PeerNode Addr} {env : PeerEnv lib} (visited : Nat)
    (hs : Mealy.final PeerNode.step start xs = s) (hio : env.io = .ok ()) :
    ∃ dials, (s.meet env).reconnect visited s.file = .ok dials s.file ∧
      (∀ pubkey addr, (pubkey, addr) ∈ dials →
        (∃ chan ∈ s.channels, chan.details.counterparty = pubkey) ∧
          (∀ peer ∈ env.peers, peer.1 ≠ pubkey) ∧ s.given.lookup pubkey = some addr) ∧
      (s.channels.length ≤ visited → ∀ chan ∈ s.channels, chan.ours = true →
        (∀ peer ∈ env.peers, peer.1 ≠ chan.details.counterparty) →
          ∃ addr, (chan.details.counterparty, addr) ∈ dials) := by
  obtain ⟨peers, h⟩ : ∃ peers, s.Records lib peers := hs ▸ records_run lib xs
  obtain ⟨dials, hround, hdials⟩ := h.mem_reconnect hio visited
  refine ⟨dials, hround, fun pubkey addr hmem => ?_, fun hall chan hchan hours hnot => ?_⟩
  · obtain ⟨hvisited, hl⟩ := (hdials pubkey addr).mp hmem
    obtain ⟨hchan, hnot⟩ := mem_disconnectedPeers.mp (List.mem_of_mem_take hvisited)
    exact ⟨hchan, hnot, h.given pubkey addr hl⟩
  · obtain ⟨addr, hl⟩ := Finmap.mem_iff.mp (h.ours chan hchan hours)
    have hlength : (s.disconnectedPeers env).length ≤ visited :=
      (List.length_filter_le _ _).trans ((List.length_map _).trans_le hall)
    refine ⟨addr, (hdials _ addr).mpr ⟨?_, hl⟩⟩
    rw [List.take_of_length_le hlength]
    exact mem_disconnectedPeers.mpr ⟨⟨chan, hchan, rfl⟩, hnot⟩

/-- A node that has opened one channel. -/
def oneChannel : PeerNode Unit := Mealy.final PeerNode.step start
  [.openChannel PeerState.connectingEnv
    "02abababababababababababababababababababababababababababababababab@127.0.0.1:9735"
    (some (⟨Vector.replicate 32 4⟩, none))]

/-- Its peer is dialled when the connection is lost. -/
theorem oneChannel_reconnects : ∃ dials,
    (oneChannel.meet PeerState.connectingEnv).reconnect 1 oneChannel.file =
      .ok dials oneChannel.file ∧ ∃ addr, (PeerState.sampleKey, addr) ∈ dials := by
  obtain ⟨dials, hround, -, hours⟩ := reconnect_run PeerState.oneAddress _ 1
    (rfl : _ = oneChannel) (rfl : PeerState.connectingEnv.io = .ok ())
  exact ⟨dials, hround, hours (by decide +kernel)
    ⟨⟨⟨Vector.replicate 32 4⟩, none, PeerState.sampleKey⟩, true⟩ (by decide +kernel) rfl
    fun _ h => by cases h⟩

end PeerNode

end RgbLightningNode
