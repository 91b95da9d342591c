import RgbLightningNode.Lib.Mealy
import RgbLightningNode.Routes.Peers
import RgbLightningNode.HexText

/-!
# The peer file and the map it stands for

The abstract state is a map from node ids to addresses: persisting a peer inserts
its address, deleting one removes its id. The file refines it while it consists of
the lines of some peers that make up the map.
-/

namespace RgbLightningNode

open Fallible

variable {ContractId Addr : Type}

/-- Peers in the order of their lines. -/
abbrev Peers (Addr : Type) := List (PublicKey × Addr)

/-- The map the lines make up: a later line counts. -/
def Peers.toMap (peers : Peers Addr) : HashMap PublicKey Addr :=
  peers.foldl (fun m peer => m.insert peer.1 peer.2) ∅

/-- The peers but those with this key. -/
def Peers.without (pubkey : PublicKey) (peers : Peers Addr) : Peers Addr :=
  peers.filter fun peer => peer.1 ≠ pubkey

namespace Peers

theorem erase_insert_self (m : HashMap PublicKey Addr) (pubkey : PublicKey) (addr : Addr) :
    (m.insert pubkey addr).erase pubkey = m.erase pubkey := by
  refine Finmap.ext_lookup fun k => ?_
  by_cases hk : k = pubkey
  · rw [hk, Finmap.lookup_erase, Finmap.lookup_erase]
  · rw [Finmap.lookup_erase_ne hk, Finmap.lookup_erase_ne hk, Finmap.lookup_insert_of_ne _ hk]

theorem erase_insert_of_ne (m : HashMap PublicKey Addr) {pubkey other : PublicKey}
    (hne : other ≠ pubkey) (addr : Addr) :
    (m.insert other addr).erase pubkey = (m.erase pubkey).insert other addr := by
  refine Finmap.ext_lookup fun k => ?_
  by_cases hk : k = pubkey
  · rw [hk, Finmap.lookup_erase, Finmap.lookup_insert_of_ne _ hne.symm, Finmap.lookup_erase]
  · rw [Finmap.lookup_erase_ne hk]
    by_cases hk' : k = other
    · rw [hk', Finmap.lookup_insert, Finmap.lookup_insert]
    · rw [Finmap.lookup_insert_of_ne _ hk', Finmap.lookup_insert_of_ne _ hk',
        Finmap.lookup_erase_ne hk]

/-- Leaving the lines of a key out erases it. -/
theorem foldl_without (pubkey : PublicKey) (peers : Peers Addr) (m : HashMap PublicKey Addr) :
    (peers.without pubkey).foldl (fun m peer => m.insert peer.1 peer.2) (m.erase pubkey) =
      (peers.foldl (fun m peer => m.insert peer.1 peer.2) m).erase pubkey := by
  induction peers generalizing m with
  | nil => rfl
  | cons peer peers ih =>
    rw [List.foldl_cons, ← ih, without, List.filter_cons]
    by_cases hp : peer.1 = pubkey
    · rw [if_neg (by simpa using hp), ← hp, erase_insert_self, without]
    · rw [if_pos (by simpa using hp), List.foldl_cons, erase_insert_of_ne m hp, without]

theorem erase_empty (pubkey : PublicKey) :
    (∅ : HashMap PublicKey Addr).erase pubkey = ∅ := by
  refine Finmap.ext_lookup fun k => ?_
  by_cases hk : k = pubkey
  · rw [hk, Finmap.lookup_erase, Finmap.lookup_empty]
  · rw [Finmap.lookup_erase_ne hk]

theorem toMap_without (pubkey : PublicKey) (peers : Peers Addr) :
    (peers.without pubkey).toMap = peers.toMap.erase pubkey := by
  have h := foldl_without pubkey peers ∅
  rwa [erase_empty] at h

/-- A peer that is put at the end, in the place of its old lines, is inserted. -/
theorem toMap_persist (pubkey : PublicKey) (addr : Addr) (peers : Peers Addr) :
    Peers.toMap (peers.without pubkey ++ [(pubkey, addr)]) = peers.toMap.insert pubkey addr := by
  have h : Peers.toMap (peers.without pubkey ++ [(pubkey, addr)]) =
      (peers.without pubkey).toMap.insert pubkey addr := by
    rw [toMap, List.foldl_append]
    rfl
  rw [h, toMap_without]
  refine Finmap.ext_lookup fun k => ?_
  by_cases hk : k = pubkey
  · rw [hk, Finmap.lookup_insert, Finmap.lookup_insert]
  · rw [Finmap.lookup_insert_of_ne _ hk, Finmap.lookup_insert_of_ne _ hk, Finmap.lookup_erase_ne hk]

end Peers

namespace PeerLibrary

variable (lib : PeerLibrary ContractId Addr)

/-- The lines of some peers. -/
def fileText (peers : Peers Addr) : List Char :=
  Text.joinWith '\n' (peers.map fun peer => lib.line peer.1 peer.2)

/-- The file consists of the lines of these peers. -/
def HoldsPeers (peers : Peers Addr) (file : PeerFile) : Prop :=
  (∀ peer ∈ peers, lib.Known peer.1) ∧
    (file = none ∧ peers = [] ∨ file = some (lib.fileText peers))

/-- The file refines the map. -/
def Refines (file : PeerFile) (m : HashMap PublicKey Addr) : Prop :=
  ∃ peers, lib.HoldsPeers peers file ∧ peers.toMap = m

/-- The file behind a request that may have persisted a peer. -/
def filePersisted (peer : Option (PublicKey × Addr)) (file : PeerFile) : PeerFile :=
  peer.elim file fun peer => some (lib.peerInfo peer.1 peer.2 file)

variable {lib} {peers : Peers Addr} {file : PeerFile}

theorem lines_fileText : Text.lines (lib.fileText peers) =
    peers.map fun peer => lib.line peer.1 peer.2 := by
  refine Text.lines_joinWith fun line hline => ?_
  obtain ⟨peer, -, rfl⟩ := List.mem_map.mp hline
  exact line_isLine

theorem fileText_eq_nil_iff : lib.fileText peers = [] ↔ peers = [] := by
  rw [fileText, Text.joinWith_eq_nil_iff, List.map_eq_nil_iff]
  intro line hline
  obtain ⟨peer, -, rfl⟩ := List.mem_map.mp hline
  exact line_isLine.1

/-- Editing the lines of peers drops those with the very text for their key. -/
theorem otherPeers_fileText {text : String} {key : PublicKey}
    (htext : lib.publicKeyFromStr text = some key) :
    otherPeers text (lib.fileText peers) =
      lib.fileText (peers.filter fun peer => text ≠ peer.1.hex) := by
  have hfilter : peers.filter ((fun line => !text.toList.isPrefixOf
      (Text.trim isWhiteSpace line)) ∘ fun peer => lib.line peer.1 peer.2) =
      peers.filter fun peer => text ≠ peer.1.hex := by
    refine List.filter_congr fun peer _ => ?_
    rw [Function.comp_apply, trim_line, Bool.eq_iff_iff, Bool.not_eq_true', ← Bool.not_eq_true,
      isPrefixOf_line_iff htext, decide_eq_true_iff]
  have htrim : Text.trim isWhiteSpace ∘ (fun peer => lib.line peer.1 peer.2) =
      fun peer : PublicKey × Addr => lib.line peer.1 peer.2 := by
    funext peer
    exact trim_line
  rw [otherPeers, lines_fileText, List.filter_map, List.map_map, hfilter, htrim, fileText]

theorem filter_hex (pubkey : PublicKey) :
    (peers.filter fun peer => pubkey.hex ≠ peer.1.hex) = peers.without pubkey := by
  refine List.filter_congr fun peer _ => ?_
  rw [decide_eq_decide, ne_eq, ne_eq, PublicKey.hex_inj, eq_comm]

/-- Another spelling of a key starts no line. -/
theorem filter_spelling (h : ∀ peer ∈ peers, lib.Known peer.1) {text : String} {key : PublicKey}
    (htext : lib.publicKeyFromStr text = some key) (hne : text ≠ key.hex) :
    (peers.filter fun peer => text ≠ peer.1.hex) = peers := by
  refine List.filter_eq_self.mpr fun peer hpeer => decide_eq_true fun heq => hne ?_
  have hread := lib.publicKeyFromStr_hex peer.1 (h peer hpeer)
  rw [← heq, htext] at hread
  rw [heq, Option.some.inj hread]

namespace HoldsPeers

/-- Persisting a peer puts its line at the end, in the place of its old ones. -/
theorem persist (h : lib.HoldsPeers peers file) {pubkey : PublicKey} (hkey : lib.Known pubkey)
    (addr : Addr) : lib.HoldsPeers (peers.without pubkey ++ [(pubkey, addr)])
      (some (lib.peerInfo pubkey addr file)) := by
  obtain ⟨hknown, hfile⟩ := h
  constructor
  · intro peer hpeer
    obtain hpeer | hpeer := List.mem_append.mp hpeer
    · exact hknown peer (List.mem_filter.mp hpeer).1
    · rw [List.mem_singleton.mp hpeer]
      exact hkey
  · refine .inr (congrArg some ?_)
    obtain ⟨rfl, rfl⟩ | rfl := hfile
    · rfl
    · rw [peerInfo, otherPeers_fileText (lib.publicKeyFromStr_hex pubkey hkey), filter_hex]
      by_cases hnil : peers.without pubkey = []
      · rw [hnil]
        rfl
      · have hmap : (peers.without pubkey).map (fun peer => lib.line peer.1 peer.2) ≠ [] :=
          fun hmap => hnil (List.map_eq_nil_iff.mp hmap)
        simp only [if_neg (mt fileText_eq_nil_iff.mp hnil), List.append_assoc]
        rw [fileText, fileText, List.map_append]
        exact (Text.joinWith_concat '\n' hmap _).symm

/-- Deleting a peer by the text of its key drops its lines. -/
theorem delete (h : lib.HoldsPeers peers file) {pubkey : PublicKey}
    (htext : lib.publicKeyFromStr pubkey.hex = some pubkey) :
    lib.HoldsPeers (peers.without pubkey) (file.map (otherPeers pubkey.hex)) := by
  obtain ⟨hknown, ⟨rfl, rfl⟩ | rfl⟩ := h
  · exact ⟨hknown, .inl ⟨rfl, rfl⟩⟩
  · refine ⟨fun peer hpeer => hknown peer (List.mem_filter.mp hpeer).1, .inr ?_⟩
    rw [Option.map_some, otherPeers_fileText htext, filter_hex]

/-- Deleting one by another spelling leaves everything as it is. -/
theorem delete_spelling (h : lib.HoldsPeers peers file) {text : String} {key : PublicKey}
    (htext : lib.publicKeyFromStr text = some key) (hne : text ≠ key.hex) :
    file.map (otherPeers text) = file := by
  obtain ⟨hknown, ⟨rfl, rfl⟩ | rfl⟩ := h
  · rfl
  · rw [Option.map_some, otherPeers_fileText htext, filter_spelling hknown htext hne]

variable {env : PeerEnv lib}

theorem readPeerLines (h : ∀ peer ∈ peers, lib.Known peer.1) (m : HashMap PublicKey Addr) :
    env.readPeerLines m (peers.map fun peer => lib.line peer.1 peer.2) =
      .ok (peers.foldl (fun m peer => m.insert peer.1 peer.2) m) := by
  induction peers generalizing m with
  | nil => rfl
  | cons peer peers ih =>
    rw [List.map_cons, PeerEnv.readPeerLines,
      PeerEnv.parsePeerInfo_line (h peer List.mem_cons_self)]
    exact ih (fun peer' hpeer => h peer' (List.mem_cons_of_mem peer hpeer)) _

/-- Reading the file gives the map. -/
theorem read (h : lib.HoldsPeers peers file) (hio : env.io = .ok ()) :
    env.readChannelPeerData file = .ok peers.toMap file := by
  obtain ⟨hknown, ⟨rfl, rfl⟩ | rfl⟩ := h
  · rfl
  · rw [PeerEnv.readChannelPeerData, bind_of_ok (get_apply _)]
    simp only [PeerEnv.fileIo, hio]
    rw [lines_fileText, readPeerLines hknown]
    rfl

end HoldsPeers

end PeerLibrary

namespace PeerEnv

variable {lib : PeerLibrary ContractId Addr} (env : PeerEnv lib)

/-- The peer a request persists, if any: the address is taken from `orElse` when the
request has none. -/
def persisted (text : String) (orElse : PublicKey → Option Addr) : Option (PublicKey × Addr) := do
  let _ ← env.admitted.toOption
  let (pubkey, addr) ← (env.parsePeerInfo text).toOption
  let addr ← addr.or (orElse pubkey)
  let _ ← (env.connectPeerIfNecessary pubkey).toOption
  let _ ← env.io.toOption
  return (pubkey, addr)

/-- The key whose peer a request deletes, if any. -/
def deleted (text : String) : Option PublicKey := do
  let _ ← env.admitted.toOption
  let pubkey ← lib.publicKeyFromStr text
  let _ ← env.io.toOption
  if env.channels.any (·.counterparty = pubkey) then none else some pubkey

/-- The end that connecting a peer and opening a channel share. -/
theorem after_connectAndPersist (pubkey : PublicKey) (addr : Addr) (file : PeerFile) :
    after (attempt ((env.connectPeerIfNecessary pubkey).mapError .err) >>= fun _ =>
      env.persistChannelPeer pubkey addr) file =
    lib.filePersisted (do
      let _ ← (env.connectPeerIfNecessary pubkey).toOption
      let _ ← env.io.toOption
      return (pubkey, addr)) file := by
  cases env.connectPeerIfNecessary pubkey with
  | error e => rfl
  | ok u =>
    rw [Except.mapError, after_bind_of_ok (attempt_ok u file), persistChannelPeer,
      after_bind_of_ok (get_apply file), fileIo]
    cases env.io <;> rfl

variable {env}

theorem after_connectPeer (text : String) (file : PeerFile) :
    after (env.connectPeer text) file =
      lib.filePersisted (env.persisted text fun _ => none) file := by
  rw [connectPeer, persisted]
  cases env.admitted with
  | error e => rfl
  | ok u =>
    cases env.parsePeerInfo text with
    | error e => rfl
    | ok peer =>
      obtain ⟨pubkey, addr⟩ := peer
      cases addr with
      | none => rfl
      | some addr => exact after_connectAndPersist env pubkey addr file

theorem readChannelPeerData_of_error {e : String} (hio : env.io = .error e) (file : PeerFile) :
    env.readChannelPeerData file = .ok ∅ file ∧ file = none ∨
      env.readChannelPeerData file = .error (.err (.io e)) file := by
  cases file with
  | none => exact .inl ⟨rfl, rfl⟩
  | some text =>
    rw [readChannelPeerData, bind_of_ok (get_apply _), fileIo, hio]
    exact .inr rfl

/-- No peer is persisted when the files cannot be used. -/
theorem connected_of_error {e : String} (hio : env.io = .error e) (pubkey : PublicKey)
    (addr : Option Addr) :
    (addr.bind fun addr => (env.connectPeerIfNecessary pubkey).toOption.bind fun _ =>
      env.io.toOption.bind fun _ => some (pubkey, addr)) = none := by
  rw [hio]
  cases addr with
  | none => rfl
  | some addr => cases env.connectPeerIfNecessary pubkey <;> rfl

/-- The address is looked up in the file, when neither the request nor the connection
has one. -/
theorem after_findPeerAddr {peers : Peers Addr} {file : PeerFile}
    (h : lib.HoldsPeers peers file) (pubkey : PublicKey)
    {k : Option Addr → Fallible (Exit APIError) PeerFile Unit} (hnone : after (k none) file = file)
    (hsome : ∀ addr, k (some addr) =
      (attempt ((env.connectPeerIfNecessary pubkey).mapError .err) >>= fun _ =>
        env.persistChannelPeer pubkey addr)) :
    after (env.findPeerAddr pubkey none >>= k) file =
      lib.filePersisted ((peers.toMap.lookup pubkey).bind fun addr =>
        (env.connectPeerIfNecessary pubkey).toOption.bind fun _ =>
          env.io.toOption.bind fun _ => some (pubkey, addr)) file := by
  cases hio : env.io with
  | error e =>
    rw [← hio, connected_of_error hio]
    obtain ⟨hread, rfl⟩ | hread := readChannelPeerData_of_error hio file
    · rw [findPeerAddr, bind_assoc, after_bind_of_ok hread]
      exact hnone
    · rw [findPeerAddr, bind_assoc, after_bind_of_error hread]
      rfl
  | ok u =>
    rw [← hio, findPeerAddr, bind_assoc, after_bind_of_ok (h.read hio), pure_bind]
    cases peers.toMap.lookup pubkey with
    | none => exact hnone
    | some addr =>
      rw [hsome]
      exact after_connectAndPersist env pubkey addr file

/-- Opening a channel with a file of some peers takes the address from the request, from
the connection, or from these peers. -/
theorem after_openChannelPeer {peers : Peers Addr} {file : PeerFile}
    (h : lib.HoldsPeers peers file) (text : String) :
    after (env.openChannelPeer text) file = lib.filePersisted (env.persisted text fun pubkey =>
      (env.connectedAddr pubkey).or (peers.toMap.lookup pubkey)) file := by
  rw [openChannelPeer, persisted]
  cases env.admitted with
  | error e => rfl
  | ok u =>
    cases env.parsePeerInfo text with
    | error e => rfl
    | ok peer =>
      obtain ⟨pubkey, addr⟩ := peer
      -- the checks are passed and the request is parsed
      change after (env.findPeerAddr pubkey (addr.or (env.connectedAddr pubkey)) >>= _) file =
        lib.filePersisted ((addr.or ((env.connectedAddr pubkey).or _)).bind _) file
      rw [← Option.or_assoc]
      cases addr.or (env.connectedAddr pubkey) with
      | some addr => exact after_connectAndPersist env pubkey addr file
      | none => exact after_findPeerAddr h pubkey rfl fun addr => rfl

theorem after_disconnectPeer (text : String) (file : PeerFile) :
    after (env.disconnectPeer text) file =
      (env.deleted text).elim file fun _ => file.map (otherPeers text) := by
  rw [disconnectPeer, deleted]
  cases env.admitted with
  | error e => rfl
  | ok u =>
    cases lib.publicKeyFromStr text with
    | none => rfl
    | some pubkey =>
      change after (ensure (!env.channels.any (·.counterparty = pubkey)) _ >>= fun _ =>
          env.deleteChannelPeer text >>= fun _ => ensure (env.peers.any (·.1 = pubkey)) _) file =
        (env.io.toOption.bind fun _ =>
          if env.channels.any (·.counterparty = pubkey) = true then none else some pubkey).elim _ _
      cases env.channels.any (·.counterparty = pubkey) with
      | true => cases env.io <;> rfl
      | false =>
        -- whether the peer is connected is looked up after the file has been written
        cases env.peers.any (·.1 = pubkey) <;> cases file <;> rw [deleteChannelPeer, fileIo] <;>
          cases env.io <;> rfl

theorem known_of_persisted {text : String} {orElse : PublicKey → Option Addr}
    {peer : PublicKey × Addr} (h : env.persisted text orElse = some peer) : lib.Known peer.1 := by
  obtain ⟨_, -, h⟩ := Option.bind_eq_some_iff.mp h
  obtain ⟨⟨pubkey, _⟩, hparse, h⟩ := Option.bind_eq_some_iff.mp h
  obtain ⟨addr, -, h⟩ := Option.bind_eq_some_iff.mp h
  obtain ⟨_, -, h⟩ := Option.bind_eq_some_iff.mp h
  obtain ⟨_, -, h⟩ := Option.bind_eq_some_iff.mp h
  cases h
  exact known_of_parsePeerInfo (except_toOption_eq_some_iff.mp hparse)

theorem deleted_eq_some {text : String} {pubkey : PublicKey}
    (h : env.deleted text = some pubkey) :
    lib.publicKeyFromStr text = some pubkey ∧ env.io = .ok () := by
  obtain ⟨_, -, h⟩ := Option.bind_eq_some_iff.mp h
  obtain ⟨pubkey', htext, h⟩ := Option.bind_eq_some_iff.mp h
  obtain ⟨_, hio, h⟩ := Option.bind_eq_some_iff.mp h
  split at h
  · cases h
  · cases h
    exact ⟨htext, except_toOption_eq_some_iff.mp hio⟩

end PeerEnv

/-! ### Requests -/

/-- The requests that change the file. -/
inductive PeerRequest (lib : PeerLibrary ContractId Addr) where
  | connectPeer (env : PeerEnv lib) (peerPubkeyAndAddr : String)
  | openChannel (env : PeerEnv lib) (peerPubkeyAndOptAddr : String)
  | disconnectPeer (env : PeerEnv lib) (peerPubkey : String)

namespace PeerRequest

variable {lib : PeerLibrary ContractId Addr}

def run : PeerRequest lib → Fallible (Exit APIError) PeerFile Unit
  | connectPeer env text => env.connectPeer text
  | openChannel env text => env.openChannelPeer text
  | disconnectPeer env text => env.disconnectPeer text

/-- What a request means for the map: the peer it persists is inserted, the one it
deletes is removed. -/
def apply (m : HashMap PublicKey Addr) : PeerRequest lib → HashMap PublicKey Addr
  | connectPeer env text =>
    (env.persisted text fun _ => none).elim m fun peer => m.insert peer.1 peer.2
  | openChannel env text =>
    (env.persisted text fun pubkey => (env.connectedAddr pubkey).or (m.lookup pubkey)).elim m
      fun peer => m.insert peer.1 peer.2
  | disconnectPeer env text => (env.deleted text).elim m m.erase

end PeerRequest

/-- The file, and the map it stands for. -/
structure PeerState (Addr : Type) where
  file : PeerFile
  peers : HashMap PublicKey Addr

namespace PeerState

variable {lib : PeerLibrary ContractId Addr}

/-- No file yet. -/
def start : PeerState Addr := ⟨none, ∅⟩

def step (s : PeerState Addr) (req : PeerRequest lib) : Unit × PeerState Addr :=
  ((), ⟨after req.run s.file, req.apply s.peers⟩)

/-- Behind the request the file is read as the map, whenever it can be read. -/
def ReadsBack (s : PeerState Addr) (req : PeerRequest lib) : Prop :=
  ∀ env : PeerEnv lib, env.io = .ok () →
    env.readChannelPeerData (s.step req).2.file = .ok (s.step req).2.peers (s.step req).2.file

/-- A request that deletes a peer of the map gives its key as the file has it: 66
lower-case digits. -/
def SpelledAsWritten (s : PeerState Addr) : PeerRequest lib → Prop
  | .disconnectPeer env text => ∀ pubkey, env.deleted text = some pubkey →
      pubkey ∈ s.peers → text = pubkey.hex
  | _ => True

variable {s : PeerState Addr}

theorem refines_filePersisted {file : PeerFile} {m : HashMap PublicKey Addr}
    (h : lib.Refines file m) {peer : Option (PublicKey × Addr)}
    (hknown : ∀ p, peer = some p → lib.Known p.1) :
    lib.Refines (lib.filePersisted peer file) (peer.elim m fun p => m.insert p.1 p.2) := by
  obtain ⟨peers, hfile, rfl⟩ := h
  cases peer with
  | none => exact ⟨peers, hfile, rfl⟩
  | some p => exact ⟨_, hfile.persist (hknown p rfl) p.2, Peers.toMap_persist p.1 p.2 peers⟩

/-- A request keeps the refinement when it spells the key as the file does. -/
theorem refines_step (h : lib.Refines s.file s.peers) {req : PeerRequest lib}
    (hspelled : s.SpelledAsWritten req) :
    lib.Refines (s.step req).2.file (s.step req).2.peers := by
  cases req with
  | connectPeer env text =>
    simp only [step, PeerRequest.run, env.after_connectPeer]
    exact refines_filePersisted h fun _ => env.known_of_persisted
  | openChannel env text =>
    obtain ⟨peers, hfile, hpeers⟩ := h
    simp only [step, PeerRequest.run, PeerEnv.after_openChannelPeer hfile, hpeers]
    exact refines_filePersisted ⟨peers, hfile, hpeers⟩ fun _ => env.known_of_persisted
  | disconnectPeer env text =>
    obtain ⟨peers, hfile, hpeers⟩ := h
    simp only [step, PeerRequest.run, env.after_disconnectPeer, PeerRequest.apply, ← hpeers]
    cases hdeleted : env.deleted text with
    | none => exact ⟨peers, hfile, rfl⟩
    | some pubkey =>
      obtain ⟨htext, -⟩ := PeerEnv.deleted_eq_some hdeleted
      by_cases hhex : text = pubkey.hex
      · subst hhex
        exact ⟨_, hfile.delete htext, Peers.toMap_without pubkey peers⟩
      · -- the key is spelled otherwise, so it is in neither of the two
        have hmem : pubkey ∉ peers.toMap := fun hmem =>
          hhex (hspelled pubkey hdeleted (hpeers ▸ hmem))
        refine ⟨peers, (hfile.delete_spelling htext hhex).symm ▸ hfile, ?_⟩
        refine Finmap.ext_lookup fun k => ?_
        by_cases hk : k = pubkey
        · rw [hk, Option.elim_some, Finmap.lookup_erase, Finmap.lookup_eq_none.mpr hmem]
        · rw [Option.elim_some, Finmap.lookup_erase_ne hk]

theorem readsBack_iff (h : lib.Refines s.file s.peers) (req : PeerRequest lib) :
    s.ReadsBack req ↔ s.SpelledAsWritten req := by
  constructor
  · intro hread
    cases req with
    | connectPeer env text => trivial
    | openChannel env text => trivial
    | disconnectPeer env text =>
      intro pubkey hdeleted hmem
      obtain ⟨htext, hio⟩ := PeerEnv.deleted_eq_some hdeleted
      by_contra hhex
      -- nothing is deleted, so the peer is still read
      obtain ⟨peers, hfile, hpeers⟩ := h
      have hsame : after (env.disconnectPeer text) s.file = s.file := by
        rw [env.after_disconnectPeer, hdeleted, Option.elim_some,
          hfile.delete_spelling htext hhex]
      have hback := hread env hio
      simp only [step, PeerRequest.run, hsame, PeerRequest.apply, hdeleted, Option.elim_some,
        hfile.read hio, hpeers] at hback
      have herased : s.peers = s.peers.erase pubkey := (EStateM.Result.ok.inj hback).1
      rw [herased] at hmem
      exact Finmap.notMem_erase_self hmem
  · intro hspelled env hio
    obtain ⟨peers, hfile, hpeers⟩ := refines_step h hspelled
    rw [hfile.read hio, hpeers]

theorem refines_start : lib.Refines (none : PeerFile) ∅ :=
  ⟨[], ⟨List.forall_mem_nil _, .inl ⟨rfl, rfl⟩⟩, rfl⟩

/-- From a node without a peer file: behind every request of a sequence the file is
read as the map exactly when no request deletes a peer by another spelling of its
key. -/
theorem readsBack_along_iff (lib : PeerLibrary ContractId Addr) (reqs : List (PeerRequest lib)) :
    Mealy.Along step ReadsBack start reqs ↔ Mealy.Along step SpelledAsWritten start reqs :=
  Mealy.along_iff_of_invariant (I := fun s => lib.Refines s.file s.peers)
    (fun _ req h => readsBack_iff h req) (fun _ _ h hspelled => refines_step h hspelled)
    refines_start

/-! ### A key in upper case -/

theorem toArray_size {bytes : List UInt8} (h : bytes.length = 33) : bytes.toArray.size = 33 := by
  rwa [List.size_toArray]

def bytes33? (bytes : List UInt8) : Option PublicKey :=
  if h : bytes.length = 33 then some ⟨⟨bytes.toArray, toArray_size h⟩⟩ else none

theorem bytes33?_toList (pubkey : PublicKey) : bytes33? pubkey.bytes.toList = some pubkey := by
  rw [bytes33?, dif_pos (Vector.length_toList ..)]
  rfl

/-- A key of 66 digits. -/
def keyOfDigits (text : String) : Option PublicKey :=
  if text.toList.length = 66 then (hexStrToVec text.toList).bind bytes33? else none

theorem keyOfDigits_hex (pubkey : PublicKey) : keyOfDigits pubkey.hex = some pubkey := by
  rw [keyOfDigits, if_pos pubkey.length_hex, pubkey.hex_toList, hexStrToVec_flatMap_hexByte]
  exact bytes33?_toList pubkey

theorem isHex_of_keyOfDigits (text : String) (pubkey : PublicKey)
    (h : keyOfDigits text = some pubkey) :
    66 ≤ text.toList.length ∧ ∀ c ∈ text.toList, hexDigit c ≠ none := by
  obtain ⟨hlength, h⟩ := Option.ite_none_right_eq_some.mp h
  obtain ⟨bytes, hbytes, -⟩ := Option.bind_eq_some_iff.mp h
  refine ⟨hlength.ge, fun c hc hnone => ?_⟩
  rw [hexStrToVec_eq_none_iff.mpr ⟨c, hc, hnone⟩] at hbytes
  cases hbytes

theorem localAddr_plain : ∀ c ∈ "127.0.0.1:9735".toList, c ≠ '@' ∧ isWhiteSpace c = false := by
  have hall : ("127.0.0.1:9735".toList.all fun c => c ≠ '@' ∧ isWhiteSpace c = false) = true := by
    decide
  simpa only [List.all_eq_true, decide_eq_true_eq] using hall

/-- Every 33 bytes are a key; there is one address. -/
def oneAddress : PeerLibrary ℕ Unit where
  offerFromStr _ := none
  bolt11FromStr _ := .error "invalid"
  paymentParameters _ _ := false
  publicKeyFromSlice := bytes33?
  sha256 bytes := bytes
  publicKeyFromStr := keyOfDigits
  addrText _ := "127.0.0.1:9735"
  publicKeyFromSlice_bytes _ pubkey _ := bytes33?_toList pubkey
  publicKeyFromStr_hex pubkey _ := keyOfDigits_hex pubkey
  isHex_of_publicKeyFromStr := isHex_of_keyOfDigits
  addrText_plain _ := localAddr_plain

/-- A node that can connect to every peer. -/
def connectingEnv : PeerEnv oneAddress where
  admitted := .ok ()
  peers := []
  channels := []
  connects := .ok ()
  io := .ok ()
  toSocketAddrs _ := .ok [()]
  toSocketAddrs_addrText _ := rfl

def connectSample : PeerRequest oneAddress := .connectPeer connectingEnv
  "02abababababababababababababababababababababababababababababababab@127.0.0.1:9735"

/-- The same key with its letters in upper case. -/
def disconnectSample : PeerRequest oneAddress := .disconnectPeer connectingEnv
  "02ABABABABABABABABABABABABABABABABABABABABABABABABABABABABABABABAB"

def sampleKey : PublicKey := ⟨(Vector.replicate 33 0xab).set 0 2⟩

/-- The peer stays in the file when it is deleted in upper case. -/
theorem upperCase_stays : ¬∀ reqs : List (PeerRequest oneAddress),
    Mealy.Along step ReadsBack start reqs := by
  intro h
  obtain ⟨-, hread, -⟩ := h [connectSample, disconnectSample]
  have hconnected : oneAddress.Refines (start.step connectSample).2.file
      (start.step connectSample).2.peers := refines_step refines_start trivial
  have hspelled := (readsBack_iff hconnected _).mp hread
  have hmem : ((start.step connectSample).2.peers.lookup sampleKey).isSome = true := by
    decide +kernel
  exact absurd (hspelled sampleKey (by decide +kernel) (Finmap.lookup_isSome.mp hmem))
    (by decide +kernel)

end PeerState

end RgbLightningNode
