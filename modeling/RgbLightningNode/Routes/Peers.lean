import RgbLightningNode.Auth.RevokedTokens
import RgbLightningNode.Node
import RgbLightningNode.Routes.SendPayment

/-!
# The peers of channels

A file has one line `pubkey@address` for each peer to connect to again. It is
edited as text: lines that start with the text of a key are dropped, a new one is
put at the end. It is read back by parsing every line.
-/

namespace RgbLightningNode

open Fallible

/-- The library behind public keys and socket addresses. A key that has been read
is read again from its 33 bytes and from its own text; a text that is accepted has
at least as many characters, all hexadecimal; the text of an address holds neither
white space nor the separator. -/
structure PeerLibrary (ContractId Addr : Type) extends PaymentLibrary ContractId where
  publicKeyFromStr : String → Option PublicKey
  addrText : Addr → String
  publicKeyFromSlice_bytes : ∀ bytes pubkey, publicKeyFromSlice bytes = some pubkey →
    publicKeyFromSlice pubkey.bytes.toList = some pubkey
  publicKeyFromStr_hex : ∀ pubkey : PublicKey,
    publicKeyFromSlice pubkey.bytes.toList = some pubkey →
      publicKeyFromStr pubkey.hex = some pubkey
  isHex_of_publicKeyFromStr : ∀ text pubkey, publicKeyFromStr text = some pubkey →
    66 ≤ text.toList.length ∧ ∀ c ∈ text.toList, hexDigit c ≠ none
  addrText_plain : ∀ addr, ∀ c ∈ (addrText addr).toList, c ≠ '@' ∧ isWhiteSpace c = false

/-- The environment of a request: the checks before its own part, the peers that are
connected, the channels, the outcome of a connection that is tried, whether files can be
read and written, and the resolution of host names, which gives an address for its own
text. -/
structure PeerEnv {ContractId Addr : Type} (lib : PeerLibrary ContractId Addr) where
  admitted : Except APIError Unit
  /-- The connected peers, with what their own address resolves to. -/
  peers : List (PublicKey × Option Addr)
  channels : List ChannelDetails
  connects : Except APIError Unit
  io : Except String Unit
  toSocketAddrs : String → Except String (List Addr)
  toSocketAddrs_addrText : ∀ addr, toSocketAddrs (lib.addrText addr) = .ok [addr]

variable {ContractId Addr : Type}

/-- The content of the file of channel peers, if there is one. -/
abbrev PeerFile := Option (List Char)

/-- The line of a peer. -/
def PeerLibrary.line (lib : PeerLibrary ContractId Addr) (pubkey : PublicKey) (addr : Addr) :
    List Char :=
  pubkey.hex.toList ++ '@' :: (lib.addrText addr).toList

/-- The lines that do not start with the text of a key, trimmed. -/
def otherPeers (pubkey : String) (text : List Char) : List Char :=
  Text.joinWith '\n' (((Text.lines text).filter fun line =>
    !pubkey.toList.isPrefixOf (Text.trim isWhiteSpace line)).map (Text.trim isWhiteSpace))

/-- The text that is written when a peer is persisted. -/
def PeerLibrary.peerInfo (lib : PeerLibrary ContractId Addr) (pubkey : PublicKey) (address : Addr) :
    PeerFile → List Char
  | none => lib.line pubkey address
  | some text =>
    let updatedPeerInfo := otherPeers pubkey.hex text
    updatedPeerInfo ++ (if updatedPeerInfo = [] then [] else ['\n']) ++ lib.line pubkey address

namespace PeerEnv

variable {lib : PeerLibrary ContractId Addr} (env : PeerEnv lib)

/-- The file operations of a request. -/
def fileIo : Fallible (Exit APIError) PeerFile Unit :=
  attempt (env.io.mapError fun e => .err (.io e))

/-- The first address a text resolves to, if there is a text. -/
def peerAddr : List (List Char) → Except APIError (Option Addr)
  | [] => .ok none
  | peerAddrStr :: _ =>
    match env.toSocketAddrs (String.ofList peerAddrStr) with
    | .ok (addr :: _) => .ok (some addr)
    | _ => .error (.invalidPeerInfo "couldn't parse pubkey@host:port into a socket address")

def parsePeerInfo (text : String) : Except APIError (PublicKey × Option Addr) :=
  match Text.splitOn '@' text.toList with
  | [] => .error (.invalidPeerInfo "unable to parse given pubkey for node")
  | pubkey :: rest => do
    let peerAddr ← env.peerAddr rest
    match hexStrToCompressedPubkey lib.toPaymentLibrary (String.ofList pubkey) with
    | some pubkey => .ok (pubkey, peerAddr)
    | none => .error (.invalidPeerInfo "unable to parse given pubkey for node")

def persistChannelPeer (pubkey : PublicKey) (address : Addr) :
    Fallible (Exit APIError) PeerFile Unit := do
  let file ← get
  env.fileIo
  set (some (lib.peerInfo pubkey address file))

def deleteChannelPeer (pubkey : String) : Fallible (Exit APIError) PeerFile Unit := do
  let file ← get
  match file with
  | none => pure ()
  | some text =>
    env.fileIo
    set (some (otherPeers pubkey text))

/-- Read the lines that are left. A line without an address is a panic. -/
def readPeerLines (peerData : HashMap PublicKey Addr) :
    List (List Char) → Except (Exit APIError) (HashMap PublicKey Addr)
  | [] => .ok peerData
  | line :: lines =>
    match env.parsePeerInfo (String.ofList line) with
    | .ok (pubkey, some socketAddr) => readPeerLines (peerData.insert pubkey socketAddr) lines
    | .ok (_, none) => .error (.panic none "saved info with address")
    | .error e => .error (.err e)

def readChannelPeerData : Fallible (Exit APIError) PeerFile (HashMap PublicKey Addr) := do
  let file ← get
  match file with
  | none => pure ∅
  | some text =>
    env.fileIo
    attempt (env.readPeerLines ∅ (Text.lines text))

def connectPeerIfNecessary (pubkey : PublicKey) : Except APIError Unit :=
  if env.peers.any (·.1 = pubkey) then .ok () else env.connects

def connectPeer (peerPubkeyAndAddr : String) : Fallible (Exit APIError) PeerFile Unit := do
  attempt (env.admitted.mapError .err)
  let (peerPubkey, peerAddr) ← attempt ((env.parsePeerInfo peerPubkeyAndAddr).mapError .err)
  match peerAddr with
  | some peerAddr =>
    attempt ((env.connectPeerIfNecessary peerPubkey).mapError .err)
    env.persistChannelPeer peerPubkey peerAddr
  | none => throw (.err (.invalidPeerInfo
      "incorrectly formatted peer info. Should be formatted as: `pubkey@host:port`"))

/-- The address a peer is connected at, the first one with that key. -/
def connectedAddr (pubkey : PublicKey) : Option Addr :=
  (env.peers.lookup pubkey).join

/-- The address, or the one that the file has for the peer. -/
def findPeerAddr (peerPubkey : PublicKey) :
    Option Addr → Fallible (Exit APIError) PeerFile (Option Addr)
  | some addr => pure (some addr)
  | none => do
    let peerInfo ← env.readChannelPeerData
    return peerInfo.lookup peerPubkey

/-- The part of opening a channel that determines the peer. Without an address in the
request it is the one of the connection, else the one in the file. -/
def openChannelPeer (peerPubkeyAndOptAddr : String) : Fallible (Exit APIError) PeerFile Unit := do
  attempt (env.admitted.mapError .err)
  let (peerPubkey, addr) ← attempt ((env.parsePeerInfo peerPubkeyAndOptAddr).mapError .err)
  let peerAddr ← env.findPeerAddr peerPubkey (addr.or (env.connectedAddr peerPubkey))
  match peerAddr with
  | some peerAddr =>
    attempt ((env.connectPeerIfNecessary peerPubkey).mapError .err)
    env.persistChannelPeer peerPubkey peerAddr
  | none => throw (.err (.invalidPeerInfo "cannot find the address for the provided pubkey"))

def disconnectPeer (peerPubkey : String) : Fallible (Exit APIError) PeerFile Unit := do
  attempt (env.admitted.mapError .err)
  let pubkey ← expect (lib.publicKeyFromStr peerPubkey) (.err .invalidPubkey)
  ensure (!env.channels.any (·.counterparty = pubkey)) (.err (.failedPeerDisconnection
    "node has an active channel with this peer, close any channels first"))
  env.deleteChannelPeer peerPubkey
  ensure (env.peers.any (·.1 = pubkey))
    (.err (.failedPeerDisconnection s!"Could not find peer {pubkey.hex}"))

end PeerEnv

/-! ### The text of a key -/

theorem PublicKey.hex_toList (pubkey : PublicKey) :
    pubkey.hex.toList = pubkey.bytes.toList.flatMap hexByte :=
  hexStr_toList _

theorem PublicKey.length_hex (pubkey : PublicKey) : pubkey.hex.toList.length = 66 := by
  rw [pubkey.hex_toList, length_flatMap_hexByte, Vector.length_toList]

theorem PublicKey.hex_inj {p q : PublicKey} : p.hex = q.hex ↔ p = q := by
  refine ⟨fun h => ?_, congrArg _⟩
  have hbytes := Vector.toList_inj.mp (hexStr_injective h)
  cases p
  cases q
  exact congrArg PublicKey.mk hbytes

/-- What the sixteen digits have, the characters of a key's text have. -/
theorem PublicKey.forall_mem_hex {p : Char → Prop} (h : ∀ n < 16, p (Nat.digitChar n))
    {pubkey : PublicKey} {c : Char} (hc : c ∈ pubkey.hex.toList) : p c :=
  forall_mem_flatMap_hexByte h (pubkey.hex_toList ▸ hc)

namespace PeerLibrary

variable (lib : PeerLibrary ContractId Addr)

/-- The key is one that the library has read. -/
def Known (pubkey : PublicKey) : Prop := lib.publicKeyFromSlice pubkey.bytes.toList = some pubkey

variable {lib} {pubkey : PublicKey} {addr : Addr}

theorem hexStrToCompressedPubkey_hex (h : lib.Known pubkey) :
    hexStrToCompressedPubkey lib.toPaymentLibrary pubkey.hex = some pubkey := by
  have hsize : pubkey.hex.utf8ByteSize = 33 * 2 := by
    rw [PublicKey.hex, utf8ByteSize_hexStr, Vector.length_toList]
  rw [hexStrToCompressedPubkey, if_neg (not_not.mpr hsize), pubkey.hex_toList,
    hexStrToVec_flatMap_hexByte]
  exact h

theorem known_of_hexStrToCompressedPubkey {hex : String}
    (h : hexStrToCompressedPubkey lib.toPaymentLibrary hex = some pubkey) : lib.Known pubkey := by
  rw [hexStrToCompressedPubkey] at h
  split at h
  · cases h
  · obtain ⟨bytes, -, hbytes⟩ := Option.bind_eq_some_iff.mp h
    exact lib.publicKeyFromSlice_bytes bytes pubkey hbytes

/-! ### Lines -/

theorem line_plain {c : Char} (h : c ∈ lib.line pubkey addr) : isWhiteSpace c = false := by
  rw [line, List.mem_append, List.mem_cons] at h
  obtain hkey | rfl | haddr := h
  · exact PublicKey.forall_mem_hex (p := fun c => isWhiteSpace c = false) (by decide) hkey
  · decide
  · exact (lib.addrText_plain addr c haddr).2

theorem trim_line : Text.trim isWhiteSpace (lib.line pubkey addr) = lib.line pubkey addr :=
  Text.trim_eq_self fun _ => line_plain

/-- A line can stand between newlines. -/
theorem line_isLine : lib.line pubkey addr ≠ [] ∧ '\r' ∉ lib.line pubkey addr ∧
    '\n' ∉ lib.line pubkey addr := by
  refine ⟨fun h => ?_, fun h => ?_, fun h => ?_⟩
  · exact List.cons_ne_nil _ _ (List.append_eq_nil_iff.mp h).2
  · exact absurd (line_plain h) (by decide)
  · exact absurd (line_plain h) (by decide)

/-- A text that is accepted as a key starts the line of a peer only if it is the
very text of that peer's key. -/
theorem isPrefixOf_line_iff {text : String} {key : PublicKey}
    (htext : lib.publicKeyFromStr text = some key) :
    text.toList.isPrefixOf (lib.line pubkey addr) = true ↔ text = pubkey.hex := by
  rw [List.isPrefixOf_iff_prefix, line]
  constructor
  · intro hstart
    obtain ⟨hlength, hhex⟩ := lib.isHex_of_publicKeyFromStr text key htext
    obtain ⟨rest, hrest⟩ : pubkey.hex.toList <+: text.toList :=
      List.prefix_of_prefix_length_le ⟨_, rfl⟩ hstart (pubkey.length_hex ▸ hlength)
    rw [← hrest, List.prefix_append_right_inj] at hstart
    cases rest with
    | nil => exact (String.toList_inj.mp (by rw [← hrest, List.append_nil])).symm
    | cons c rest =>
      -- a longer text would go on with the separator, which is no digit
      obtain rfl : c = '@' := (List.cons_prefix_cons.mp hstart).1
      have hsep : '@' ∈ text.toList := by
        rw [← hrest]
        exact List.mem_append_right _ List.mem_cons_self
      exact absurd (by decide) (hhex '@' hsep)
  · rintro rfl
    exact ⟨_, rfl⟩

end PeerLibrary

namespace PeerEnv

variable {lib : PeerLibrary ContractId Addr} {env : PeerEnv lib} {pubkey : PublicKey} {addr : Addr}

/-- A line is parsed to what it was written for. -/
theorem parsePeerInfo_line (h : lib.Known pubkey) :
    env.parsePeerInfo (String.ofList (lib.line pubkey addr)) = .ok (pubkey, some addr) := by
  have hkey : '@' ∉ pubkey.hex.toList := fun hsep =>
    PublicKey.forall_mem_hex (p := (· ≠ '@')) (by decide) hsep rfl
  have haddr : '@' ∉ (lib.addrText addr).toList := fun hsep =>
    (lib.addrText_plain addr _ hsep).1 rfl
  rw [parsePeerInfo, String.toList_ofList, PeerLibrary.line, Text.splitOn_append_cons hkey,
    Text.splitOn_of_notMem haddr]
  simp only [peerAddr, String.ofList_toList, env.toSocketAddrs_addrText,
    PeerLibrary.hexStrToCompressedPubkey_hex h]
  rfl

theorem known_of_parsePeerInfo {text : String} {peerAddr : Option Addr}
    (h : env.parsePeerInfo text = .ok (pubkey, peerAddr)) : lib.Known pubkey := by
  rw [parsePeerInfo] at h
  split at h
  · cases h
  · obtain ⟨addr', -, h⟩ := except_bind_eq_ok_iff.mp h
    split at h
    · rename_i hkey
      cases h
      exact PeerLibrary.known_of_hexStrToCompressedPubkey hkey
    · cases h

end PeerEnv

end RgbLightningNode
