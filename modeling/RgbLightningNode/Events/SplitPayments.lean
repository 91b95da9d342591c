import RgbLightningNode.Events.Payments

/-!
# Payments over several channels

A coloured payment that is split leaves a payment-info file for each channel of its
parts. When it settles, the files are read in the order the system lists them, and
the first one for the side is the only one that moves an amount.
-/

namespace RgbLightningNode

open Fallible

variable {ContractId : Type}

/-! ### The files of one payment -/

/-- The payment-info file of a channel. -/
structure PaymentFile where
  channelId : ChannelId
  inbound : Bool
  swapPayment : Bool
  amount : UInt64
  extension : List Char
  extension_plain : '.' ∉ extension

namespace PaymentFile

variable (paymentHash : PaymentHash) (f : PaymentFile)

def stem : List Char := f.channelId.hex.toList ++ paymentHash.hex.toList

def fileName : List Char :=
  f.stem paymentHash ++ if f.extension = [] then [] else '.' :: f.extension

def entry : DirEntry where
  fileName := String.ofList (f.fileName paymentHash)
  paymentInfo := some ⟨f.amount, f.swapPayment, f.inbound⟩

/-- What is left of the name when the hash is cut out. -/
def cutName : String :=
  String.ofList (Text.removeAll paymentHash.hex.toList (f.stem paymentHash))

end PaymentFile

/-- A file of a swap counts for its own side only. -/
def PaymentFile.counts (receiver : Bool) (f : PaymentFile) : Bool :=
  !(f.swapPayment && receiver != f.inbound)

/-- The name has the hash in it, and is not the hash alone. -/
def isPaymentInfoOf (paymentHash : PaymentHash) (file : DirEntry) : Bool :=
  Text.contains file.fileName.toList paymentHash.hex.toList &&
    Text.fileStem file.fileName.toList != paymentHash.hex.toList

/-- The files of a payment in the order they are listed; there is at most one
for a channel and a side. -/
structure ListsFiles (paymentHash : PaymentHash) (files : List PaymentFile)
    (dir : LdkDataDir ContractId) : Prop where
  listed : dir.entries.filter (isPaymentInfoOf paymentHash) =
    files.map (PaymentFile.entry paymentHash)
  once : ∀ f ∈ files, ∀ g ∈ files, f.channelId = g.channelId → f.inbound = g.inbound → f = g

/-- The amount a channel is owed for one side. -/
def owed (files : List PaymentFile) (receiver : Bool) (channelId : String) : UInt64 :=
  match files.find? fun f => f.inbound = receiver ∧ f.channelId.hex = channelId with
  | some f => f.amount
  | none => 0

/-- What a settled amount does to its channel. -/
def RgbInfo.adjust (receiver : Bool) (amount : UInt64) : RgbInfo ContractId → RgbInfo ContractId :=
  if receiver then transfer 0 amount else transfer amount 0

/-- Every channel with a file of the side that is completed is adjusted by the
amount of its file, and no other one. -/
def AdjustsEach (paymentHash : PaymentHash) (receiver : Bool) (files : List PaymentFile)
    (dir : LdkDataDir ContractId) : Prop :=
  ∃ dir', updateRgbChannelAmount paymentHash receiver dir = .ok () dir' ∧
    ∀ channelId, dir'.channelInfo.lookup channelId =
      (dir.channelInfo.lookup channelId).map
        (RgbInfo.adjust receiver (owed files receiver channelId))

/-! ### Their names -/

theorem dot_notMem_hexStr (value : List UInt8) : '.' ∉ (hexStr value).toList := by
  rw [hexStr, String.toList_ofList]
  intro h
  exact forall_mem_flatMap_hexByte (p := fun c => c ≠ '.') (by decide) h rfl

namespace PaymentFile

variable (paymentHash : PaymentHash) (f : PaymentFile)

theorem dot_notMem_stem : '.' ∉ f.stem paymentHash := by
  rw [stem, List.mem_append, not_or]
  exact ⟨dot_notMem_hexStr _, dot_notMem_hexStr _⟩

theorem length_stem : (f.stem paymentHash).length = 128 := by
  rw [stem, List.length_append, ChannelId.hex, PaymentHash.hex, hexStr, hexStr,
    String.toList_ofList, String.toList_ofList, length_flatMap_hexByte, length_flatMap_hexByte,
    Vector.length_toList, Vector.length_toList]

/-- Without its extension the name is the channel id and the hash. -/
theorem fileStem_fileName : Text.fileStem (f.fileName paymentHash) = f.stem paymentHash := by
  have hne : f.stem paymentHash ≠ [] := by
    rw [← List.length_pos_iff, length_stem]
    decide
  rw [fileName]
  split_ifs with hext
  · rw [List.append_nil, Text.fileStem_of_notMem (f.dot_notMem_stem paymentHash)]
  · exact Text.fileStem_append_cons hne f.extension_plain

theorem isPaymentInfoOf_entry : isPaymentInfoOf paymentHash (f.entry paymentHash) = true := by
  have hinfix : paymentHash.hex.toList <:+: f.fileName paymentHash := by
    rw [fileName, stem]
    exact ⟨_, _, rfl⟩
  have hne : f.stem paymentHash ≠ paymentHash.hex.toList := by
    intro heq
    have hlength := congrArg List.length heq
    rw [length_stem, PaymentHash.hex, hexStr, String.toList_ofList, length_flatMap_hexByte,
      Vector.length_toList] at hlength
    exact absurd hlength (by decide)
  rw [isPaymentInfoOf, entry, String.toList_ofList, fileStem_fileName, Bool.and_eq_true,
    Text.contains]
  exact ⟨decide_eq_true hinfix, bne_iff_ne.mpr hne⟩

end PaymentFile

/-! ### What is found -/

section Find

variable {paymentHash : PaymentHash} {receiver : Bool} {ε : Type}

/-- Other files are passed over. -/
theorem selectPaymentInfo_filter (entries : List DirEntry) :
    (selectPaymentInfo paymentHash receiver (entries.filter (isPaymentInfoOf paymentHash)) :
        Except (Exit ε) _) = selectPaymentInfo paymentHash receiver entries := by
  induction entries with
  | nil => rfl
  | cons file entries ih =>
    by_cases hof : isPaymentInfoOf paymentHash file = true
    · have hcond : Text.contains file.fileName.toList paymentHash.hex.toList ∧
          Text.fileStem file.fileName.toList ≠ paymentHash.hex.toList := by
        simpa [isPaymentInfoOf] using hof
      rw [List.filter_cons_of_pos hof, selectPaymentInfo, selectPaymentInfo]
      simp only [if_pos hcond, ih]
    · have hcond : ¬(Text.contains file.fileName.toList paymentHash.hex.toList ∧
          Text.fileStem file.fileName.toList ≠ paymentHash.hex.toList) := by
        simpa [isPaymentInfoOf] using hof
      rw [List.filter_cons_of_neg hof, ih, selectPaymentInfo]
      simp only [if_neg hcond]

/-- The first file that counts is the one that is found. -/
theorem selectPaymentInfo_map_entry (files : List PaymentFile) :
    (selectPaymentInfo paymentHash receiver (files.map (PaymentFile.entry paymentHash)) :
        Except (Exit ε) _) =
      .ok ((files.find? (PaymentFile.counts receiver)).map fun f =>
        (f.cutName paymentHash, f.amount)) := by
  induction files with
  | nil => rfl
  | cons f files ih =>
    have hof := f.isPaymentInfoOf_entry paymentHash
    have hcond : Text.contains (f.entry paymentHash).fileName.toList paymentHash.hex.toList ∧
        Text.fileStem (f.entry paymentHash).fileName.toList ≠ paymentHash.hex.toList := by
      simpa [isPaymentInfoOf] using hof
    rw [List.map_cons, selectPaymentInfo]
    simp only [if_pos hcond]
    by_cases hcounts : f.counts receiver = true
    · have hskip : ¬(f.swapPayment = true ∧ receiver ≠ f.inbound) := by
        rintro ⟨hswap, hside⟩
        simp [PaymentFile.counts, hswap, hside] at hcounts
      rw [List.find?_cons_of_pos hcounts]
      simp only [PaymentFile.entry, if_neg hskip, String.toList_ofList, f.fileStem_fileName]
      rfl
    · have hskip : f.swapPayment = true ∧ receiver ≠ f.inbound := by
        simpa [PaymentFile.counts] using hcounts
      rw [List.find?_cons_of_neg hcounts]
      simp only [PaymentFile.entry, if_pos hskip]
      exact ih

end Find

/-! ### What is moved -/

section Moved

variable {paymentHash : PaymentHash} {receiver : Bool} {files : List PaymentFile}
  {dir dir' : LdkDataDir ContractId} {first : PaymentFile}

theorem ListsFiles.paymentMoves_eq (h : ListsFiles paymentHash files dir) :
    (paymentMoves paymentHash receiver dir.entries : Except (Exit ReplayEvent) _) =
      .ok (match files.find? (PaymentFile.counts receiver) with
        | none => []
        | some f =>
          [if receiver then ⟨f.cutName paymentHash, 0, f.amount⟩
            else ⟨f.cutName paymentHash, f.amount, 0⟩]) := by
  rw [paymentMoves, ← selectPaymentInfo_filter, h.listed, selectPaymentInfo_map_entry,
    except_ok_bind]
  cases files.find? (PaymentFile.counts receiver) with
  | none => rfl
  | some f => rfl

theorem applyMoves_singleton_eq_ok_iff {move : RgbMove} :
    (applyMoves [move] : Fallible (Exit ReplayEvent) _ Unit) dir = .ok () dir' ↔
      ∃ rgbInfo, dir.channelInfo.lookup move.channelId = some rgbInfo ∧
        dir' = { dir with
          channelInfo := dir.channelInfo.insert move.channelId
            (rgbInfo.transfer move.offered move.received) } := by
  rw [applyMoves, unit_bind_eq_ok_iff, ← updateRgbChannelAmount_eq_ok_iff]
  constructor
  · rintro ⟨mid, hmove, hrest⟩
    have hsame : mid = dir' := (EStateM.Result.ok.inj hrest).2
    rw [← hsame]
    exact hmove
  · intro hmove
    exact ⟨dir', hmove, rfl⟩

theorem updateRgbChannelAmount_of_none (h : ListsFiles paymentHash files dir)
    (hnone : files.find? (PaymentFile.counts receiver) = none) :
    updateRgbChannelAmount paymentHash receiver dir = .ok () dir := by
  rw [updateRgbChannelAmount, bind_of_ok (get_apply dir), h.paymentMoves_eq, hnone,
    bind_of_ok (attempt_ok _ dir)]
  rfl

theorem updateRgbChannelAmount_of_first (h : ListsFiles paymentHash files dir)
    (hfirst : files.find? (PaymentFile.counts receiver) = some first) :
    updateRgbChannelAmount paymentHash receiver dir = .ok () dir' ↔
      ∃ rgbInfo, dir.channelInfo.lookup (first.cutName paymentHash) = some rgbInfo ∧
        dir' = { dir with
          channelInfo := dir.channelInfo.insert (first.cutName paymentHash)
            (rgbInfo.adjust receiver first.amount) } := by
  rw [updateRgbChannelAmount, bind_of_ok (get_apply dir), h.paymentMoves_eq, hfirst,
    bind_of_ok (attempt_ok _ dir)]
  -- what is offered and received depends on the side
  cases receiver with
  | true => exact applyMoves_singleton_eq_ok_iff
  | false => exact applyMoves_singleton_eq_ok_iff

/-- A channel is adjusted by one amount only. -/
theorem RgbInfo.adjust_inj {rgbInfo : RgbInfo ContractId} {amount amount' : UInt64} :
    rgbInfo.adjust receiver amount = rgbInfo.adjust receiver amount' ↔ amount = amount' := by
  constructor
  · intro h
    have hlocal := congrArg RgbInfo.localRgbAmount h
    cases receiver with
    | true =>
      change rgbInfo.localRgbAmount - 0 + amount = rgbInfo.localRgbAmount - 0 + amount' at hlocal
      grind
    | false =>
      change rgbInfo.localRgbAmount - amount + 0 = rgbInfo.localRgbAmount - amount' + 0 at hlocal
      grind
  · rintro rfl
    rfl

theorem RgbInfo.adjust_zero (rgbInfo : RgbInfo ContractId) :
    rgbInfo.adjust receiver 0 = rgbInfo := by
  cases receiver <;> exact congrFun RgbInfo.transfer_zero rgbInfo

/-- One file moves what is owed when it has an info file to move it in, and every
channel is owed what this file says, or nothing. -/
theorem adjustsEach_iff_of_first (h : ListsFiles paymentHash files dir)
    (hfirst : files.find? (PaymentFile.counts receiver) = some first) :
    AdjustsEach paymentHash receiver files dir ↔
      (dir.channelInfo.lookup (first.cutName paymentHash)).isSome ∧
        ∀ channelId, (dir.channelInfo.lookup channelId).isSome →
          owed files receiver channelId =
            if channelId = first.cutName paymentHash then first.amount else 0 := by
  rw [AdjustsEach]
  simp only [updateRgbChannelAmount_of_first h hfirst]
  constructor
  · rintro ⟨dir', ⟨rgbInfo, hinfo, rfl⟩, hall⟩
    refine ⟨by rw [hinfo]; rfl, fun channelId hsome => ?_⟩
    obtain ⟨other, hother⟩ := Option.isSome_iff_exists.mp hsome
    have hadjusted := hall channelId
    rw [hother] at hadjusted
    split_ifs with hkey
    · subst hkey
      obtain rfl := Option.some.inj (hinfo.symm.trans hother)
      rw [Finmap.lookup_insert] at hadjusted
      exact (RgbInfo.adjust_inj.mp (Option.some.inj hadjusted)).symm
    · rw [Finmap.lookup_insert_of_ne _ hkey, hother] at hadjusted
      have hself := Option.some.inj hadjusted
      exact RgbInfo.adjust_inj.mp (hself.symm.trans (RgbInfo.adjust_zero other).symm)
  · rintro ⟨hsome, howed⟩
    obtain ⟨rgbInfo, hinfo⟩ := Option.isSome_iff_exists.mp hsome
    refine ⟨_, ⟨rgbInfo, hinfo, rfl⟩, fun channelId => ?_⟩
    by_cases hkey : channelId = first.cutName paymentHash
    · have howed' := howed channelId (by rw [hkey, hinfo]; rfl)
      rw [if_pos hkey] at howed'
      rw [howed', hkey, Finmap.lookup_insert, hinfo]
      rfl
    · rw [Finmap.lookup_insert_of_ne _ hkey]
      cases hother : dir.channelInfo.lookup channelId with
      | none => rfl
      | some other =>
        have howed' := howed channelId (by rw [hother]; rfl)
        rw [if_neg hkey] at howed'
        rw [howed', Option.map_some, RgbInfo.adjust_zero]

/-! ### When every channel gets its own -/

theorem channelId_hex_injective : Function.Injective ChannelId.hex := by
  intro c d h
  obtain ⟨bytes⟩ := c
  obtain ⟨bytes'⟩ := d
  have hlist : bytes.toList = bytes'.toList := hexStr_injective h
  exact congrArg ChannelId.mk (Vector.toList_inj.mp hlist)

theorem ListsFiles.owed_of_mem (h : ListsFiles paymentHash files dir) {f : PaymentFile}
    (hf : f ∈ files) (hside : f.inbound = receiver) : owed files receiver f.channelId.hex = f.amount := by
  rw [owed]
  cases hfound : files.find? fun g => g.inbound = receiver ∧ g.channelId.hex = f.channelId.hex with
  | none =>
    have hno := List.find?_eq_none.mp hfound f hf
    exact (hno (decide_eq_true ⟨hside, rfl⟩)).elim
  | some g =>
    have hg := List.find?_some hfound
    obtain ⟨hside', hhex⟩ := of_decide_eq_true hg
    have hsame := h.once g (List.mem_of_find?_eq_some hfound) f hf (channelId_hex_injective hhex)
      (hside'.trans hside.symm)
    exact congrArg PaymentFile.amount hsame

theorem owed_eq_zero {channelId : String}
    (h : ∀ f ∈ files, f.inbound = receiver → f.channelId.hex ≠ channelId) :
    owed files receiver channelId = 0 := by
  have hnone : (files.find? fun f => f.inbound = receiver ∧ f.channelId.hex = channelId) =
      none := by
    rw [List.find?_eq_none]
    intro f hf
    simpa using h f hf
  rw [owed, hnone]

/-- The first file that counts, if there is one, names a channel with an info
file, which is owed its amount, and no other channel is owed any. -/
def FirstSuffices (paymentHash : PaymentHash) (receiver : Bool) (files : List PaymentFile)
    (dir : LdkDataDir ContractId) : Prop :=
  ∀ first, files.find? (PaymentFile.counts receiver) = some first →
    (dir.channelInfo.lookup (first.cutName paymentHash)).isSome ∧
      (first.amount ≠ 0 → ∃ f ∈ files, f.inbound = receiver ∧
        f.channelId.hex = first.cutName paymentHash) ∧
      ∀ f ∈ files, f.inbound = receiver → (dir.channelInfo.lookup f.channelId.hex).isSome →
        f.amount = if f.channelId.hex = first.cutName paymentHash then first.amount else 0

/-- Every channel of a payment is adjusted by its own amount if and only if the first file
that counts is the only one with an amount for the side, or gives the amount of the only
one. -/
theorem adjustsEach_iff (h : ListsFiles paymentHash files dir) :
    AdjustsEach paymentHash receiver files dir ↔
      FirstSuffices paymentHash receiver files dir := by
  cases hfirst : files.find? (PaymentFile.counts receiver) with
  | none =>
    -- a file of the side always counts, so that no channel is owed anything
    have howed : ∀ channelId, owed files receiver channelId = 0 := by
      intro channelId
      refine owed_eq_zero fun f hf hside => ?_
      have hcounts := List.find?_eq_none.mp hfirst f hf
      simp [PaymentFile.counts, hside] at hcounts
    refine iff_of_true ⟨dir, updateRgbChannelAmount_of_none h hfirst, fun channelId => ?_⟩ ?_
    · rw [howed]
      cases dir.channelInfo.lookup channelId with
      | none => rfl
      | some rgbInfo => exact congrArg some (RgbInfo.adjust_zero rgbInfo).symm
    · intro first hsome
      rw [hfirst] at hsome
      cases hsome
  | some first =>
    rw [adjustsEach_iff_of_first h hfirst]
    constructor
    · intro ⟨hinfo, howed⟩ other hother
      obtain rfl := Option.some.inj (hfirst.symm.trans hother)
      refine ⟨hinfo, fun hamount => ?_, fun f hf hside hsome => ?_⟩
      · by_contra hno
        have hzero : owed files receiver (first.cutName paymentHash) = 0 :=
          owed_eq_zero fun f hf hside hhex => hno ⟨f, hf, hside, hhex⟩
        rw [howed _ hinfo, if_pos rfl] at hzero
        exact hamount hzero
      · rw [← h.owed_of_mem hf hside]
        exact howed _ hsome
    · intro hsuffices
      obtain ⟨hinfo, hnamed, hrest⟩ := hsuffices first hfirst
      refine ⟨hinfo, fun channelId hsome => ?_⟩
      by_cases hfile : ∃ f ∈ files, f.inbound = receiver ∧ f.channelId.hex = channelId
      · obtain ⟨f, hf, hside, rfl⟩ := hfile
        rw [h.owed_of_mem hf hside]
        exact hrest f hf hside hsome
      · rw [owed_eq_zero fun f hf hside hhex => hfile ⟨f, hf, hside, hhex⟩]
        split_ifs with hkey
        · by_contra hamount
          obtain ⟨f, hf, hside, hhex⟩ := hnamed (Ne.symm hamount)
          exact hfile ⟨f, hf, hside, hhex.trans hkey.symm⟩
        · rfl

end Moved

/-! ### A payment over two channels -/

def paymentOfTwo : PaymentHash := ⟨Vector.replicate 32 3⟩

/-- The file of an incoming part. -/
def partOf (channel : UInt8) (amount : UInt64) : PaymentFile where
  channelId := ⟨Vector.replicate 32 channel⟩
  inbound := true
  swapPayment := false
  amount := amount
  extension := "inbound".toList
  extension_plain := by decide

/-- The directory of a node with two channels and the files of a payment. -/
def dirOf (files : List PaymentFile) : LdkDataDir Nat where
  channelInfo := ((∅ : HashMap String (RgbInfo Nat)).insert (partOf 1 0).channelId.hex
    ⟨7, .nia, 100, 100⟩).insert (partOf 2 0).channelId.hex ⟨7, .nia, 100, 100⟩
  channelInfoPending := ∅
  entries := files.map (PaymentFile.entry paymentOfTwo)

theorem listing_dirOf {files : List PaymentFile}
    (honce : ∀ f ∈ files, ∀ g ∈ files, f.channelId = g.channelId → f.inbound = g.inbound → f = g) :
    ListsFiles paymentOfTwo files (dirOf files) where
  listed := by
    refine List.filter_eq_self.mpr fun file hfile => ?_
    obtain ⟨f, -, rfl⟩ := List.mem_map.mp hfile
    exact f.isPaymentInfoOf_entry paymentOfTwo
  once := honce

/-- A payment that takes both channels. -/
theorem listsFiles_twoParts :
    ListsFiles paymentOfTwo [partOf 1 5, partOf 2 7] (dirOf [partOf 1 5, partOf 2 7]) := by
  refine listing_dirOf fun f hf g hg hchannel _ => ?_
  simp only [List.mem_cons, List.not_mem_nil, or_false] at hf hg
  obtain rfl | rfl := hf <;> obtain rfl | rfl := hg
  · rfl
  · exact absurd hchannel (by decide)
  · exact absurd hchannel (by decide)
  · rfl

theorem adjustsEach_iff_of_twoParts :
    AdjustsEach paymentOfTwo true [partOf 1 5, partOf 2 7] (dirOf [partOf 1 5, partOf 2 7]) ↔
      FirstSuffices paymentOfTwo true [partOf 1 5, partOf 2 7]
        (dirOf [partOf 1 5, partOf 2 7]) :=
  adjustsEach_iff listsFiles_twoParts

theorem cutName_partOf : (partOf 1 5).cutName paymentOfTwo = (partOf 1 5).channelId.hex :=
  congrArg String.ofList (by decide +kernel)

/-- The second part is not moved. -/
theorem second_part_stays :
    ¬∀ (paymentHash : PaymentHash) (receiver : Bool) (files : List PaymentFile)
      (dir : LdkDataDir Nat), ListsFiles paymentHash files dir →
      AdjustsEach paymentHash receiver files dir := by
  intro h
  have hlisting := listsFiles_twoParts
  have hfirst : [partOf 1 5, partOf 2 7].find? (PaymentFile.counts true) = some (partOf 1 5) := rfl
  obtain ⟨-, howed⟩ := (adjustsEach_iff_of_first hlisting hfirst).mp (h _ true _ _ hlisting)
  have hsecond := howed (partOf 2 7).channelId.hex (by
    change (Finmap.lookup (partOf 2 0).channelId.hex (dirOf _).channelInfo).isSome
    rw [dirOf, Finmap.lookup_insert]
    rfl)
  have hne : (partOf 2 7).channelId.hex ≠ (partOf 1 5).cutName paymentOfTwo := by
    rw [cutName_partOf]
    exact fun hhex => absurd (channelId_hex_injective hhex) (by decide)
  have hseven : owed [partOf 1 5, partOf 2 7] true (partOf 2 7).channelId.hex =
      (partOf 2 7).amount :=
    hlisting.owed_of_mem (by simp) rfl
  rw [if_neg hne, hseven] at hsecond
  exact absurd hsecond (by decide)

end RgbLightningNode
