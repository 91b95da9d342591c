import RgbLightningNode.Types

/-!
# Numbers and bytes as text
-/

namespace RgbLightningNode

/-- The bytes of a text. -/
def utf8Bytes (text : String) : List UInt8 := text.toUTF8.data.toList

theorem utf8Bytes_eq_flatMap (text : String) :
    utf8Bytes text = text.toList.flatMap String.utf8EncodeChar := by
  rw [utf8Bytes, String.toUTF8_eq_toByteArray, ← String.utf8Encode_toList, List.utf8Encode,
    List.data_toByteArray, List.toList_toArray]

/-- The two lower-case digits of a byte. -/
def hexByte (v : UInt8) : List Char :=
  [Nat.digitChar (v.toNat / 16), Nat.digitChar (v.toNat % 16)]

def hexStr (value : List UInt8) : String := String.ofList (value.flatMap hexByte)

/-- The value of a hexadecimal digit, in either case. -/
def hexDigit (c : Char) : Option Nat :=
  if 'A' ≤ c ∧ c ≤ 'F' then some (c.toNat - 'A'.toNat + 10)
  else if 'a' ≤ c ∧ c ≤ 'f' then some (c.toNat - 'a'.toNat + 10)
  else if '0' ≤ c ∧ c ≤ '9' then some (c.toNat - '0'.toNat)
  else none

/-- Read digits two by two. An odd last digit is checked and then dropped. -/
def hexStrToVec : List Char → Option (List UInt8)
  | [] => some []
  | [c] => (hexDigit c).map fun _ => []
  | c :: d :: hex => do
    let hi ← hexDigit c
    let lo ← hexDigit d
    let out ← hexStrToVec hex
    return UInt8.ofNat (16 * hi + lo) :: out

theorem hexDigit_digitChar {n : Nat} (h : n < 16) : hexDigit (Nat.digitChar n) = some n := by
  have : ∀ n < 16, hexDigit (Nat.digitChar n) = some n := by decide
  exact this n h

/-- The digits of some bytes have what the sixteen digits have. -/
theorem forall_mem_flatMap_hexByte {p : Char → Prop} (h : ∀ n < 16, p (Nat.digitChar n))
    {value : List UInt8} {c : Char} (hc : c ∈ value.flatMap hexByte) : p c := by
  obtain ⟨v, -, hv⟩ := List.mem_flatMap.mp hc
  have hlt : v.toNat < 256 := v.toNat_lt
  rcases List.mem_pair.mp hv with rfl | rfl
  · exact h _ (by omega)
  · exact h _ (by omega)

theorem hexStrToVec_flatMap_hexByte (value : List UInt8) :
    hexStrToVec (value.flatMap hexByte) = some value := by
  induction value with
  | nil => rfl
  | cons v value ih =>
    have hlt : v.toNat < 256 := v.toNat_lt
    rw [List.flatMap_cons, hexByte, List.cons_append, List.cons_append, List.nil_append,
      hexStrToVec, hexDigit_digitChar (by omega), hexDigit_digitChar (by omega), ih]
    have hv : UInt8.ofNat (16 * (v.toNat / 16) + v.toNat % 16) = v := by
      rw [Nat.div_add_mod, UInt8.ofNat_toNat]
    exact congrArg (fun v => some (v :: value)) hv

theorem length_flatMap_hexByte (value : List UInt8) :
    (value.flatMap hexByte).length = 2 * value.length := by
  induction value with
  | nil => rfl
  | cons v value ih =>
    rw [List.flatMap_cons, List.length_append, ih, List.length_cons, Nat.mul_succ, Nat.add_comm]
    rfl

/-- Characters of one byte each are as many as their bytes. -/
theorem utf8ByteSize_ofList {s : List Char} (h : ∀ c ∈ s, c.utf8Size = 1) :
    (String.ofList s).utf8ByteSize = s.length := by
  induction s with
  | nil => rfl
  | cons c s ih =>
    have hcons : String.ofList (c :: s) = String.singleton c ++ String.ofList s := by
      rw [← String.toList_inj]
      simp
    rw [hcons, String.utf8ByteSize_append, String.utf8ByteSize_singleton, h c List.mem_cons_self,
      ih fun d hd => h d (List.mem_cons_of_mem c hd), List.length_cons, Nat.add_comm]

theorem utf8ByteSize_hexStr (value : List UInt8) :
    (hexStr value).utf8ByteSize = 2 * value.length := by
  rw [hexStr, utf8ByteSize_ofList fun c hc => forall_mem_flatMap_hexByte
    (p := fun c => c.utf8Size = 1) (by decide) hc, length_flatMap_hexByte]

theorem hexStr_injective : Function.Injective hexStr := by
  intro u v h
  have h : u.flatMap hexByte = v.flatMap hexByte := String.ofList_injective h
  have := congrArg hexStrToVec h
  rwa [hexStrToVec_flatMap_hexByte, hexStrToVec_flatMap_hexByte, Option.some.injEq] at this

/-- The bytes, when there are 32 of them. -/
def bytes32? (bytes : List UInt8) : Option Bytes32 :=
  if h : bytes.length = 32 then some ⟨bytes.toArray, by simpa using h⟩ else none

/-- The number a non-empty run of decimal digits stands for. -/
def decimalValue (digits : List Char) : Option Nat :=
  if digits ≠ [] ∧ digits.all Char.isDigit then
    some (digits.foldl (fun n c => 10 * n + (c.toNat - '0'.toNat)) 0)
  else none

/-- Parse an unsigned 64-bit number: decimal digits after at most one plus. -/
def parseU64 (s : List Char) : Option Nat :=
  (decimalValue (match s with
    | '+' :: digits => digits
    | digits => digits)).filter (· < 2 ^ 64)

theorem parseU64_lt {s : List Char} {n : Nat} (h : parseU64 s = some n) : n < 2 ^ 64 := by
  have := (Option.filter_eq_some_iff.mp h).2
  simpa using this

theorem isDigit_of_mem_toString {n : Nat} {c : Char} (h : c ∈ (toString n).toList) :
    c.isDigit = true := by
  rw [Nat.toString_eq_ofList_toDigits, String.toList_ofList] at h
  exact Nat.isDigit_of_mem_toDigits (by decide) (by decide) h

theorem decimalValue_toString (n : Nat) : decimalValue (toString n).toList = some n := by
  have hdigits : (toString n).toList.all Char.isDigit = true :=
    List.all_eq_true.mpr fun c hc => isDigit_of_mem_toString hc
  have hne : (toString n).toList ≠ [] := by
    rw [Nat.toString_eq_ofList_toDigits, String.toList_ofList]
    exact Nat.toDigits_ne_nil
  rw [decimalValue, if_pos ⟨hne, hdigits⟩, Nat.toString_eq_ofList_toDigits, String.toList_ofList,
    ← Nat.ofDigitChars_eq_foldl, Nat.ofDigitChars_ten_toDigits]

/-- A number is read back from its own digits. -/
theorem parseU64_toString {n : Nat} (h : n < 2 ^ 64) : parseU64 (toString n).toList = some n := by
  have hplus : ∀ digits, (toString n).toList ≠ '+' :: digits := by
    intro digits heq
    have : ('+' : Char).isDigit = true :=
      isDigit_of_mem_toString (n := n) (by rw [heq]; exact List.mem_cons_self)
    exact absurd this (by decide)
  rw [parseU64, decimalValue_toString]
  · exact Option.filter_some_pos (by simpa using h)
  · exact hplus

/-- Read the rest of an unsigned 32-bit number behind the value `n`. -/
def parseU32From (n : Nat) : List Char → Except String Nat
  | [] => .ok n
  | c :: s =>
    if c.isDigit then
      if 10 * n + (c.toNat - '0'.toNat) < 2 ^ 32 then
        parseU32From (10 * n + (c.toNat - '0'.toNat)) s
      else .error "number too large to fit in target type"
    else .error "invalid digit found in string"

/-- Parse an unsigned 32-bit number, or say why it is none. -/
def parseU32 : List Char → Except String Nat
  | [] => .error "cannot parse integer from empty string"
  | ['+'] => .error "invalid digit found in string"
  | '+' :: digits => parseU32From 0 digits
  | digits => parseU32From 0 digits

def PaymentHash.hex (paymentHash : PaymentHash) : String := hexStr paymentHash.bytes.toList

def PublicKey.hex (pubkey : PublicKey) : String := hexStr pubkey.bytes.toList

def ChannelId.hex (channelId : ChannelId) : String := hexStr channelId.bytes.toList

end RgbLightningNode
