import RgbLightningNode.Utils

/-!
# Bytes as hexadecimal text

The loop that reads hexadecimal text goes through the bytes of the text and
collects a byte at every other one. It reads digits two by two, in either case,
and forgets a digit that has none beside it.
-/

namespace RgbLightningNode

/-- The digit that a byte of the text stands for. -/
def hexNibble (c : UInt8) : Option UInt8 :=
  if 'A'.toUInt8 ≤ c ∧ c ≤ 'F'.toUInt8 then some (c - 'A'.toUInt8 + 10)
  else if 'a'.toUInt8 ≤ c ∧ c ≤ 'f'.toUInt8 then some (c - 'a'.toUInt8 + 10)
  else if '0'.toUInt8 ≤ c ∧ c ≤ '9'.toUInt8 then some (c - '0'.toUInt8)
  else none

/-- The loop over the bytes of the text, from the index `idx` on, with the digits
in `b` that are not yet a byte. -/
def hexBytesFrom (idx : Nat) (b : UInt8) (out : List UInt8) : List UInt8 → Option (List UInt8)
  | [] => some out
  | c :: hex => do
    let nibble ← hexNibble c
    let b := b <<< 4 ||| nibble
    if idx &&& 1 = 1 then hexBytesFrom (idx + 1) 0 (out ++ [b]) hex
    else hexBytesFrom (idx + 1) b out hex

/-- Read the bytes that a text stands for. -/
def hexStrToVecOf (hex : String) : Option (List UInt8) := hexBytesFrom 0 0 [] (utf8Bytes hex)

/-! ### Digits -/

/-- What can be checked of 128 characters holds of a character of one byte. -/
theorem ascii_induction {p : Char → Prop} (h : ∀ n < 128, p (Char.ofNat n)) {c : Char}
    (hc : c.toNat < 128) : p c := by
  rw [← Char.ofNat_toNat c]
  exact h c.toNat hc

theorem hexDigit_of_le {c : Char} (hc : 128 ≤ c.toNat) : hexDigit c = none := by
  have hnot : ∀ d : Char, d.toNat < 128 → ¬c ≤ d := by
    intro d hd hle
    have hle' : c.toNat ≤ d.toNat := UInt32.le_iff_toNat_le.mp (Char.le_def.mp hle)
    omega
  rw [hexDigit, if_neg fun h => hnot 'F' (by decide) h.2,
    if_neg fun h => hnot 'f' (by decide) h.2, if_neg fun h => hnot '9' (by decide) h.2]

theorem toLower_of_le {c : Char} (hc : 128 ≤ c.toNat) : c.toLower = c := by
  refine dif_neg ?_
  rintro ⟨-, hle⟩
  have hle' : c.toNat ≤ 'Z'.val.toNat := UInt32.le_iff_toNat_le.mp hle
  exact absurd (hc.trans hle') (by decide)

theorem hexDigit_toLower (c : Char) : hexDigit c.toLower = hexDigit c := by
  by_cases hc : c.toNat < 128
  · exact ascii_induction (p := fun c => hexDigit c.toLower = hexDigit c) (by decide) hc
  · rw [toLower_of_le (not_lt.mp hc)]

/-- A digit is written back in lower case. -/
theorem digitChar_of_hexDigit {c : Char} {n : Nat} (h : hexDigit c = some n) :
    n < 16 ∧ Nat.digitChar n = c.toLower := by
  by_cases hc : c.toNat < 128
  · have hall : ∀ n ∈ hexDigit c, n < 16 ∧ Nat.digitChar n = c.toLower :=
      ascii_induction (p := fun c => ∀ n ∈ hexDigit c, n < 16 ∧ Nat.digitChar n = c.toLower)
        (by decide) hc
    exact hall n h
  · rw [hexDigit_of_le (not_lt.mp hc)] at h
    cases h

theorem hexNibble_of_ascii {c : Char} (hc : c.toNat < 128) :
    hexNibble (UInt8.ofNat c.toNat) = (hexDigit c).map UInt8.ofNat :=
  ascii_induction (p := fun c => hexNibble (UInt8.ofNat c.toNat) = (hexDigit c).map UInt8.ofNat)
    (by decide) hc

theorem hexNibble_of_le {b : UInt8} (hb : 128 ≤ b) : hexNibble b = none := by
  have hnot : ∀ d : UInt8, ¬128 ≤ d → ¬b ≤ d := fun d hd hle => hd (UInt8.le_trans hb hle)
  rw [hexNibble, if_neg fun h => hnot 'F'.toUInt8 (by decide) h.2,
    if_neg fun h => hnot 'f'.toUInt8 (by decide) h.2,
    if_neg fun h => hnot '9'.toUInt8 (by decide) h.2]

/-- A character of more bytes begins with one that is no digit. -/
theorem hexNibble_of_utf8 {c : Char} (hc : 128 ≤ c.toNat) :
    ∃ b bs, String.utf8EncodeChar c = b :: bs ∧ hexNibble b = none := by
  have hc' : ¬c.val.toNat ≤ 127 := by
    have hval : c.val.toNat = c.toNat := rfl
    omega
  rw [String.utf8EncodeChar]
  split
  · omega
  · split
    · refine ⟨_, _, rfl, hexNibble_of_le ?_⟩
      rw [UInt8.le_iff_toNat_le, UInt8.toNat_ofNat']
      change 128 ≤ _
      omega
    · split
      · refine ⟨_, _, rfl, hexNibble_of_le ?_⟩
        rw [UInt8.le_iff_toNat_le, UInt8.toNat_ofNat']
        change 128 ≤ _
        omega
      · refine ⟨_, _, rfl, hexNibble_of_le ?_⟩
        rw [UInt8.le_iff_toNat_le, UInt8.toNat_ofNat']
        change 128 ≤ _
        omega

/-! ### The loop reads digits two by two -/

/-- The loop over the bytes of one character. -/
theorem hexBytesFrom_utf8EncodeChar (idx : Nat) (b : UInt8) (out : List UInt8) (c : Char)
    (hex : List UInt8) :
    hexBytesFrom idx b out (String.utf8EncodeChar c ++ hex) = (hexDigit c).bind fun n =>
      if idx % 2 = 1 then hexBytesFrom (idx + 1) 0 (out ++ [b <<< 4 ||| UInt8.ofNat n]) hex
      else hexBytesFrom (idx + 1) (b <<< 4 ||| UInt8.ofNat n) out hex := by
  by_cases hc : c.toNat < 128
  · have hencode : String.utf8EncodeChar c = [UInt8.ofNat c.toNat] := by
      rw [String.utf8EncodeChar]
      exact if_pos (Nat.le_of_lt_succ hc)
    rw [hencode, List.cons_append, List.nil_append, hexBytesFrom, hexNibble_of_ascii hc,
      Nat.and_one_is_mod]
    cases hexDigit c <;> rfl
  · obtain ⟨b', bs, hencode, hnone⟩ := hexNibble_of_utf8 (not_lt.mp hc)
    rw [hencode, List.cons_append, hexBytesFrom, hnone, hexDigit_of_le (not_lt.mp hc)]
    rfl

/-- Two digits side by side are one byte. -/
theorem shiftLeft_or_of_lt {hi lo : Nat} (hhi : hi < 16) (hlo : lo < 16) :
    ((0 : UInt8) <<< 4 ||| UInt8.ofNat hi) <<< 4 ||| UInt8.ofNat lo =
      UInt8.ofNat (16 * hi + lo) := by
  have hall : ∀ hi < 16, ∀ lo < 16, ((0 : UInt8) <<< 4 ||| UInt8.ofNat hi) <<< 4 |||
      UInt8.ofNat lo = UInt8.ofNat (16 * hi + lo) := by decide
  exact hall hi hhi lo hlo

/-- Between two bytes, the loop reads what is left of the text. -/
theorem hexBytesFrom_flatMap {idx : Nat} (hidx : idx % 2 = 0) (out : List UInt8)
    (hex : List Char) :
    hexBytesFrom idx 0 out (hex.flatMap String.utf8EncodeChar) =
      (hexStrToVec hex).map (out ++ ·) := by
  induction hex using hexStrToVec.induct generalizing idx out with
  | case1 => rw [hexStrToVec, Option.map_some, List.append_nil]; rfl
  | case2 c =>
    rw [List.flatMap_cons, hexBytesFrom_utf8EncodeChar, hexStrToVec, Option.map_map]
    cases hexDigit c with
    | none => rfl
    | some n =>
      rw [Option.bind_some, if_neg (by omega)]
      exact congrArg some (List.append_nil out).symm
  | case3 c d hex ih =>
    rw [List.flatMap_cons, List.flatMap_cons, hexBytesFrom_utf8EncodeChar, hexStrToVec]
    cases hhi : hexDigit c with
    | none => rfl
    | some hi =>
      rw [Option.bind_some, if_neg (by omega), hexBytesFrom_utf8EncodeChar]
      cases hlo : hexDigit d with
      | none => rfl
      | some lo =>
        rw [Option.bind_some, if_pos (by omega), shiftLeft_or_of_lt
          (digitChar_of_hexDigit hhi).1 (digitChar_of_hexDigit hlo).1, ih (by omega)]
        cases hexStrToVec hex with
        | none => rfl
        | some bytes => exact congrArg some (List.append_assoc ..)

theorem hexStrToVecOf_eq (hex : String) : hexStrToVecOf hex = hexStrToVec hex.toList := by
  rw [hexStrToVecOf, utf8Bytes_eq_flatMap, hexBytesFrom_flatMap rfl]
  exact Option.map_id_apply

/-! ### What is read is what was written -/

theorem hexStrToVec_map_toLower (hex : List Char) :
    hexStrToVec (hex.map Char.toLower) = hexStrToVec hex := by
  induction hex using hexStrToVec.induct with
  | case1 => rfl
  | case2 c => simp only [List.map_cons, List.map_nil, hexStrToVec, hexDigit_toLower]
  | case3 c d hex ih => simp only [List.map_cons, hexStrToVec, hexDigit_toLower, ih]

/-- No text is read if and only if some character is no digit. -/
theorem hexStrToVec_eq_none_iff {hex : List Char} :
    hexStrToVec hex = none ↔ ∃ c ∈ hex, hexDigit c = none := by
  induction hex using hexStrToVec.induct with
  | case1 => simp [hexStrToVec]
  | case2 c => simp [hexStrToVec]
  | case3 c d hex ih =>
    rw [hexStrToVec, List.exists_mem_cons_iff, List.exists_mem_cons_iff, ← ih]
    cases hexDigit c with
    | none => simp
    | some hi =>
      cases hexDigit d with
      | none => simp
      | some lo => cases hexStrToVec hex <;> simp

/-- What is read of an even number of digits is written in the same digits. -/
theorem flatMap_hexByte_of_hexStrToVec {hex : List Char} {bytes : List UInt8}
    (heven : hex.length % 2 = 0) (h : hexStrToVec hex = some bytes) :
    bytes.flatMap hexByte = hex.map Char.toLower := by
  induction hex using hexStrToVec.induct generalizing bytes with
  | case1 =>
    obtain rfl := Option.some.inj h
    rfl
  | case2 c => exact absurd heven (by simp)
  | case3 c d hex ih =>
    obtain ⟨hi, hhi, h⟩ := Option.bind_eq_some_iff.mp h
    obtain ⟨lo, hlo, h⟩ := Option.bind_eq_some_iff.mp h
    obtain ⟨out, hout, h⟩ := Option.bind_eq_some_iff.mp h
    obtain rfl := Option.some.inj h
    obtain ⟨hhi_lt, hhi⟩ := digitChar_of_hexDigit hhi
    obtain ⟨hlo_lt, hlo⟩ := digitChar_of_hexDigit hlo
    have hbyte : (UInt8.ofNat (16 * hi + lo)).toNat = 16 * hi + lo := by
      rw [UInt8.toNat_ofNat']
      omega
    have heven' : hex.length % 2 = 0 := by
      rw [List.length_cons, List.length_cons] at heven
      omega
    have hdiv : (16 * hi + lo) / 16 = hi := by omega
    have hmod : (16 * hi + lo) % 16 = lo := by omega
    rw [List.flatMap_cons, hexByte, hbyte, hdiv, hmod, hhi, hlo, ih heven' hout]
    rfl

theorem toLower_eq_map (s : String) : s.toLower = s.map Char.toLower := rfl

/-- Bytes that are written as a text in lower case are read of it. -/
theorem hexStrToVecOf_of_hexStr_eq {s : String} {bytes : List UInt8}
    (h : hexStr bytes = s.toLower) : hexStrToVecOf s = some bytes := by
  have hdigits : bytes.flatMap hexByte = s.toList.map Char.toLower := by
    rw [← String.toList_map, ← String.toList_ofList (l := bytes.flatMap hexByte)]
    exact congrArg String.toList h
  rw [hexStrToVecOf_eq, ← hexStrToVec_map_toLower, ← hdigits, hexStrToVec_flatMap_hexByte]

/-- Text is read as what is written so if and only if its digits come in pairs, or
some of its characters are no digits. -/
theorem hexStrToVecOf_exact_iff (s : String) :
    ((∀ v, hexStrToVecOf s = some v ↔ hexStr v = s.toLower) ↔
      s.length % 2 = 0 ∨ ∃ c ∈ s.toList, hexDigit c = none) ∧
    ∀ v, hexStrToVecOf (hexStr v) = some v := by
  refine ⟨⟨fun h => ?_, fun h v => ⟨fun hv => ?_, hexStrToVecOf_of_hexStr_eq⟩⟩, fun v => ?_⟩
  · by_contra hnot
    obtain ⟨hodd, hdigits⟩ := not_or.mp hnot
    obtain ⟨v, hv⟩ : ∃ v, hexStrToVec s.toList = some v :=
      Option.ne_none_iff_exists'.mp (mt hexStrToVec_eq_none_iff.mp hdigits)
    -- as many digits are written as twice the bytes
    have hwritten := (h v).mp ((hexStrToVecOf_eq s).trans hv)
    have hlength := congrArg String.length hwritten
    rw [hexStr, String.length_ofList, length_flatMap_hexByte, toLower_eq_map,
      String.length_map] at hlength
    omega
  · rw [hexStrToVecOf_eq] at hv
    rcases h with heven | hnone
    · rw [hexStr, flatMap_hexByte_of_hexStrToVec (String.length_toList ▸ heven) hv,
        ← String.toList_map, String.ofList_toList, toLower_eq_map]
    · rw [hexStrToVec_eq_none_iff.mpr hnone] at hv
      cases hv
  · rw [hexStrToVecOf_eq, hexStr, String.toList_ofList, hexStrToVec_flatMap_hexByte]

/-- A single digit is read as no bytes. -/
theorem reads_odd_digit : ¬(hexStrToVecOf "a" = some [] ↔ hexStr [] = "a".toLower) := by
  have hread : hexStrToVecOf "a" = some [] := by
    rw [hexStrToVecOf_eq]
    rfl
  intro h
  have hwritten := congrArg String.toList (h.mp hread)
  rw [toLower_eq_map, String.toList_map] at hwritten
  exact absurd hwritten (by decide)

end RgbLightningNode
