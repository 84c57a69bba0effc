import Mathlib.Data.List.Basic
import ResourceRoutes.Text.Percent

/-!
# Segment encoding reads back

`encodeSegment` writes a value's UTF-8 bytes, each byte that could end or change a path segment
as `%` and two uppercase hex digits. This module states the encoding in its own terms and reads
it back:

* `SegmentEscaped`: the escaped bytes as a set, `0x00–0x1F`, `0x7F`, every byte of `0x80` or
  more, and space, `"`, `#`, `%`, `/`, `<`, `>`, `?`, the backquote and both braces;
  `mustEncode_iff` says the encoder's test is that set;
* `encodeSegment_toList`: the encoded text, byte by byte, with standard hex digits in upper case;
* `decodeSegment_encodeSegment`: percent-decoding the encoded text and reading its bytes as UTF-8
  gives the value back, for every string;
* `segmentChar_of_mem_encodeSegment`: the encoded text holds `%` and ASCII characters whose bytes
  are not escaped, and nothing else, so it never ends or splits a segment.
-/

namespace ByteArray

private theorem toList_loop_eq (bs : ByteArray) (i : Nat) (r : List UInt8) :
    ByteArray.toList.loop bs i r = r.reverse ++ bs.data.toList.drop i := by
  induction i, r using ByteArray.toList.loop.induct bs with
  | case1 i r hlt ih =>
    rw [ByteArray.toList.loop, if_pos hlt, ih]
    have hi : i < bs.data.toList.length := by simpa using hlt
    have hget : bs.get! i = bs.data.toList[i] := by
      simp only [ByteArray.get!, Array.getElem_toList]
      exact getElem!_pos bs.data i (by simpa using hlt)
    rw [List.drop_eq_getElem_cons hi, hget]
    simp
  | case2 i r hge =>
    rw [ByteArray.toList.loop, if_neg hge]
    have : bs.data.toList.length ≤ i := by simpa using hge
    simp [List.drop_eq_nil_of_le this]

theorem toList_eq_data_toList (bs : ByteArray) : bs.toList = bs.data.toList := by
  rw [ByteArray.toList, toList_loop_eq]
  simp

@[simp] theorem toList_toByteArray (l : List UInt8) : l.toByteArray.toList = l := by
  rw [toList_eq_data_toList, List.toList_data_toByteArray]

@[simp] theorem toByteArray_toList (bs : ByteArray) : bs.toList.toByteArray = bs := by
  apply ByteArray.ext
  rw [← Array.toList_inj, List.toList_data_toByteArray, toList_eq_data_toList]

end ByteArray

namespace ResourceRoutes.Text

/-! ## The bytes of a string -/

/-- The UTF-8 bytes of a string are the bytes of its characters, in order. -/
theorem toUTF8_toList (s : String) : s.toUTF8.toList = s.toList.flatMap String.utf8EncodeChar := by
  conv => lhs; rw [← String.ofList_toList (s := s)]
  rw [String.toUTF8_eq_toByteArray, String.toByteArray_ofList, List.utf8Encode,
    ByteArray.toList_toByteArray]

/-- An ASCII character is one byte, its own code. -/
theorem utf8EncodeChar_of_ascii {c : Char} (h : c.toNat < 0x80) :
    String.utf8EncodeChar c = [c.toUInt8] := by
  rw [String.utf8EncodeChar_eq_singleton, Char.toUInt8_val]
  rw [Char.utf8Size_eq_one_iff, UInt32.le_iff_toNat_le]
  exact Nat.le_of_lt_succ h

theorem flatMap_utf8EncodeChar_of_ascii {l : List Char} (h : ∀ c ∈ l, c.toNat < 0x80) :
    l.flatMap String.utf8EncodeChar = l.map Char.toUInt8 := by
  induction l with
  | nil => rfl
  | cons c l ih =>
    rw [List.flatMap_cons, List.map_cons, utf8EncodeChar_of_ascii (h c (by simp)),
      ih fun d hd => h d (by simp [hd])]
    rfl

/-- A string's bytes read as UTF-8 give the string. -/
theorem fromUTF8?_toUTF8 (s : String) : String.fromUTF8? s.toUTF8 = some s := by
  unfold String.fromUTF8?
  rw [String.toUTF8_eq_toByteArray, dif_pos s.isValidUTF8]
  rfl

/-! ## The escaped bytes -/

/-- The bytes a segment writes as `%` and two hex digits: the control bytes, every byte of
`0x80` or more, and space, `"`, `#`, `%`, `/`, `<`, `>`, `?`, the backquote, `{` and `}`. -/
def SegmentEscaped (b : UInt8) : Prop :=
  b.toNat < 0x20 ∨ b.toNat = 0x7F ∨ 0x80 ≤ b.toNat ∨
    b.toNat ∈ [0x20, 0x22, 0x23, 0x25, 0x2F, 0x3C, 0x3E, 0x3F, 0x60, 0x7B, 0x7D]

instance (b : UInt8) : Decidable (SegmentEscaped b) :=
  inferInstanceAs (Decidable (b.toNat < 0x20 ∨ b.toNat = 0x7F ∨ 0x80 ≤ b.toNat ∨
    b.toNat ∈ [0x20, 0x22, 0x23, 0x25, 0x2F, 0x3C, 0x3E, 0x3F, 0x60, 0x7B, 0x7D]))

/-- The encoder's test is the escaped set. -/
theorem mustEncode_iff (b : UInt8) : mustEncode b = true ↔ SegmentEscaped b := by
  simp only [mustEncode, SegmentEscaped, Bool.or_eq_true, decide_eq_true_eq, beq_iff_eq,
    UInt8.lt_iff_toNat_lt, UInt8.le_iff_toNat_le, ← UInt8.toNat_inj, UInt8.toNat_ofNat,
    List.mem_cons, List.not_mem_nil, Nat.reducePow, Nat.reduceMod, or_false]
  omega

/-- The percent sign is escaped, so a `%` in encoded text always starts an escape. -/
theorem mustEncode_percent : mustEncode 0x25 = true := by decide

/-! ## Hex digits -/

/-- The value of a hex digit's byte, in either case. -/
def hexValue (b : UInt8) : Option Nat :=
  if 0x30 ≤ b.toNat ∧ b.toNat ≤ 0x39 then some (b.toNat - 0x30)
  else if 0x41 ≤ b.toNat ∧ b.toNat ≤ 0x46 then some (b.toNat - 0x37)
  else if 0x61 ≤ b.toNat ∧ b.toNat ≤ 0x66 then some (b.toNat - 0x57)
  else none

-- Each fact below is about the sixteen digits alone, so it is checked digit by digit.
private theorem hexUpper_digits :
    ∀ n : Fin 16, hexUpper n = (Nat.digitChar n).toUpper ∧
      hexValue (hexUpper n).toUInt8 = some n ∧ (hexUpper n).toNat < 0x80 ∧
      ¬ SegmentEscaped (hexUpper n).toUInt8 := by
  decide

/-- An uppercase hex digit is the standard digit, in upper case. -/
theorem hexUpper_eq_toUpper_digitChar {n : Nat} (h : n < 16) :
    hexUpper n = (Nat.digitChar n).toUpper :=
  (hexUpper_digits ⟨n, h⟩).1

theorem hexValue_hexUpper {n : Nat} (h : n < 16) : hexValue (hexUpper n).toUInt8 = some n :=
  (hexUpper_digits ⟨n, h⟩).2.1

theorem hexUpper_ascii {n : Nat} (h : n < 16) : (hexUpper n).toNat < 0x80 :=
  (hexUpper_digits ⟨n, h⟩).2.2.1

theorem hexUpper_not_escaped {n : Nat} (h : n < 16) : ¬ SegmentEscaped (hexUpper n).toUInt8 :=
  (hexUpper_digits ⟨n, h⟩).2.2.2

/-! ## One byte's text -/

section Byte

variable {b : UInt8}

/-- A byte's two hex digits are digits. -/
theorem toNat_div_sixteen_lt (b : UInt8) : b.toNat / 16 < 16 :=
  Nat.div_lt_of_lt_mul (by simpa using b.toNat_lt)

theorem toNat_mod_sixteen_lt (b : UInt8) : b.toNat % 16 < 16 := Nat.mod_lt _ (by decide)

/-- A byte that stands as itself is below `0x7F`, so it is the ASCII character of its code. -/
theorem plain_lt (hb : mustEncode b = false) : b.toNat < 0x7F := by
  have : ¬ (0x7F ≤ b.toNat) := fun h => by
    simp [mustEncode, UInt8.le_iff_toNat_le, h] at hb
  omega

theorem toNat_ofNat_plain (hb : mustEncode b = false) : (Char.ofNat b.toNat).toNat = b.toNat := by
  have hv : b.toNat.isValidChar := Or.inl (by have := plain_lt hb; omega)
  rw [Char.ofNat, dif_pos hv]
  rfl

theorem toUInt8_ofNat_plain (hb : mustEncode b = false) : (Char.ofNat b.toNat).toUInt8 = b := by
  rw [← UInt8.toNat_inj, ← Char.toUInt8_val, UInt32.toNat_toUInt8]
  have h := toNat_ofNat_plain hb
  simp only [Char.toNat] at h
  rw [h]
  exact Nat.mod_eq_of_lt b.toNat_lt

/-- A character an encoded segment may hold: `%`, which starts an escape, or an ASCII character
whose byte is not escaped. -/
def SegmentChar (c : Char) : Prop := c = '%' ∨ (c.toNat < 0x80 ∧ ¬ SegmentEscaped c.toUInt8)

theorem SegmentChar.ascii {c : Char} (h : SegmentChar c) : c.toNat < 0x80 := by
  rcases h with rfl | ⟨hc, -⟩
  · decide
  · exact hc

theorem segmentChar_of_mem_encodeByte {c : Char} (hc : c ∈ encodeByte b) : SegmentChar c := by
  unfold encodeByte at hc
  split at hc
  · simp only [List.mem_cons, List.not_mem_nil, or_false] at hc
    rcases hc with rfl | rfl | rfl
    · exact Or.inl rfl
    · exact Or.inr ⟨hexUpper_ascii (toNat_div_sixteen_lt b), hexUpper_not_escaped (toNat_div_sixteen_lt b)⟩
    · exact Or.inr ⟨hexUpper_ascii (toNat_mod_sixteen_lt b), hexUpper_not_escaped (toNat_mod_sixteen_lt b)⟩
  · rename_i hb
    have hplain : mustEncode b = false := by simpa using hb
    rw [List.mem_singleton.1 hc]
    refine Or.inr ⟨by rw [toNat_ofNat_plain hplain]; have := plain_lt hplain; omega, ?_⟩
    rw [toUInt8_ofNat_plain hplain, ← mustEncode_iff]
    simpa using hb

/-- The bytes of one byte's text: `%` and two hex digits, or the byte itself. -/
theorem encodeByte_toUInt8 (b : UInt8) :
    (encodeByte b).map Char.toUInt8 =
      if mustEncode b then [0x25, (hexUpper (b.toNat / 16)).toUInt8, (hexUpper (b.toNat % 16)).toUInt8]
      else [b] := by
  unfold encodeByte
  split
  · rfl
  · rename_i hb
    rw [List.map_singleton, toUInt8_ofNat_plain (by simpa using hb)]

end Byte

/-! ## Percent-decoding -/

/-- Percent-decoding of bytes: `%` and two hex digits of either case stand for the byte they
spell; every other byte stands for itself. -/
def percentDecode : List UInt8 → List UInt8
  | [] => []
  | b :: rest@(h :: l :: more) =>
    if b = 0x25 then
      match hexValue h, hexValue l with
      | some x, some y => UInt8.ofNat (16 * x + y) :: percentDecode more
      | _, _ => b :: percentDecode rest
    else b :: percentDecode rest
  | b :: rest => b :: percentDecode rest

theorem percentDecode_escape {h l : UInt8} {x y : Nat} (hx : hexValue h = some x)
    (hy : hexValue l = some y) (rest : List UInt8) :
    percentDecode (0x25 :: h :: l :: rest) = UInt8.ofNat (16 * x + y) :: percentDecode rest := by
  simp [percentDecode, hx, hy]

theorem percentDecode_plain {b : UInt8} (hb : b ≠ 0x25) (rest : List UInt8) :
    percentDecode (b :: rest) = b :: percentDecode rest := by
  rcases rest with _ | ⟨h, _ | ⟨l, more⟩⟩ <;> simp [percentDecode, hb]

/-- Decoding reads one byte's text back as the byte. -/
theorem percentDecode_encodeByte (b : UInt8) (rest : List UInt8) :
    percentDecode ((encodeByte b).map Char.toUInt8 ++ rest) = b :: percentDecode rest := by
  rw [encodeByte_toUInt8]
  split
  · rw [List.cons_append, List.cons_append, List.cons_append, List.nil_append,
      percentDecode_escape (hexValue_hexUpper (toNat_div_sixteen_lt b))
        (hexValue_hexUpper (toNat_mod_sixteen_lt b))]
    -- the two digits spell the byte's value
    have hval : 16 * (b.toNat / 16) + b.toNat % 16 = b.toNat := Nat.div_add_mod _ _
    rw [hval, UInt8.ofNat_toNat]
  · rename_i hb
    have hne : b ≠ 0x25 := fun h => by simp [h, mustEncode_percent] at hb
    rw [List.singleton_append, percentDecode_plain hne]

theorem percentDecode_flatMap_encodeByte (bs : List UInt8) :
    percentDecode (bs.flatMap fun b => (encodeByte b).map Char.toUInt8) = bs := by
  induction bs with
  | nil => simp [percentDecode]
  | cons b bs ih => rw [List.flatMap_cons, percentDecode_encodeByte, ih]

/-! ## The encoded segment -/

/-- The bytes of an encoded segment: each byte of the value, as its text. -/
theorem toUTF8_encodeSegment (v : String) :
    (encodeSegment v).toUTF8.toList = v.toUTF8.toList.flatMap fun b => (encodeByte b).map Char.toUInt8 := by
  have hascii : ∀ c ∈ v.toUTF8.toList.flatMap encodeByte, c.toNat < 0x80 := by
    intro c hc
    obtain ⟨b, -, hb⟩ := List.mem_flatMap.1 hc
    exact (segmentChar_of_mem_encodeByte hb).ascii
  rw [toUTF8_toList, encodeSegment, String.toList_ofList, flatMap_utf8EncodeChar_of_ascii hascii,
    List.map_flatMap]

/-- Reading a segment: percent-decode its bytes, then read them as UTF-8. -/
def decodeSegment (s : String) : Option String :=
  String.fromUTF8? (percentDecode s.toUTF8.toList).toByteArray

/-- Every value is read back from its segment. -/
theorem decodeSegment_encodeSegment (v : String) : decodeSegment (encodeSegment v) = some v := by
  rw [decodeSegment, toUTF8_encodeSegment, percentDecode_flatMap_encodeByte,
    ByteArray.toByteArray_toList, fromUTF8?_toUTF8]

/-- The encoding in the escaped set's terms: an escaped byte is `%` and its two standard hex
digits in upper case, any other byte the character of its code. -/
theorem encodeByte_eq (b : UInt8) :
    encodeByte b =
      if SegmentEscaped b then
        ['%', (Nat.digitChar (b.toNat / 16)).toUpper, (Nat.digitChar (b.toNat % 16)).toUpper]
      else [Char.ofNat b.toNat] := by
  unfold encodeByte
  by_cases hb : SegmentEscaped b
  · rw [if_pos ((mustEncode_iff b).2 hb), if_pos hb,
      hexUpper_eq_toUpper_digitChar (toNat_div_sixteen_lt b),
      hexUpper_eq_toUpper_digitChar (toNat_mod_sixteen_lt b)]
  · rw [if_neg (fun h => hb ((mustEncode_iff b).1 h)), if_neg hb]

theorem encodeSegment_toList (v : String) :
    (encodeSegment v).toList = v.toUTF8.toList.flatMap fun b =>
      if SegmentEscaped b then
        ['%', (Nat.digitChar (b.toNat / 16)).toUpper, (Nat.digitChar (b.toNat % 16)).toUpper]
      else [Char.ofNat b.toNat] := by
  rw [encodeSegment, String.toList_ofList]
  congr 1
  funext b
  exact encodeByte_eq b

/-- An encoded segment holds only segment characters. -/
theorem segmentChar_of_mem_encodeSegment {v : String} {c : Char} (hc : c ∈ (encodeSegment v).toList) :
    SegmentChar c := by
  rw [encodeSegment, String.toList_ofList] at hc
  obtain ⟨b, -, hb⟩ := List.mem_flatMap.1 hc
  exact segmentChar_of_mem_encodeByte hb

end ResourceRoutes.Text
