/-
**Pairs of texts are read as they were written.**

What is written of a key or a value is letters, digits, a few signs, plus signs, and percent signs with two
digits: no ampersand and no equals sign, which separate one from the other. So the segments of a line are the
pairs, and what stands in a segment has the bytes of the texts, down to the last space and percent sign.

* `written_eq` — what is written of a byte is ASCII.
* `decodeBytes_written` — it is read as the byte, whatever follows it.
* `segments_eq_splitOn` — segments are what a list is split into.
* `decode_encode` — a line that was written of pairs is read as the pairs.
-/

import ReactiveView.Proofs.Text.Utf8
import ReactiveView.Text.FormEncoding

namespace ReactiveView

theorem Utf8.encode_append (left right : List Char) :
    Utf8.encode (left ++ right) = Utf8.encode left ++ Utf8.encode right :=
  List.flatMap_append

namespace FormEncoding

/-! ### Bytes -/

/-- The bytes that are written of a byte. -/
def written (byte : UInt8) : List UInt8 := Utf8.encode (encodeByte byte)

/-- The byte of a hexadecimal digit in upper case. -/
def hexByte (digit : Nat) : UInt8 := UInt8.ofNat (hexDigit digit).toNat

theorem hexValue?_hexByte : ∀ digit < 16, hexValue? (hexByte digit) = some (UInt8.ofNat digit) := by
  decide

/-- A digit is one byte, and neither separates segments nor their halves. -/
theorem encode_hexDigit : ∀ digit < 16, String.utf8EncodeChar (hexDigit digit) = [hexByte digit] ∧
    hexByte digit ≠ 0x26 ∧ hexByte digit ≠ 0x3D := by
  decide

/-- A byte that stands for itself is ASCII. -/
theorem isPlain_lt {byte : UInt8} (plain : isPlain byte = true) : byte.toNat < 0x80 := by
  simp only [isPlain, Bool.or_eq_true, Bool.and_eq_true, decide_eq_true_iff, beq_iff_eq,
    UInt8.le_iff_toNat_le, ← UInt8.toNat_inj, UInt8.reduceToNat] at plain
  omega

/-- A character of ASCII is one byte. -/
theorem encodeChar_ofNat {number : Nat} (small : number < 0x80) :
    String.utf8EncodeChar (Char.ofNat number) = [UInt8.ofNat number] := by
  have code : (Char.ofNat number).val.toNat = number := by
    rw [Char.ofNat, dif_pos (Or.inl (by omega))]
    rfl
  rw [String.utf8EncodeChar, code, if_pos (by omega)]

/-- **What is written of a byte is ASCII**: the byte itself, a plus sign, or a percent sign and two digits. -/
theorem written_eq (byte : UInt8) : written byte =
    if isPlain byte then [byte]
    else if byte = 0x20 then [0x2B]
    else [0x25, hexByte (byte.toNat / 16), hexByte (byte.toNat % 16)] := by
  have small := byte.toNat_lt
  have high := (encode_hexDigit (byte.toNat / 16) (by omega)).1
  have low := (encode_hexDigit (byte.toNat % 16) (by omega)).1
  have percent : String.utf8EncodeChar '%' = [0x25] := by decide
  rw [written, encodeByte]
  by_cases plain : isPlain byte = true
  · rw [if_pos plain, if_pos plain, Utf8.encode, List.flatMap_singleton,
      encodeChar_ofNat (isPlain_lt plain), UInt8.ofNat_toNat]
  · rw [if_neg plain, if_neg plain]
    by_cases space : byte = 0x20
    · rw [if_pos space, if_pos (beq_iff_eq.mpr space)]
      decide
    · rw [if_neg space, if_neg (by simpa using space)]
      simp [Utf8.encode, percent, high, low]

/-- A byte that stands for itself is none of those that are written for others or between them. -/
theorem isPlain_ne {byte : UInt8} (plain : isPlain byte = true) :
    byte ≠ 0x25 ∧ byte ≠ 0x2B ∧ byte ≠ 0x26 ∧ byte ≠ 0x3D := by
  refine ⟨?_, ?_, ?_, ?_⟩ <;>
  · rintro rfl
    cases plain

/-- Nothing that is written of a byte separates segments or their halves. -/
theorem noSeparator_written {source byte : UInt8} (member : byte ∈ written source) :
    byte ≠ 0x26 ∧ byte ≠ 0x3D := by
  rw [written_eq] at member
  split_ifs at member with plain space
  · rw [List.mem_singleton.mp member]
    exact (isPlain_ne plain).2.2
  · rw [List.mem_singleton.mp member]
    decide
  · have small := source.toNat_lt
    have high := (encode_hexDigit (source.toNat / 16) (by omega)).2
    have low := (encode_hexDigit (source.toNat % 16) (by omega)).2
    simp only [List.mem_cons, List.not_mem_nil, or_false] at member
    rcases member with rfl | rfl | rfl
    · decide
    · exact high
    · exact low

/-- A byte that is no percent sign is read on its own. -/
theorem decodeBytes_cons {byte : UInt8} (noPercent : byte ≠ 0x25) (rest : List UInt8) :
    decodeBytes (byte :: rest) = (if byte = 0x2B then 0x20 else byte) :: decodeBytes rest := by
  have other : (byte == 0x25) = false := beq_eq_false_iff_ne.mpr noPercent
  match rest with
  | [] => simp [decodeBytes]
  | [high] => simp [decodeBytes]
  | high :: low :: rest =>
    rw [decodeBytes, other]
    simp

/-- **What is written of a byte is read as the byte**, whatever follows it. -/
theorem decodeBytes_written (byte : UInt8) (rest : List UInt8) :
    decodeBytes (written byte ++ rest) = byte :: decodeBytes rest := by
  rw [written_eq]
  split_ifs with plain space
  · obtain ⟨noPercent, noPlus, -⟩ := isPlain_ne plain
    rw [List.singleton_append, decodeBytes_cons noPercent, if_neg noPlus]
  · subst space
    exact decodeBytes_cons (show (0x2B : UInt8) ≠ 0x25 by decide) rest
  · have small := byte.toNat_lt
    have high := hexValue?_hexByte (byte.toNat / 16) (by omega)
    have low := hexValue?_hexByte (byte.toNat % 16) (by omega)
    have both : UInt8.ofNat (byte.toNat / 16) * 16 + UInt8.ofNat (byte.toNat % 16) = byte := by
      have whole : byte.toNat / 16 * 16 + byte.toNat % 16 = byte.toNat := by omega
      rw [show (16 : UInt8) = UInt8.ofNat 16 from rfl, ← UInt8.ofNat_mul, ← UInt8.ofNat_add, whole,
        UInt8.ofNat_toNat]
    rw [List.cons_append, List.cons_append, List.cons_append, List.nil_append, decodeBytes, high, low]
    simp [both]

/-! ### Keys and values -/

/-- The bytes of a key or a value as it is written. -/
def writtenText (text : List Char) : List UInt8 := (Utf8.encode text).flatMap written

theorem encode_component (text : List Char) : Utf8.encode (component text) = writtenText text := by
  rw [component, Utf8.encode, List.flatMap_assoc]
  rfl

/-- **A key or a value is read as it was written.** -/
theorem decodeComponent_written (text : List Char) :
    decodeComponent (writtenText text) = String.ofList text := by
  have bytes (listed : List UInt8) : decodeBytes (listed.flatMap written) = listed := by
    induction listed with
    | nil => rfl
    | cons byte rest ih => rw [List.flatMap_cons, decodeBytes_written, ih]
  rw [decodeComponent, writtenText, bytes, Utf8.decode_encode]

/-- No byte of a key or a value separates segments or their halves. -/
theorem noSeparator_writtenText {text : List Char} {byte : UInt8} (member : byte ∈ writtenText text) :
    byte ≠ 0x26 ∧ byte ≠ 0x3D := by
  obtain ⟨_, -, inside⟩ := List.mem_flatMap.mp member
  exact noSeparator_written inside

/-! ### Segments -/

/-- **Segments are what a list is split into.** -/
theorem segments_eq_splitOn (separator : UInt8) (bytes : List UInt8) :
    segments separator bytes = bytes.splitOn separator := by
  induction bytes with
  | nil => rfl
  | cons byte rest ih =>
    unfold List.splitOn at ih ⊢
    rw [segments, ih, List.splitOnP_cons_eq_if_modifyHead]
    cases parts : List.splitOnP (· == separator) rest with
    | nil => exact absurd parts (List.splitOnP_ne_nil _ rest)
    | cons first others => rfl

/-- The bytes of one pair. -/
def writtenPair (pair : String × String) : List UInt8 :=
  writtenText pair.1.toList ++ 0x3D :: writtenText pair.2.toList

/-- A segment is read as the pair it was written of. -/
theorem decodeSegment_written (pair : String × String) : decodeSegment (writtenPair pair) = pair := by
  have key : (writtenPair pair).takeWhile (· != 0x3D) = writtenText pair.1.toList := by
    rw [writtenPair, List.takeWhile_append_of_pos fun byte member => ?_]
    · simp
    · simpa using (noSeparator_writtenText member).2
  rw [decodeSegment, key]
  simp [writtenPair, decodeComponent_written]

/-- No ampersand is in a segment. -/
theorem notMem_writtenPair (pair : String × String) : (0x26 : UInt8) ∉ writtenPair pair := by
  intro member
  rcases List.mem_append.mp member with key | behind
  · exact (noSeparator_writtenText key).1 rfl
  · rcases List.mem_cons.mp behind with equals | value
    · cases equals
    · exact (noSeparator_writtenText value).1 rfl

/-! ### Lines -/

/-- The bytes of a line are those of its pairs with ampersands in between. -/
theorem encode_join (pieces : List (List Char)) :
    Utf8.encode (Text.join ['&'] pieces) = [(0x26 : UInt8)].intercalate (pieces.map Utf8.encode) := by
  unfold Text.join
  induction pieces with
  | nil => rfl
  | cons first rest ih =>
    cases rest with
    | nil => simp
    | cons second rest =>
      rw [List.intercalate_cons_cons, List.map_cons, List.map_cons, List.intercalate_cons_cons,
        Utf8.encode_append, Utf8.encode_append, ih]
      rfl

theorem encode_toList (pairs : List (String × String)) :
    Utf8.encode (encode pairs).toList = [(0x26 : UInt8)].intercalate (pairs.map writtenPair) := by
  rw [encode, String.toList_ofList, encode_join, List.map_map]
  congr 1
  refine List.map_congr_left fun pair _ => ?_
  rw [Function.comp_apply, ← List.singleton_append, Utf8.encode_append, Utf8.encode_append,
    encode_component, encode_component]
  rfl

/-- **A line that was written of pairs is read as the pairs.** -/
theorem decode_encode (pairs : List (String × String)) : decode (encode pairs) = pairs := by
  rw [decode, encode_toList, segments_eq_splitOn]
  cases pairs with
  | nil => rfl
  | cons first rest =>
    have whole : ∀ piece ∈ (first :: rest).map writtenPair, (0x26 : UInt8) ∉ piece := by
      intro piece member
      obtain ⟨pair, -, rfl⟩ := List.mem_map.mp member
      exact notMem_writtenPair pair
    have filled : ∀ piece ∈ (first :: rest).map writtenPair, (!piece.isEmpty) = true := by
      intro piece member
      obtain ⟨pair, -, rfl⟩ := List.mem_map.mp member
      simp [writtenPair]
    rw [List.splitOn_intercalate _ whole (List.cons_ne_nil _ _), List.filter_eq_self.mpr filled,
      List.map_map]
    exact List.map_id'' decodeSegment_written _

end FormEncoding

end ReactiveView
