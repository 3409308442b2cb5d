import AssetStore.Config
import AssetStore.Proofs.Bytes
/-!
# Keys written as text read back

A key is written as lowercase hex, two digits a byte, and a configured key is read back from
that text. The digits are ASCII and none is blank, so trimming keeps the text, its UTF-8 bytes
are its characters one for one, and decoding the pairs of digits gives back each byte. So the
hex text of every key reads back to the key (`Key.parseHex_hex`), and a configuration that holds
it yields it (`StorageConfig.parseKey_hex`).
-/

namespace AssetStore

/-- The loop that lists a byte array's bytes lists what its array holds from `i` on. -/
theorem ByteArray.toList_loop (bytes : ByteArray) (i : Nat) (r : List UInt8) :
    ByteArray.toList.loop bytes i r = r.reverse ++ bytes.data.toList.drop i := by
  fun_induction ByteArray.toList.loop bytes i r with
  | case1 i r inside inductionHypothesis =>
    have within : i < bytes.data.toList.length := by simpa using inside
    rw [inductionHypothesis, List.drop_eq_getElem_cons within]
    simp [ByteArray.get!, inside]
  | case2 i r outside =>
    rw [List.drop_eq_nil_of_le (by simpa using Nat.le_of_not_lt outside)]
    simp

theorem ByteArray.toList_eq (bytes : ByteArray) : bytes.toList = bytes.data.toList := by
  rw [ByteArray.toList, ByteArray.toList_loop]
  simp

namespace Text.Hex

theorem digits_of_lt (n : Nat) (small : n < 256) :
    digits n = if n < 16 then [digit n] else [digit (n / 16), digit (n % 16)] := by
  rw [digits]
  split
  · rfl
  · rw [digits, if_pos (by omega)]
    rfl

theorem toList_byte (b : UInt8) :
    (byte b).toList = [digit (b.toNat / 16), digit (b.toNat % 16)] := by
  have small := b.toNat_lt
  rw [byte, padded, digits_of_lt _ small, String.toList_ofList]
  split
  · rename_i low
    rw [Nat.div_eq_of_lt low, Nat.mod_eq_of_lt low]
    rfl
  · rfl

theorem toList_encode (bytes : List UInt8) :
    (encode bytes).toList = bytes.flatMap fun b => [digit (b.toNat / 16), digit (b.toNat % 16)] := by
  rw [encode, String.toList_join, List.flatMap_map]
  simp only [toList_byte]

/-! ### Digits -/

theorem digit_ascii : ∀ n < 16, (digit n).utf8Size = 1 := by decide

theorem digitValue?_digit : ∀ n < 16, digitValue? (digit n).val.toUInt8 = some (UInt8.ofNat n) := by
  decide

theorem pair_eq : ∀ n < 256,
    UInt8.ofNat (n / 16) <<< 4 ||| UInt8.ofNat (n % 16) = UInt8.ofNat n := by
  decide +kernel

/-! ### Reading the text back -/

theorem decodePairs_digits (position : Nat) (bytes : List UInt8) :
    decodePairs position (bytes.flatMap fun b =>
      [(digit (b.toNat / 16)).val.toUInt8, (digit (b.toNat % 16)).val.toUInt8]) = .ok bytes := by
  induction bytes generalizing position with
  | nil => rfl
  | cons b rest inductionHypothesis =>
    have small := b.toNat_lt
    rw [List.flatMap_cons, List.cons_append, List.cons_append, List.nil_append, decodePairs,
      digitValue?_digit _ (Nat.div_lt_of_lt_mul (by omega)),
      digitValue?_digit _ (Nat.mod_lt _ (by omega))]
    simp only [Option.elim, bind, Except.bind, inductionHypothesis, pure, Except.pure]
    rw [pair_eq _ small, UInt8.ofNat_toNat]

/-- The UTF-8 bytes of hex text are its digits, one byte each. -/
theorem utf8_encode (bytes : List UInt8) :
    Text.Utf8.encode (encode bytes) = bytes.flatMap fun b =>
      [(digit (b.toNat / 16)).val.toUInt8, (digit (b.toNat % 16)).val.toUInt8] := by
  rw [Text.Utf8.encode, String.toUTF8_eq_toByteArray, ← String.ofList_toList (s := encode bytes),
    String.toByteArray_ofList, ByteArray.toList_eq, List.utf8Encode, List.toList_data_toByteArray,
    toList_encode, List.flatMap_assoc]
  congr 1
  funext b
  have small := b.toNat_lt
  rw [List.flatMap_cons, List.flatMap_cons, List.flatMap_nil,
    String.utf8EncodeChar_eq_singleton (digit_ascii _ (Nat.div_lt_of_lt_mul (by omega))),
    String.utf8EncodeChar_eq_singleton (digit_ascii _ (Nat.mod_lt _ (by omega)))]
  rfl


theorem digit_not_blank : ∀ n < 16, Text.Blank.isBlank (digit n) = false := by decide

/-- Hex text reads back to the bytes it was written from. -/
theorem decode_encode (bytes : List UInt8) :
    decode (Text.Utf8.encode (encode bytes)) = .ok bytes := by
  have even : (bytes.flatMap fun b =>
      [(digit (b.toNat / 16)).val.toUInt8, (digit (b.toNat % 16)).val.toUInt8]).length =
      2 * bytes.length := by
    induction bytes with
    | nil => rfl
    | cons b rest inductionHypothesis =>
      rw [List.flatMap_cons, List.length_append, inductionHypothesis]
      simp only [List.length_cons, List.length_nil]
      omega
  rw [utf8_encode, decode, if_neg (by omega), decodePairs_digits]

end Text.Hex

namespace Text.Blank

/-- A text with no blank characters is its own trimmed text. -/
theorem trimList_of_not_blank (cs : List Char) (none : ∀ c ∈ cs, isBlank c = false) :
    trimList cs = cs := by
  have kept : ∀ ds : List Char, (∀ c ∈ ds, isBlank c = false) → ds.dropWhile isBlank = ds := by
    intro ds noBlank
    cases ds with
    | nil => rfl
    | cons c ds => simp [List.dropWhile, noBlank c List.mem_cons_self]
  rw [trimList, kept cs none, kept cs.reverse fun c member => none c (List.mem_reverse.mp member),
    List.reverse_reverse]

theorem trim_hex (bytes : List UInt8) : trim (Text.Hex.encode bytes) = Text.Hex.encode bytes := by
  rw [trim, trimList_of_not_blank, String.ofList_toList]
  intro c member
  rw [Text.Hex.toList_encode, List.mem_flatMap] at member
  obtain ⟨b, -, pair⟩ := member
  have small := b.toNat_lt
  rcases List.mem_cons.mp pair with high | low
  · rw [high]
    exact Text.Hex.digit_not_blank _ (Nat.div_lt_of_lt_mul (by omega))
  · rw [List.mem_singleton.mp low]
    exact Text.Hex.digit_not_blank _ (Nat.mod_lt _ (by omega))

end Text.Blank

namespace Key

theorem parseHex_hex (k : Key) : parseHex k.hex = .ok k := by
  rw [parseHex, hex, Text.Blank.trim_hex, Text.Hex.decode_encode]
  show ofBytes k.bytes = .ok k
  rw [ofBytes, ofBytes?_of_ne_nil k.bytes k.nonempty]

end Key

namespace StorageConfig

/-- A key configured as its hex text is read back as that key. -/
theorem parseKey_hex (field : String) (k : Key) : parseKey field k.hex = .ok k := by
  have chars : (Text.Hex.encode k.bytes).toList ≠ [] := by
    obtain ⟨b, rest, split⟩ := List.exists_cons_of_ne_nil k.nonempty
    rw [Text.Hex.toList_encode, split]
    simp
  have written : (Text.Blank.trim k.hex).isEmpty = false := by
    rw [Key.hex, Text.Blank.trim_hex]
    simpa using fun empty => chars (by rw [empty]; rfl)
  rw [parseKey, if_neg (by simp [written]), Key.parseHex_hex]

end StorageConfig

end AssetStore
