import AssetStore.Proofs.IndexFile
import AssetStore.Proofs.EncodingWellFormed
/-!
# Index files are read within their bounds

`IndexFile.parse` answers every byte string, and this file shows what it reads to do so. It
refuses the bytes, as a malformed index, or it has checked the header (`HeaderAccepted`): the
guard, the header and the entry guard are there, the key is one to sixteen bytes wide, the
location and size fields are five and four bytes wide, and the entry block fits in the bytes after
the entry guard. Then the records the block counts, each `keyWidth + 9` bytes and so never empty,
all lie within the bytes (`recordAt`), and no record is read short.

Each entry read is what a record in use says (`ReadFrom`): its key is the first nine bytes at
most of a record key that is not all zero, and its shard and offset fit the ten and thirty bits of
a location. The maximum shard number only refuses: reading with a maximum gives what reading with
no effective maximum gives, when every shard read is within it, and a refusal otherwise
(`parse_within_maximum`).

The main statement is `parse_reads_within_bounds`.
-/

namespace AssetStore

namespace IndexFile

theorem unpackLocation_lt {high word : Nat} (byte : high < 256) (fits : word < 2 ^ 32) :
    (unpackLocation high word).1 < 1024 ∧ (unpackLocation high word).2 < 2 ^ 30 := by
  unfold unpackLocation
  constructor <;> omega

/-! ### The header -/

/-- The width of the keys, as the header gives it. -/
def keyWidth (data : List UInt8) : Nat := (data.getD 14 0).toNat

/-- The length of a record: its key, a 5-byte location and a 4-byte size. -/
def recordLength (data : List UInt8) : Nat := keyWidth data + 9

/-- The size of the entry block, as the entry guard gives it. -/
def blockLength (data : List UInt8) : Nat := Bytes.le (Bytes.slice data 32 4)

/-- The number of whole records in the entry block. -/
def recordCount (data : List UInt8) : Nat := blockLength data / recordLength data

/-- The bytes of record `i`. -/
def recordAt (data : List UInt8) (i : Nat) : List UInt8 :=
  Bytes.slice data (recordsStart + i * recordLength data) (recordLength data)

/-- The header passes every check made before the records are read. -/
structure HeaderAccepted (data : List UInt8) : Prop where
  long : recordsStart ≤ data.length
  keyWidth_pos : 0 < keyWidth data
  keyWidth_le : keyWidth data ≤ 16
  locationWidth : (data.getD 13 0).toNat = 5
  sizeWidth : (data.getD 12 0).toNat = 4
  blockFits : blockLength data ≤ data.length - recordsStart

/-- With the header accepted, the records are read from the end of the entry guard. -/
theorem parse_of_accepted {data : List UInt8} (accepted : HeaderAccepted data) (maxShard : Nat) :
    parse data maxShard =
      parseRecords (keyWidth data) maxShard (recordCount data) 0 (data.drop recordsStart) [] := by
  have long := accepted.long
  have keyWidth_pos := accepted.keyWidth_pos
  have keyWidth_le := accepted.keyWidth_le
  have blockFits := accepted.blockFits
  unfold parse
  rw [if_neg (by unfold recordsStart at long; omega)]
  dsimp only
  rw [if_neg (by unfold keyWidth at keyWidth_pos keyWidth_le; omega),
    if_neg (by rw [accepted.locationWidth, accepted.sizeWidth]; decide), if_neg (by omega),
    if_neg (by unfold blockLength at blockFits; omega)]
  rfl

/-- Bytes are read as entries only once their header is accepted. -/
theorem accepted_of_parse {data : List UInt8} {maxShard : Nat} {es : List IndexEntry}
    (read : parse data maxShard = .ok es) : HeaderAccepted data := by
  unfold parse at read
  split at read
  · cases read
  · next short =>
    dsimp only at read
    split at read
    · cases read
    · next widthOk =>
      split at read
      · cases read
      · next fieldsOk =>
        split at read
        · cases read
        · next long =>
          split at read
          · cases read
          · next fits =>
            refine ⟨by omega, ?_, ?_, ?_, ?_, by unfold blockLength; omega⟩
            · unfold keyWidth
              omega
            · unfold keyWidth
              omega
            · exact (not_or.mp fieldsOk).1 |> not_not.mp
            · exact (not_or.mp fieldsOk).2 |> not_not.mp

/-- The records the entry block counts lie within the bytes, each as long as a record, which is
at least ten bytes. -/
theorem records_within {data : List UInt8} (accepted : HeaderAccepted data) :
    10 ≤ recordLength data ∧ recordsStart + recordCount data * recordLength data ≤ data.length := by
  have blockFits := accepted.blockFits
  have long := accepted.long
  have whole : recordCount data * recordLength data ≤ blockLength data :=
    Nat.div_mul_le_self _ _
  exact ⟨by unfold recordLength; have := accepted.keyWidth_pos; omega, by omega⟩

theorem length_recordAt {data : List UInt8} (accepted : HeaderAccepted data) {i : Nat}
    (counted : i < recordCount data) : (recordAt data i).length = recordLength data := by
  have within := (records_within accepted).2
  have before : (i + 1) * recordLength data ≤ recordCount data * recordLength data :=
    Nat.mul_le_mul_right _ counted
  unfold recordAt Bytes.slice
  rw [List.length_take, List.length_drop, Nat.min_eq_left (by rw [Nat.succ_mul] at before; omega)]

/-! ### The records -/

/-- What a record in use says, within the maximum `maxShard`: its key is not all zero, the entry
keeps the first nine bytes at most of that key, and its shard and offset fit the ten and thirty
bits of a location. -/
structure ReadFrom (keyWidth maxShard : Nat) (record : List UInt8) (e : IndexEntry) : Prop where
  inUse : ¬(record.take keyWidth).all (· == 0)
  key_eq : e.key.bytes = (record.take keyWidth).take indexKeyLength
  shard_le : e.shard ≤ maxShard
  shard_lt : e.shard < 1024
  offset_lt : e.offset < 2 ^ 30

theorem ne_nil_of_used {keyBytes : List UInt8} (used : ¬keyBytes.all (· == 0)) : keyBytes ≠ [] := by
  rintro rfl
  exact used rfl

section Records

variable {keyWidth : Nat} {count : Nat}

theorem slice_drop_records (rest : List UInt8) (j : Nat) :
    Bytes.slice (rest.drop (keyWidth + 9)) (j * (keyWidth + 9)) (keyWidth + 9) =
      Bytes.slice rest ((j + 1) * (keyWidth + 9)) (keyWidth + 9) := by
  rw [Bytes.slice, Bytes.slice, List.drop_drop]
  congr 2
  ring

/-- The entries read so far stay in front of those read later. -/
theorem parseRecords_extends_acc {maxShard index : Nat} {rest : List UInt8} {acc es : List IndexEntry}
    (read : parseRecords keyWidth maxShard count index rest acc = .ok es) : acc <+: es := by
  fun_induction parseRecords keyWidth maxShard count index rest acc generalizing es
  case case1 index rest acc within recordLength record keyBytes next unused ih => exact ih acc read
  case case2 => cases read
  case case3 index rest acc within recordLength record keyBytes next used shard offset unpacked
      notAbove key keyed ih =>
    exact (List.prefix_append _ _).trans (ih _ read)
  case case4 => cases read
  case case5 => cases read; exact List.prefix_refl _

/-- Each record read adds at most one entry. -/
theorem parseRecords_length {maxShard index : Nat} {rest : List UInt8} {acc es : List IndexEntry}
    (read : parseRecords keyWidth maxShard count index rest acc = .ok es) :
    es.length ≤ acc.length + (count - index) := by
  fun_induction parseRecords keyWidth maxShard count index rest acc generalizing es
  case case1 index rest acc within recordLength record keyBytes next unused ih =>
    have := ih acc read
    omega
  case case2 => cases read
  case case3 index rest acc within recordLength record keyBytes next used shard offset unpacked
      notAbove key keyed ih =>
    have := ih _ read
    rw [List.length_append, List.length_singleton] at this
    omega
  case case4 => cases read
  case case5 => cases read; omega

/-- Every entry read is what one of the records read says. -/
theorem parseRecords_readFrom {maxShard index : Nat} {rest : List UInt8}
    {acc es : List IndexEntry}
    (read : parseRecords keyWidth maxShard count index rest acc = .ok es) :
    ∀ e ∈ es, e ∈ acc ∨ ∃ j < count - index,
      ReadFrom keyWidth maxShard (Bytes.slice rest (j * (keyWidth + 9)) (keyWidth + 9)) e := by
  fun_induction parseRecords keyWidth maxShard count index rest acc generalizing es
  case case1 index rest acc within recordLength record keyBytes next unused ih =>
    intro e member
    rcases ih acc read e member with old | ⟨j, later, fromRecord⟩
    · exact .inl old
    · refine .inr ⟨j + 1, by omega, ?_⟩
      rwa [← slice_drop_records]
  case case2 => cases read
  case case3 index rest acc within recordLength record keyBytes next used shard offset unpacked
      notAbove key keyed ih =>
    intro e member
    rcases ih _ read e member with old | ⟨j, later, fromRecord⟩
    · rcases List.mem_append.mp old with older | new
      · exact .inl older
      · -- the entry of this record: the record at the front of what is left
        right
        refine ⟨0, by omega, ?_⟩
        rw [List.mem_singleton.mp new]
        have bounds := unpackLocation_lt (UInt8.toNat_lt (record.getD keyWidth 0))
          (Bytes.be_lt_of_length_le_four (Bytes.length_slice_le record (keyWidth + 1) 4))
        rw [unpacked] at bounds
        have front : Bytes.slice rest (0 * (keyWidth + 9)) (keyWidth + 9) = record := by
          simp [Bytes.slice, record, recordLength]
        rw [front]
        have keyBytes : (key.trim indexKeyLength).bytes = keyBytes.take indexKeyLength := by
          rw [Key.bytes_trim key (by decide), Key.bytes_of_ofBytes keyed]
        exact ⟨used, keyBytes, Nat.le_of_not_gt notAbove, bounds.1, bounds.2⟩
    · refine .inr ⟨j + 1, by omega, ?_⟩
      rwa [← slice_drop_records]
  case case4 => cases read
  case case5 =>
    cases read
    exact fun e member => .inl member

/-- Records read under one maximum read the same under another that every entry read stays
within: the maximum only ever refuses. -/
theorem parseRecords_lower {maxShard lower index : Nat} {rest : List UInt8}
    {acc es : List IndexEntry}
    (read : parseRecords keyWidth maxShard count index rest acc = .ok es)
    (below : ∀ e ∈ es, e.shard ≤ lower) :
    parseRecords keyWidth lower count index rest acc = .ok es := by
  fun_induction parseRecords keyWidth maxShard count index rest acc generalizing es
  case case1 index rest acc within recordLength record keyBytes next unused ih =>
    rw [parseRecords, if_pos within]
    simp only []
    rw [if_pos unused]
    exact ih acc read below
  case case2 => cases read
  case case3 index rest acc within recordLength record keyBytes next used shard offset unpacked
      notAbove key keyed ih =>
    have kept : shard ≤ lower :=
      below _ ((parseRecords_extends_acc read).subset (List.mem_append_right _ List.mem_cons_self))
    rw [parseRecords, if_pos within]
    simp only []
    rw [if_neg used, unpacked]
    dsimp only
    rw [if_neg (Nat.not_lt.mpr kept), keyed]
    exact ih _ read below
  case case4 => cases read
  case case5 index rest acc done =>
    rw [parseRecords, if_neg done]
    exact read

/-- Reading records never refuses a key: a record whose key bytes are all zero is passed over,
and any other has at least one key byte. -/
theorem parseRecords_keys_made {maxShard index : Nat} {rest : List UInt8} {acc : List IndexEntry}
    {f : Fault} (refused : parseRecords keyWidth maxShard count index rest acc = .error f)
    (cause : Error) : f ≠ .keyRefused cause := by
  fun_induction parseRecords keyWidth maxShard count index rest acc
  case case1 index rest acc within recordLength record keyBytes next unused ih => exact ih _ refused
  case case2 =>
    cases refused
    exact nofun
  case case3 index rest acc within recordLength record keyBytes next used shard offset unpacked
      notAbove key keyed ih => exact ih _ refused
  case case4 rest acc within recordLength record keyBytes used shard offset unpacked notAbove e
      keyRefused _ =>
    exact absurd (Key.eq_nil_of_ofBytes_eq_error keyRefused) (ne_nil_of_used used)
  case case5 => cases refused

end Records

/-! ### Reading a file -/

/-- Reading a file never refuses a key: the header's refusals come first, and the records
refuse none. -/
theorem parse_keys_made {data : List UInt8} {maxShard : Nat} {f : Fault}
    (refused : parse data maxShard = .error f) (cause : Error) : f ≠ .keyRefused cause := by
  unfold parse at refused
  dsimp only at refused
  split_ifs at refused
  iterate 5
    cases refused
    exact nofun
  exact parseRecords_keys_made refused cause

/-- Every refusal of a file read is reported as a malformed index, also once the file is named. -/
theorem refusedTable?_of_parse {data : List UInt8} {maxShard : Nat} {f : Fault}
    (refused : parse data maxShard = .error f) :
    f.toError.refusedTable? = some .index ∧
      ∀ path, (f.toError.atPath path).refusedTable? = some .index := by
  have reported : f.toError.refusedTable? = some .index := by
    cases f with
    | keyRefused cause => exact absurd rfl (parse_keys_made refused cause)
    | _ => rfl
  exact ⟨reported, fun path => by rw [Error.refusedTable?_atPath, reported]⟩

theorem slice_drop_recordsStart (data : List UInt8) (j : Nat) :
    Bytes.slice (data.drop recordsStart) (j * (keyWidth data + 9)) (keyWidth data + 9) =
      recordAt data j := by
  rw [Bytes.slice, recordAt, Bytes.slice, List.drop_drop, recordLength]

/-- Every entry of a file read is what one of its counted records says, within the maximum. -/
theorem parse_readFrom {data : List UInt8} {maxShard : Nat} {es : List IndexEntry}
    (read : parse data maxShard = .ok es) :
    ∀ e ∈ es, ∃ i < recordCount data, ReadFrom (keyWidth data) maxShard (recordAt data i) e := by
  have accepted := accepted_of_parse read
  rw [parse_of_accepted accepted] at read
  intro e member
  rcases parseRecords_readFrom read e member with none | ⟨i, counted, fromRecord⟩
  · cases none
  · refine ⟨i, by omega, ?_⟩
    rwa [← slice_drop_recordsStart]

/-- A file read gives no more entries than whole records fit after the entry guard. -/
theorem parse_length_le {data : List UInt8} {maxShard : Nat} {es : List IndexEntry}
    (read : parse data maxShard = .ok es) :
    es.length ≤ (data.length - recordsStart) / recordLength data := by
  have accepted := accepted_of_parse read
  rw [parse_of_accepted accepted] at read
  have counted := parseRecords_length read
  calc es.length ≤ recordCount data := by simpa using counted
    _ ≤ (data.length - recordsStart) / recordLength data :=
      Nat.div_le_div_right accepted.blockFits

/-- The maximum shard number only refuses: a file reads under it as under the largest maximum,
when every shard read is within it. -/
theorem parse_within_maximum (data : List UInt8) (maxShard : Nat) (es : List IndexEntry) :
    parse data maxShard = .ok es ↔ parse data 65535 = .ok es ∧ ∀ e ∈ es, e.shard ≤ maxShard := by
  constructor
  · intro read
    have accepted := accepted_of_parse read
    have small : ∀ e ∈ es, e.shard ≤ 65535 := fun e member => by
      obtain ⟨i, -, fromRecord⟩ := parse_readFrom read e member
      have := fromRecord.shard_lt
      omega
    refine ⟨?_, fun e member => ?_⟩
    · rw [parse_of_accepted accepted] at read ⊢
      exact parseRecords_lower read small
    · obtain ⟨i, -, fromRecord⟩ := parse_readFrom read e member
      exact fromRecord.shard_le
  · rintro ⟨read, below⟩
    have accepted := accepted_of_parse read
    rw [parse_of_accepted accepted] at read ⊢
    exact parseRecords_lower read below

/-- Reading an index file, on any bytes and with any maximum shard number. A refusal is reported
as a malformed index. Once the header is accepted, every record the entry block counts is at
least ten bytes long and lies within the bytes, so none is read short; a file is read only when
its header is accepted. Every entry read is what one of those records says: a key that is not all
zero, cut to its first nine bytes at most, a shard within the maximum and within ten bits, and an
offset within thirty bits; there are no more entries than whole records fit after the entry
guard. The maximum only refuses: the entries read under it are those read under the largest
maximum, when all of their shards are within it. -/
theorem parse_reads_within_bounds (data : List UInt8) (maxShard : Nat) :
    (∀ f, parse data maxShard = .error f → f.toError.refusedTable? = some .index ∧
      ∀ path, (f.toError.atPath path).refusedTable? = some .index) ∧
    (HeaderAccepted data → 10 ≤ recordLength data ∧
      ∀ i < recordCount data, (recordAt data i).length = recordLength data) ∧
    (∀ es, parse data maxShard = .ok es →
      HeaderAccepted data ∧ es.length ≤ (data.length - recordsStart) / recordLength data ∧
      ∀ e ∈ es, ∃ i < recordCount data, ReadFrom (keyWidth data) maxShard (recordAt data i) e) ∧
    ∀ es, parse data maxShard = .ok es ↔
      parse data 65535 = .ok es ∧ ∀ e ∈ es, e.shard ≤ maxShard :=
  ⟨fun _ refused => refusedTable?_of_parse refused,
    fun accepted => ⟨(records_within accepted).1, fun _ counted => length_recordAt accepted counted⟩,
    fun _ read => ⟨accepted_of_parse read, parse_length_le read, parse_readFrom read⟩,
    parse_within_maximum data maxShard⟩

theorem parse_reads_within_bounds_packed :
    HeaderAccepted (write 0 packedRecords) ∧
    parse (write 0 packedRecords) 0x3FF = .ok ((packedRecords.filter (·.inUse)).map (·.entry)) ∧
    ((∀ f, parse (write 0 packedRecords) 0x3FF = .error f → f.toError.refusedTable? = some .index ∧
      ∀ path, (f.toError.atPath path).refusedTable? = some .index) ∧
    (HeaderAccepted (write 0 packedRecords) → 10 ≤ recordLength (write 0 packedRecords) ∧
      ∀ i < recordCount (write 0 packedRecords),
        (recordAt (write 0 packedRecords) i).length = recordLength (write 0 packedRecords)) ∧
    (∀ es, parse (write 0 packedRecords) 0x3FF = .ok es →
      HeaderAccepted (write 0 packedRecords) ∧
      es.length ≤ ((write 0 packedRecords).length - recordsStart) / recordLength (write 0 packedRecords) ∧
      ∀ e ∈ es, ∃ i < recordCount (write 0 packedRecords),
        ReadFrom (keyWidth (write 0 packedRecords)) 0x3FF (recordAt (write 0 packedRecords) i) e) ∧
    ∀ es, parse (write 0 packedRecords) 0x3FF = .ok es ↔
      parse (write 0 packedRecords) 65535 = .ok es ∧ ∀ e ∈ es, e.shard ≤ 0x3FF) :=
  ⟨accepted_of_parse parse_packedRecords, parse_packedRecords, parse_reads_within_bounds _ _⟩

end IndexFile

end AssetStore
