import Mathlib.Data.List.GetD
import AssetStore.Index.File
import AssetStore.Proofs.Bytes
/-!
# Index files read back

The writer of index files beside the reader `IndexFile.parse`, and the law that ties them. The
writer lays out a version-7 file with 9-byte keys, 5-byte locations and 4-byte sizes: the
guard, the header, eight bytes of padding, the entry guard giving `18` bytes per record, and
the records. A record packs its shard number into the location's first byte (the shard shifted
right by two) and the top two bits of a big-endian word whose low thirty bits hold the offset;
its size follows little-endian.

The main statement is `parse_write`: reading a written file gives back, in order, an entry for
every record whose key is not all zero, as long as each of them names a shard within the
maximum; otherwise the first record in use above the maximum refuses the file, and the refusal
names its position among all records, unused ones included.
-/

namespace AssetStore.IndexFile

/-- One record as the writer takes it: a 9-byte key, a shard number that fits the ten bits of
a location, an offset that fits its thirty bits and a 32-bit size. -/
structure Record where
  key : List UInt8
  shard : Nat
  offset : Nat
  size : Nat
  key_length : key.length = 9
  shard_lt : shard < 1024
  offset_lt : offset < 2 ^ 30
  size_lt : size < 2 ^ 32

namespace Record

/-- The eighteen bytes of a record: the key, the shard's high bits, the word holding the shard's
low two bits above the offset (big-endian), and the size (little-endian). -/
def write (r : Record) : List UInt8 :=
  r.key ++ UInt8.ofNat (r.shard / 4) ::
    (Bytes.toBE 4 (r.shard % 4 * 2 ^ 30 + r.offset % 2 ^ 30) ++ Bytes.toLE 4 r.size)

/-- A record is in use unless its key is all zero. -/
def inUse (r : Record) : Bool := !r.key.all (· == 0)

/-- The key of a record, which is never empty. -/
def entryKey (r : Record) : Key :=
  ⟨r.key, fun empty => by have length := r.key_length; simp [empty] at length⟩

/-- The index entry that a record stands for. -/
def entry (r : Record) : IndexEntry :=
  { key := r.entryKey, shard := r.shard, offset := r.offset, size := r.size }

@[simp] theorem length_write (r : Record) : r.write.length = 18 := by
  simp [write, r.key_length]

/-! ### The fields of a written record -/

theorem take_write (r : Record) : r.write.take 9 = r.key :=
  List.take_left' r.key_length

theorem getD_write (r : Record) : r.write.getD 9 0 = UInt8.ofNat (r.shard / 4) := by
  simp [write, List.getD_eq_getElem?_getD, r.key_length]

theorem location_write (r : Record) :
    Bytes.slice r.write 10 4 = Bytes.toBE 4 (r.shard % 4 * 2 ^ 30 + r.offset % 2 ^ 30) := by
  have front : (r.key ++ [UInt8.ofNat (r.shard / 4)]).length = 10 := by simp [r.key_length]
  rw [write, ← front, ← List.singleton_append, ← List.append_assoc, Bytes.slice_append]
  exact List.take_left' (Bytes.length_toBE 4 _)

theorem size_write (r : Record) : Bytes.slice r.write 14 4 = Bytes.toLE 4 r.size := by
  have front : (r.key ++ [UInt8.ofNat (r.shard / 4)] ++
      Bytes.toBE 4 (r.shard % 4 * 2 ^ 30 + r.offset % 2 ^ 30)).length = 14 := by
    simp [r.key_length]
  rw [write, ← front, ← List.singleton_append, ← List.append_assoc, ← List.append_assoc,
    Bytes.slice_append]
  exact List.take_of_length_le (by simp)

/-- The packed location unpacks to the record's shard and offset: the shard's two low bits
survive the trip through the top of the word because the offset is below `2 ^ 30`. -/
theorem unpackLocation_write (r : Record) :
    unpackLocation (UInt8.ofNat (r.shard / 4)).toNat
      (Bytes.be (Bytes.toBE 4 (r.shard % 4 * 2 ^ 30 + r.offset % 2 ^ 30))) =
      (r.shard, r.offset) := by
  have := r.shard_lt
  have := r.offset_lt
  rw [Bytes.be_toBE, unpackLocation, UInt8.toNat_ofNat', Prod.mk.injEq]
  constructor <;> omega

theorem ofBytes_key (r : Record) : Key.ofBytes r.key = .ok r.entryKey :=
  Key.ofBytes_of_ne_nil r.key _

theorem trim_entryKey (r : Record) : r.entryKey.trim indexKeyLength = r.entryKey :=
  Key.trim_of_length_le _ (Nat.le_of_eq r.key_length)

end Record

/-- The forty bytes before the records of `count` records: the guard, the header of a version-7
file of `bucket`, the padding and the entry guard. -/
def writeHeader (bucket : UInt8) (count : Nat) : List UInt8 :=
  Bytes.toLE 4 16 ++ Bytes.toLE 4 0 ++ Bytes.toLE 2 7 ++ [bucket, 0, 4, 5, 9, 30] ++
    Bytes.toLE 8 0x40000000 ++ List.replicate 8 0 ++ Bytes.toLE 4 (count * 18) ++ Bytes.toLE 4 0

/-- The index file of `bucket` holding `records`. -/
def write (bucket : UInt8) (records : List Record) : List UInt8 :=
  writeHeader bucket records.length ++ records.flatMap Record.write

@[simp] theorem length_writeHeader (bucket : UInt8) (count : Nat) :
    (writeHeader bucket count).length = 40 := by
  simp [writeHeader]

theorem length_flatMap_write (records : List Record) :
    (records.flatMap Record.write).length = 18 * records.length := by
  induction records with
  | nil => rfl
  | cons r records inductionHypothesis =>
    rw [List.flatMap_cons, List.length_append, inductionHypothesis, Record.length_write,
      List.length_cons]
    ring

/-! ### Reading the records -/

/-- One written record read: skipped when unused, refused above the maximum, else kept. -/
theorem parseRecords_write (maxShard count index : Nat) (hindex : index < count) (r : Record)
    (rest : List UInt8) (acc : List IndexEntry) :
    parseRecords 9 maxShard count index (r.write ++ rest) acc =
      if r.inUse then
        if maxShard < r.shard then
          .error (.shardAboveMaximum index (recordsStart + index * 18) r.shard maxShard)
        else parseRecords 9 maxShard count (index + 1) rest (acc ++ [r.entry])
      else parseRecords 9 maxShard count (index + 1) rest acc := by
  have record : (r.write ++ rest).take 18 = r.write := List.take_left' r.length_write
  have after : (r.write ++ rest).drop 18 = rest := List.drop_left' r.length_write
  have size : Bytes.le (Bytes.toLE 4 r.size) = r.size := by
    have := r.size_lt
    rw [Bytes.le_toLE, Nat.mod_eq_of_lt (by omega)]
  rw [parseRecords, if_pos hindex]
  simp only [record, after, r.take_write, r.getD_write, r.location_write, r.size_write,
    r.unpackLocation_write, r.ofBytes_key, r.trim_entryKey, size]
  cases unused : r.key.all (· == 0) <;> simp [Record.inUse, Record.entry, unused]

/-- Written records that all stay within the maximum read back as the entries of those in
use. -/
theorem parseRecords_allowed (maxShard count : Nat) (records : List Record)
    (rest : List UInt8) (index : Nat) (acc : List IndexEntry) (ends : index + records.length = count)
    (allowed : ∀ r ∈ records, r.inUse → r.shard ≤ maxShard) :
    parseRecords 9 maxShard count index (records.flatMap Record.write ++ rest) acc =
      .ok (acc ++ (records.filter (·.inUse)).map (·.entry)) := by
  induction records generalizing index acc with
  | nil =>
    rw [parseRecords, if_neg (by simp at ends; omega)]
    simp
  | cons r records inductionHypothesis =>
    have below : index < count := by simp at ends; omega
    rw [List.flatMap_cons, List.append_assoc, parseRecords_write maxShard count index below]
    have next := fun acc => inductionHypothesis (index + 1) acc (by simp at ends; omega)
      (fun r' member => allowed r' (List.mem_cons_of_mem r member))
    by_cases used : r.inUse
    · rw [if_pos used, if_neg (Nat.not_lt.mpr (allowed r List.mem_cons_self used)), next]
      simp [used]
    · rw [if_neg used, next]
      simp [used]

/-- The first record in use above the maximum refuses the records, at its own position. -/
theorem parseRecords_refused (maxShard count : Nat) (before : List Record)
    (r : Record) (after : List Record) (rest : List UInt8) (index : Nat) (acc : List IndexEntry)
    (within : index + before.length < count)
    (allowed : ∀ r' ∈ before, r'.inUse → r'.shard ≤ maxShard) (used : r.inUse)
    (above : maxShard < r.shard) :
    parseRecords 9 maxShard count index ((before ++ r :: after).flatMap Record.write ++ rest)
        acc =
      .error (.shardAboveMaximum (index + before.length)
        (recordsStart + (index + before.length) * 18) r.shard maxShard) := by
  induction before generalizing index acc with
  | nil =>
    rw [List.nil_append, List.flatMap_cons, List.append_assoc,
      parseRecords_write maxShard count index (by simpa using within), if_pos used, if_pos above]
    rfl
  | cons r' before inductionHypothesis =>
    have below : index < count := by simp at within; omega
    have next := fun acc => inductionHypothesis (index + 1) acc (by simp at within; omega)
      (fun r'' member => allowed r'' (List.mem_cons_of_mem r' member))
    rw [List.cons_append, List.flatMap_cons, List.append_assoc,
      parseRecords_write maxShard count index below]
    have position : index + 1 + before.length = index + (r' :: before).length := by
      simp only [List.length_cons]
      omega
    by_cases used' : r'.inUse
    · rw [if_pos used', if_neg (Nat.not_lt.mpr (allowed r' List.mem_cons_self used')), next,
        position]
    · rw [if_neg used', next, position]

/-! ### Reading a written file -/

/-- A written file passes every header check and its records are read from byte 40, as many as
were written: the entry guard holds their exact size as long as it fits 32 bits. -/
theorem parse_write_eq (bucket : UInt8) (maxShard : Nat) (records : List Record)
    (fits : 18 * records.length < 2 ^ 32) :
    parse (write bucket records) maxShard =
      parseRecords 9 maxShard records.length 0 (records.flatMap Record.write) [] := by
  have header : ∀ i < 40,
      (write bucket records).getD i 0 = (writeHeader bucket records.length).getD i 0 :=
    fun i below => List.getD_append _ _ _ _ (by simpa using below)
  have block : Bytes.le (Bytes.slice (write bucket records) 32 4) = 18 * records.length := by
    have entryGuard : Bytes.slice (writeHeader bucket records.length) 32 4 =
        Bytes.toLE 4 (records.length * 18) := rfl
    rw [write, Bytes.slice_append_of_le _ _ (by simp), entryGuard, Bytes.le_toLE,
      Nat.mod_eq_of_lt (by omega)]
    ring
  have body : (write bucket records).drop recordsStart = records.flatMap Record.write :=
    List.drop_left' (length_writeHeader _ _)
  have length : (write bucket records).length = 40 + 18 * records.length := by
    rw [write, List.length_append, length_flatMap_write, length_writeHeader]
  have keyWidth : (writeHeader bucket records.length).getD 14 0 = 9 := rfl
  have locationWidth : (writeHeader bucket records.length).getD 13 0 = 5 := rfl
  have sizeWidth : (writeHeader bucket records.length).getD 12 0 = 4 := rfl
  rw [parse, if_neg (by omega)]
  simp only [header 12 (by decide), header 13 (by decide), header 14 (by decide), block, body,
    length, keyWidth, locationWidth, sizeWidth]
  simp [recordsStart]

/-- Index files read back. When every record in use names a shard within the maximum, the
entries are those records, in order, with unused records left out. Otherwise the first record in
use above the maximum refuses the file, naming its position `i` among all records and its start
`40 + 18 * i`. -/
theorem parse_write (bucket : UInt8) (maxShard : Nat) (records : List Record)
    (fits : 18 * records.length < 2 ^ 32) :
    ((∀ r ∈ records, r.inUse → r.shard ≤ maxShard) →
      parse (write bucket records) maxShard = .ok ((records.filter (·.inUse)).map (·.entry))) ∧
    ∀ before r after, records = before ++ r :: after →
      (∀ r' ∈ before, r'.inUse → r'.shard ≤ maxShard) → r.inUse → maxShard < r.shard →
      parse (write bucket records) maxShard =
        .error (.shardAboveMaximum before.length (recordsStart + 18 * before.length) r.shard
          maxShard) := by
  rw [parse_write_eq bucket maxShard records fits]
  constructor
  · intro allowed
    simpa using parseRecords_allowed maxShard records.length records [] 0 [] (by simp) allowed
  · rintro before r after rfl allowed used above
    have refused := parseRecords_refused maxShard (before ++ r :: after).length before r after []
      0 [] (by simp) allowed used above
    simpa [Nat.mul_comm] using refused

/-- Two records of bucket zero: one whose shard has both low bits set, at the largest offset,
and an ordinary one. -/
def packedRecords : List Record :=
  [⟨List.replicate 9 1, 0x1FF, 0x3FFFFFFF, 10, rfl, by decide, by decide, by decide⟩,
    ⟨List.replicate 9 2, 5, 0x100, 20, rfl, by decide, by decide, by decide⟩]

/-- The packed records read back under the largest shard maximum. -/
theorem parse_packedRecords :
    parse (write 0 packedRecords) 0x3FF = .ok ((packedRecords.filter (·.inUse)).map (·.entry)) := by
  rw [parse_write_eq 0 0x3FF packedRecords (by decide)]
  simpa using parseRecords_allowed 0x3FF packedRecords.length packedRecords [] 0 [] (by simp)
    (by decide)

/-- Both outcomes on the same records: under the largest shard maximum every record is read,
and under a maximum of `0x100` the first record, of shard `0x1FF`, refuses the file. -/
theorem parse_write_packed :
    18 * packedRecords.length < 2 ^ 32 ∧
    (∀ r ∈ packedRecords, r.inUse → r.shard ≤ 0x3FF) ∧
    parse (write 0 packedRecords) 0x3FF = .ok ((packedRecords.filter (·.inUse)).map (·.entry)) ∧
    parse (write 0 packedRecords) 0x100 = .error (.shardAboveMaximum 0 recordsStart 0x1FF 0x100) := by
  have fits : 18 * packedRecords.length < 2 ^ 32 := by decide
  have allowed : ∀ r ∈ packedRecords, r.inUse → r.shard ≤ 0x3FF := by decide
  refine ⟨fits, allowed, (parse_write 0 0x3FF packedRecords fits).1 allowed, ?_⟩
  exact (parse_write 0 0x100 packedRecords fits).2 [] _ _ rfl (by simp) (by decide) (by decide)

end AssetStore.IndexFile
