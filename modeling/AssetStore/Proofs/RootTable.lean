import AssetStore.Table.Root
import AssetStore.Proofs.Bytes
import AssetStore.Proofs.FirstByKey
/-!
# Reading root tables

Root table bytes are read in records of one width: 32 bytes when that divides the length, 28
when only that does, and they are refused when neither does (`RootTable.parse_reads_records`).
Record `i` is read from the bytes at `width * i` (`RootTable.ReadAt`).

The records are added to the table one at a time, and each addition keeps the table's two
indexes in step with its records (`RootTable.Consistent.push`). The positions kept for a
filename hash are exactly those of its records, so a lookup by filename hash lists its records
in file order. The distinct hashes are the records' hashes in order of first occurrence. This
holds whatever the hashes are and however they repeat or interleave.

Writers for both record widths stand beside the reader. Wide records always read back. Narrow
records read back unless their count is a positive multiple of 8: the length is then a multiple
of 32 too, and the bytes are read as wide records, seven for every eight written.
-/

namespace AssetStore

namespace RootEntry

/-- The 32 bytes of a record with 64-bit flags: the filename hash, the checksum and the flags,
both numbers little-endian. -/
def write (e : RootEntry) : List UInt8 :=
  Bytes.toLE 8 e.nameHash.toNat ++ e.checksum.bytes ++ Bytes.toLE 8 e.flags.toNat

/-- The 28 bytes of a record with 32-bit flags: the filename hash, the checksum and the flags,
both numbers little-endian. -/
def writeNarrow (e : RootEntry) : List UInt8 :=
  Bytes.toLE 8 e.nameHash.toNat ++ e.checksum.bytes ++ Bytes.toLE 4 e.flags.toNat

theorem length_write (e : RootEntry) (sixteen : e.checksum.length = 16) : e.write.length = 32 := by
  unfold Key.length at sixteen
  simp [write, sixteen]

theorem length_writeNarrow (e : RootEntry) (sixteen : e.checksum.length = 16) :
    e.writeNarrow.length = 28 := by
  unfold Key.length at sixteen
  simp [writeNarrow, sixteen]

end RootEntry

namespace RootTable

/-! ### Records at their offsets -/

/-- What the record read at `offset` from `bytes`, `width` bytes wide, holds: the little-endian
number on its first 8 bytes as the filename hash, the next 16 bytes as the checksum, and the
little-endian number on its last `width - 24` bytes as the flags. -/
structure ReadAt (bytes : List UInt8) (offset width : Nat) (e : RootEntry) : Prop where
  nameHash_eq : e.nameHash.toNat = Bytes.le (Bytes.slice bytes offset 8)
  checksum_eq : e.checksum.bytes = Bytes.slice bytes (offset + 8) 16
  flags_eq : e.flags.toNat = Bytes.le (Bytes.slice bytes (offset + 24) (width - 24))

/-- A record read after some bytes were skipped is read further on in the whole. -/
theorem ReadAt.of_drop {bytes : List UInt8} {skipped offset width : Nat} {e : RootEntry}
    (read : ReadAt (bytes.drop skipped) offset width e) : ReadAt bytes (skipped + offset) width e := by
  have shift : ∀ start n, Bytes.slice (bytes.drop skipped) start n =
      Bytes.slice bytes (skipped + start) n := by
    intro start n
    rw [Bytes.slice, Bytes.slice, List.drop_drop]
  refine ⟨?_, ?_, ?_⟩
  · rw [read.nameHash_eq, shift]
  · rw [read.checksum_eq, shift, Nat.add_assoc]
  · rw [read.flags_eq, shift, Nat.add_assoc]

/-- A number on at most 8 bytes is kept whole by a 64-bit word. -/
theorem toNat_ofNat_le {bytes : List UInt8} (short : bytes.length ≤ 8) :
    (UInt64.ofNat (Bytes.le bytes)).toNat = Bytes.le bytes := by
  refine UInt64.toNat_ofNat_of_lt' ?_
  calc Bytes.le bytes < 256 ^ bytes.length := Bytes.le_lt bytes
    _ ≤ 256 ^ 8 := Nat.pow_le_pow_right (by decide) short
    _ = UInt64.size := rfl

theorem length_records (width : Nat) (hwidth : 24 < width) (bytes : List UInt8) :
    (records width hwidth bytes).length = bytes.length / width := by
  fun_induction records width hwidth bytes with
  | case1 bytes fits entry inductionHypothesis =>
    rw [List.length_cons, inductionHypothesis, List.length_drop,
      Nat.div_eq_sub_div (by omega) fits]
  | case2 bytes short =>
    rw [List.length_nil, Nat.div_eq_of_lt (by omega)]

/-- Record `i` of some bytes is the record read from them at `width * i`. -/
theorem readAt_records {width : Nat} (hwidth : 24 < width) (narrow : width ≤ 32)
    (bytes : List UInt8) (i : Nat) (e : RootEntry) (found : (records width hwidth bytes)[i]? = some e) :
    ReadAt bytes (width * i) width e := by
  fun_induction records width hwidth bytes generalizing i with
  | case1 bytes fits entry inductionHypothesis =>
    cases i with
    | zero =>
      rw [List.getElem?_cons_zero, Option.some_inj] at found
      subst found
      have flagBytes : (Bytes.slice bytes 24 (width - 24)).length ≤ 8 := by
        simp only [Bytes.slice, List.length_take]
        omega
      refine ⟨?_, rfl, ?_⟩
      · rw [Nat.mul_zero, toNat_ofNat_le (by simp)]
        rfl
      · rw [Nat.mul_zero, Nat.zero_add, toNat_ofNat_le flagBytes]
    | succ i =>
      rw [List.getElem?_cons_succ] at found
      rw [Nat.mul_succ, Nat.add_comm]
      exact (inductionHypothesis i found).of_drop
  | case2 bytes short =>
    cases found

/-! ### The indexes kept beside the records -/

/-- A table's indexes agree with its records: the positions kept for a filename hash are the
positions of its records, and the distinct hashes are the records' hashes in order of first
occurrence. -/
structure Consistent (t : RootTable) : Prop where
  slots_eq : ∀ nameHash, t.slots nameHash = t.entries.findIdxs (·.nameHash == nameHash)
  hashes_eq : t.hashes = (t.entries.map (·.nameHash)).eraseDups

theorem consistent_empty : empty.Consistent :=
  ⟨fun _ => rfl, rfl⟩

/-- Dropping the positions of one filename hash leaves those of every other. -/
theorem lookup_filter_ne {byHash : List (UInt64 × List Nat)} {removed nameHash : UInt64}
    (other : nameHash ≠ removed) :
    (byHash.filter (·.1 != removed)).lookup nameHash = byHash.lookup nameHash := by
  induction byHash with
  | nil => rfl
  | cons slot rest inductionHypothesis =>
    obtain ⟨key, positions⟩ := slot
    by_cases dropped : key = removed
    · subst dropped
      rw [List.filter_cons_of_neg (by simp), inductionHypothesis, List.lookup_cons,
        beq_false_of_ne other]
    · rw [List.filter_cons_of_pos (by simpa using dropped), List.lookup_cons, List.lookup_cons,
        inductionHypothesis]

/-- Adding a record adds its position to its own filename hash and to no other. -/
theorem slots_push (t : RootTable) (e : RootEntry) (nameHash : UInt64) :
    (t.push e).slots nameHash =
      if e.nameHash = nameHash then t.slots nameHash ++ [t.entries.length]
      else t.slots nameHash := by
  by_cases same : e.nameHash = nameHash
  · subst same
    simp [push, slots]
  · rw [if_neg same]
    simp only [push, slots]
    rw [List.lookup_cons, beq_false_of_ne (Ne.symm same), lookup_filter_ne (Ne.symm same)]

/-- Adding a record keeps the indexes in step with the records. -/
theorem Consistent.push {t : RootTable} (consistent : t.Consistent) (e : RootEntry) :
    (t.push e).Consistent := by
  have entries : (t.push e).entries = t.entries ++ [e] := rfl
  constructor
  · intro nameHash
    rw [slots_push, consistent.slots_eq, entries, List.findIdxs_append, List.findIdxs_singleton]
    by_cases same : e.nameHash = nameHash <;> simp [same]
  · -- a filename hash has no positions yet exactly when no earlier record has it
    have fresh : (t.slots e.nameHash).isEmpty = true ↔ e.nameHash ∉ t.entries.map (·.nameHash) := by
      rw [consistent.slots_eq, List.isEmpty_iff, List.findIdxs_eq_nil_iff]
      simp
    show (if (t.slots e.nameHash).isEmpty then t.hashes ++ [e.nameHash] else t.hashes) = _
    rw [entries, List.map_append, List.eraseDups_append, ← consistent.hashes_eq]
    by_cases seen : e.nameHash ∈ t.entries.map (·.nameHash)
    · rw [if_neg (by rwa [fresh, not_not])]
      simp [List.removeAll, List.mem_map.mp seen]
    · rw [if_pos (fresh.mpr seen)]
      have unseen : ¬∃ a ∈ t.entries, a.nameHash = e.nameHash := fun found =>
        seen (List.mem_map.mpr found)
      simp [List.removeAll, unseen, List.eraseDups_cons]

/-- Adding records one by one keeps the indexes in step, whatever their filename hashes. -/
theorem Consistent.foldl_push {t : RootTable} (consistent : t.Consistent) (es : List RootEntry) :
    (es.foldl RootTable.push t).Consistent := by
  induction es generalizing t with
  | nil => exact consistent
  | cons e es inductionHypothesis => exact inductionHypothesis (consistent.push e)

theorem entries_foldl_push (t : RootTable) (es : List RootEntry) :
    (es.foldl push t).entries = t.entries ++ es := by
  induction es generalizing t with
  | nil => simp
  | cons e es inductionHypothesis =>
    rw [List.foldl_cons, inductionHypothesis]
    simp [push]

theorem consistent_ofEntries (es : List RootEntry) : (ofEntries es).Consistent :=
  consistent_empty.foldl_push es

@[simp] theorem entries_ofEntries (es : List RootEntry) : (ofEntries es).entries = es := by
  simp [ofEntries, entries_foldl_push, empty]

/-- The records at the positions of the records that pass a test are those records. -/
theorem filterMap_findIdxs (p : RootEntry → Bool) (front l : List RootEntry) :
    (l.findIdxs p front.length).filterMap (fun i => (front ++ l)[i]?) = l.filter p := by
  induction l generalizing front with
  | nil => rfl
  | cons e l inductionHypothesis =>
    have regroup : front ++ e :: l = (front ++ [e]) ++ l := by simp
    have next : front.length + 1 = (front ++ [e]).length := by simp
    have here : (front ++ e :: l)[front.length]? = some e := by simp
    rw [List.findIdxs_cons]
    by_cases passes : p e
    · rw [if_pos passes, List.filterMap_cons, here, next, regroup, inductionHypothesis,
        List.filter_cons_of_pos passes]
    · rw [if_neg passes, next, regroup, inductionHypothesis, List.filter_cons_of_neg passes]

/-- In a consistent table, the records of a filename hash are those with that hash, in file
order. -/
theorem Consistent.entriesFor_eq {t : RootTable} (consistent : t.Consistent) (nameHash : UInt64) :
    t.entriesFor nameHash = t.entries.filter (·.nameHash == nameHash) := by
  rw [entriesFor, consistent.slots_eq]
  exact filterMap_findIdxs _ [] t.entries

/-- A consistent table has as many distinct filename hashes as its records show. -/
theorem Consistent.length_hashes {t : RootTable} (consistent : t.Consistent) :
    t.hashes.length = (t.entries.map (·.nameHash)).toFinset.card := by
  have distinct := length_eraseDupsBy (id : UInt64 → UInt64) (t.entries.map (·.nameHash))
  rw [List.map_id] at distinct
  rw [consistent.hashes_eq]
  exact distinct

/-! ### Reading a table -/

/-- A table read from `data` in records of `width` bytes: one record for every `width` bytes,
record `i` read at `width * i`, and lookups by filename hash and the distinct hashes that agree
with the records. -/
structure Decodes (width : Nat) (data : List UInt8) (t : RootTable) : Prop where
  size_eq : t.size = data.length / width
  readAt : ∀ i e, t.entries[i]? = some e → ReadAt data (width * i) width e
  entriesFor_eq : ∀ nameHash, t.entriesFor nameHash = t.entries.filter (·.nameHash == nameHash)
  checksumsFor_eq : ∀ nameHash,
    t.checksumsFor nameHash = (t.entries.filter (·.nameHash == nameHash)).map (·.checksum)
  hashes_eq : t.hashes = (t.entries.map (·.nameHash)).eraseDups

theorem decodes_records {width : Nat} (hwidth : 24 < width) (narrow : width ≤ 32)
    (data : List UInt8) : Decodes width data (ofEntries (records width hwidth data)) := by
  have consistent := consistent_ofEntries (records width hwidth data)
  refine ⟨?_, ?_, consistent.entriesFor_eq, fun nameHash => ?_, consistent.hashes_eq⟩
  · rw [size, entries_ofEntries, length_records]
  · rw [entries_ofEntries]
    exact readAt_records hwidth narrow data
  · rw [checksumsFor, consistent.entriesFor_eq]

theorem parse_wide {data : List UInt8} (wide : data.length % 32 = 0) :
    parse data = .ok (ofEntries (records 32 (by decide) data)) :=
  if_pos wide

theorem parse_narrow {data : List UInt8} (notWide : data.length % 32 ≠ 0)
    (narrow : data.length % 28 = 0) : parse data = .ok (ofEntries (records 28 (by decide) data)) := by
  rw [parse, if_neg notWide, if_pos narrow]

theorem parse_neither {data : List UInt8} (notWide : data.length % 32 ≠ 0)
    (notNarrow : data.length % 28 ≠ 0) : parse data = .error ⟨data.length⟩ := by
  rw [parse, if_neg notWide, if_neg notNarrow]

/-! ### Written records read back -/

/-- A record of `width` bytes at the front is read as `e` when its fields hold `e`'s, and
reading goes on after it. -/
theorem records_append {width : Nat} (hwidth : 24 < width) {front : List UInt8}
    (rest : List UInt8) {e : RootEntry} (length : front.length = width)
    (hash : UInt64.ofNat (Bytes.le (front.take 8)) = e.nameHash)
    (checksum : (front.drop 8).take 16 = e.checksum.bytes)
    (flags : UInt64.ofNat (Bytes.le (Bytes.slice front 24 (width - 24))) = e.flags) :
    records width hwidth (front ++ rest) = e :: records width hwidth rest := by
  have hashBytes : (front ++ rest).take 8 = front.take 8 :=
    List.take_append_of_le_length (by omega)
  have checksumBytes : ((front ++ rest).drop 8).take 16 = (front.drop 8).take 16 :=
    Bytes.slice_append_of_le front rest (by omega)
  have flagBytes : Bytes.slice (front ++ rest) 24 (width - 24) = Bytes.slice front 24 (width - 24) :=
    Bytes.slice_append_of_le front rest (by omega)
  rw [records, dif_pos (by simp [length])]
  obtain ⟨nameHash, key, flagWord⟩ := e
  refine congrArg₂ (· :: ·) ?_ ?_
  · dsimp only at hash checksum flags
    rw [hashBytes, flagBytes, hash, flags, Key.prefixOf_eq _ 16 _ key (checksumBytes.trans checksum)]
  · rw [List.drop_left' length]

theorem ofNat_le_toLE (width : Nat) (w : UInt64) (small : w.toNat < 256 ^ width) :
    UInt64.ofNat (Bytes.le (Bytes.toLE width w.toNat)) = w := by
  rw [Bytes.le_toLE, Nat.mod_eq_of_lt small, UInt64.ofNat_toNat]

/-- The fields of a written record: the hash on the first 8 bytes, the checksum on the next 16,
and the flags from byte 24 on. -/
theorem fields_written (hashBytes checksum flagBytes : List UInt8)
    (hashLength : hashBytes.length = 8) (sixteen : checksum.length = 16) :
    (hashBytes ++ checksum ++ flagBytes).take 8 = hashBytes ∧
      ((hashBytes ++ checksum ++ flagBytes).drop 8).take 16 = checksum ∧
      ∀ n, Bytes.slice (hashBytes ++ checksum ++ flagBytes) 24 n = flagBytes.take n := by
  have front : (hashBytes ++ checksum).length = 24 := by simp [hashLength, sixteen]
  refine ⟨?_, ?_, fun n => ?_⟩
  · rw [List.append_assoc, List.take_left' hashLength]
  · rw [List.append_assoc, List.drop_left' hashLength, List.take_left' sixteen]
  · rw [← front, Bytes.slice_append]

theorem records_write (e : RootEntry) (sixteen : e.checksum.length = 16) (rest : List UInt8) :
    records 32 (by decide) (e.write ++ rest) = e :: records 32 (by decide) rest := by
  obtain ⟨hash, checksum, flags⟩ :=
    fields_written (Bytes.toLE 8 e.nameHash.toNat) e.checksum.bytes (Bytes.toLE 8 e.flags.toNat)
      (Bytes.length_toLE 8 _) sixteen
  refine records_append _ rest (e.length_write sixteen) ?_ checksum ?_
  · rw [RootEntry.write, hash, ofNat_le_toLE 8 _ e.nameHash.toNat_lt]
  · rw [RootEntry.write, flags, List.take_of_length_le (by simp), ofNat_le_toLE 8 _ e.flags.toNat_lt]

theorem records_writeNarrow (e : RootEntry) (sixteen : e.checksum.length = 16)
    (small : e.flags.toNat < 2 ^ 32) (rest : List UInt8) :
    records 28 (by decide) (e.writeNarrow ++ rest) = e :: records 28 (by decide) rest := by
  obtain ⟨hash, checksum, flags⟩ :=
    fields_written (Bytes.toLE 8 e.nameHash.toNat) e.checksum.bytes (Bytes.toLE 4 e.flags.toNat)
      (Bytes.length_toLE 8 _) sixteen
  refine records_append _ rest (e.length_writeNarrow sixteen) ?_ checksum ?_
  · rw [RootEntry.writeNarrow, hash, ofNat_le_toLE 8 _ e.nameHash.toNat_lt]
  · rw [RootEntry.writeNarrow, flags, List.take_of_length_le (by simp), ofNat_le_toLE 4 _ small]

/-- Records written one after another, each read back with reading going on after it, are read
back in order. -/
theorem records_flatMap {width : Nat} (hwidth : 24 < width) (write : RootEntry → List UInt8)
    (es : List RootEntry)
    (each : ∀ e ∈ es, ∀ rest, records width hwidth (write e ++ rest) = e :: records width hwidth rest) :
    records width hwidth (es.flatMap write) = es := by
  induction es with
  | nil =>
    rw [List.flatMap_nil, records, dif_neg (by simp; omega)]
  | cons e es inductionHypothesis =>
    rw [List.flatMap_cons, each e List.mem_cons_self,
      inductionHypothesis fun e' member => each e' (List.mem_cons_of_mem e member)]

theorem length_flatMap_write (es : List RootEntry) (write : RootEntry → List UInt8) (width : Nat)
    (each : ∀ e ∈ es, (write e).length = width) : (es.flatMap write).length = width * es.length := by
  induction es with
  | nil => rfl
  | cons e es inductionHypothesis =>
    rw [List.flatMap_cons, List.length_append, each e List.mem_cons_self,
      inductionHypothesis fun e' member => each e' (List.mem_cons_of_mem e member),
      List.length_cons, Nat.mul_succ, Nat.add_comm]

/-- Written records read back as a table of 32-byte records. -/
theorem parse_flatMap_write (entries : List RootEntry)
    (sixteen : ∀ e ∈ entries, e.checksum.length = 16) :
    parse (entries.flatMap RootEntry.write) = .ok (ofEntries entries) := by
  have length := length_flatMap_write entries RootEntry.write 32
    fun e member => e.length_write (sixteen e member)
  rw [parse_wide (by omega), records_flatMap _ _ _ fun e member => records_write e (sixteen e member)]

/-- Narrow records read back unless their count is a positive multiple of 8. Such a length is a
multiple of 32 as well, and then the bytes are read as wide records, seven for every eight
written. -/
theorem parse_flatMap_writeNarrow (entries : List RootEntry)
    (fits : ∀ e ∈ entries, e.checksum.length = 16 ∧ e.flags.toNat < 2 ^ 32) :
    (parse (entries.flatMap RootEntry.writeNarrow)).map RootTable.entries = .ok entries ↔
      ¬ (0 < entries.length ∧ entries.length % 8 = 0) := by
  have length := length_flatMap_write entries RootEntry.writeNarrow 28
    fun e member => e.length_writeNarrow (fits e member).1
  constructor
  · rintro recovered ⟨positive, eights⟩
    rw [parse_wide (by omega)] at recovered
    simp only [Except.map, entries_ofEntries, Except.ok.injEq] at recovered
    have counted := congrArg List.length recovered
    rw [length_records, length] at counted
    omega
  · intro notEights
    by_cases none : entries = []
    · subst none
      rw [parse_wide (by simp),
        records_flatMap _ RootEntry.writeNarrow [] fun _ member => by cases member]
      rfl
    · have positive : 0 < entries.length := List.length_pos_iff.mpr none
      rw [parse_narrow (by omega) (by omega), records_flatMap _ RootEntry.writeNarrow entries
        fun e member => records_writeNarrow e (fits e member).1 (fits e member).2]
      simp [Except.map]

/-- Reading root table bytes fails exactly when their length is a multiple of neither 32 nor 28,
with the error naming the length. Otherwise the bytes are read in records 32 bytes wide when 32
divides the length, and 28 bytes wide when it does not: one record for every `width` bytes,
record `i` read at `width * i`, the records of a filename hash found in file order, and the
distinct filename hashes listed in order of first occurrence. So written wide records always
read back, and written narrow ones read back unless their count is a positive multiple of 8. -/
theorem parse_reads_records (data : List UInt8) :
    (∀ e, (parse data).mapError Fault.toError = .error e ↔
      data.length % 32 ≠ 0 ∧ data.length % 28 ≠ 0 ∧
        e = .malformed .root s!"length {data.length} is not a multiple of 32 or 28") ∧
    ((data.length % 32 = 0 ∨ data.length % 28 = 0) →
      ∃ t, parse data = .ok t ∧ Decodes (if data.length % 32 = 0 then 32 else 28) data t) ∧
    (∀ entries : List RootEntry, (∀ e ∈ entries, e.checksum.length = 16) →
      (parse (entries.flatMap RootEntry.write)).map RootTable.entries = .ok entries) ∧
    (∀ entries : List RootEntry, (∀ e ∈ entries, e.checksum.length = 16 ∧ e.flags.toNat < 2 ^ 32) →
      ((parse (entries.flatMap RootEntry.writeNarrow)).map RootTable.entries = .ok entries ↔
        ¬ (0 < entries.length ∧ entries.length % 8 = 0))) := by
  refine ⟨fun e => ?_, fun fits => ?_, fun entries sixteen => ?_, parse_flatMap_writeNarrow⟩
  · by_cases wide : data.length % 32 = 0
    · rw [parse_wide wide]
      simp [Except.mapError, wide]
    · by_cases narrow : data.length % 28 = 0
      · rw [parse_narrow wide narrow]
        simp [Except.mapError, narrow]
      · rw [parse_neither wide narrow]
        simp [Except.mapError, wide, narrow, Fault.toError, eq_comm]
  · by_cases wide : data.length % 32 = 0
    · rw [if_pos wide]
      exact ⟨_, parse_wide wide, decodes_records _ (by decide) data⟩
    · rw [if_neg wide]
      exact ⟨_, parse_narrow wide (fits.resolve_left wide), decodes_records _ (by decide) data⟩
  · rw [parse_flatMap_write entries sixteen]
    simp [Except.map]

/-- Thirty-two zero bytes are one wide record, and one record with a 16-byte checksum and small
flags written narrow reads back. -/
theorem parse_reads_records_zeros :
    (∃ t, parse (List.replicate 32 0) = .ok t ∧ Decodes 32 (List.replicate 32 0) t) ∧
      (parse ([⟨0, ⟨List.replicate 16 1, by simp⟩, 2⟩].flatMap RootEntry.writeNarrow)).map
        RootTable.entries = .ok [⟨0, ⟨List.replicate 16 1, by simp⟩, 2⟩] := by
  obtain ⟨-, decoded, -, narrow⟩ := parse_reads_records (List.replicate 32 0)
  refine ⟨decoded (Or.inl (by decide)), (narrow _ fun e member => ?_).mpr (by decide)⟩
  rw [List.mem_singleton] at member
  subst member
  exact ⟨rfl, by decide⟩

end RootTable

end AssetStore
