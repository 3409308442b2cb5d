import AssetStore.Table.Encoding
import AssetStore.Proofs.Bytes
import AssetStore.Proofs.FirstByKey
import AssetStore.Proofs.CursorReads
/-!
# Encoding tables read back

A writer of encoding-table runs beside the reader `EncodingTable.parse`, and the law that ties
them. A record is written as the little-endian word whose low byte counts its file keys and
whose high byte holds bits 32 to 39 of its size, then the low 32 bits of the size big-endian,
the checksum and the keys. A run is its records, the zero word that closes it, and any number
of zero bytes of padding.

The reader does not use the page size of the header to find the next run: it skips zero bytes.
That lands on the next run because a run starts with a record, and a record starts with the
count of its keys, which is never zero. So every non-empty run is found after any padding, and
`parse_writeRuns` states that the whole table reads back: its records are those of all runs in
order, minus each record whose checksum an earlier record has, and a lookup by checksum finds
the first record with that checksum.
-/

namespace AssetStore.EncodingTable

/-- A record the writer can lay out: a 16-byte checksum, one to 255 file keys of 16 bytes, and a
size below `2 ^ 40`. -/
structure Record extends EncodingEntry where
  checksum_length : checksum.length = 16
  fileKeys_length : ∀ k ∈ fileKeys, k.length = 16
  keys_pos : 0 < fileKeys.length
  keys_lt : fileKeys.length < 256
  fileSize_lt : fileSize < 2 ^ 40

namespace Record

/-- The first word of a record: bits 32 to 39 of the size above the count of keys. -/
def word (r : Record) : Nat := r.fileSize / 2 ^ 32 * 256 + r.fileKeys.length

/-- The bytes of a record. -/
def write (r : Record) : List UInt8 :=
  Bytes.toLE 2 r.word ++ Bytes.toBE 4 (r.fileSize % 2 ^ 32) ++ r.checksum.bytes ++
    r.fileKeys.flatMap Key.bytes

/-- The first file key of a record, which has at least one. -/
def firstKey (r : Record) : Key := r.fileKeys.head (List.ne_nil_of_length_pos r.keys_pos)

theorem word_lt (r : Record) : r.word < 2 ^ 16 := by
  have := r.keys_lt
  have := r.fileSize_lt
  unfold word
  omega

theorem word_mod (r : Record) : r.word % 256 = r.fileKeys.length := by
  have := r.keys_lt
  unfold word
  omega

theorem length_flatMap_bytes (keys : List Key) (sixteen : ∀ k ∈ keys, k.length = 16) :
    (keys.flatMap Key.bytes).length = 16 * keys.length := by
  induction keys with
  | nil => rfl
  | cons k keys inductionHypothesis =>
    rw [List.flatMap_cons, List.length_append, inductionHypothesis fun k' member =>
      sixteen k' (List.mem_cons_of_mem k member), List.length_cons]
    have width := sixteen k List.mem_cons_self
    unfold Key.length at width
    omega

theorem length_write (r : Record) : r.write.length = 22 + 16 * r.fileKeys.length := by
  have checksumLength : r.checksum.bytes.length = 16 := r.checksum_length
  simp only [write, List.length_append, Bytes.length_toLE, Bytes.length_toBE,
    checksumLength, length_flatMap_bytes r.fileKeys r.fileKeys_length]

theorem write_head (r : Record) : ∃ rest, r.write = UInt8.ofNat r.fileKeys.length :: rest :=
  ⟨_, by rw [write, ← r.word_mod]; rfl⟩

theorem head_ne_zero (r : Record) : UInt8.ofNat r.fileKeys.length ≠ 0 := by
  have := r.keys_pos
  have := r.keys_lt
  intro zero
  have byte := congrArg UInt8.toNat zero
  rw [UInt8.toNat_ofNat', UInt8.toNat_zero] at byte
  omega

end Record

/-- A run of records as the writer lays it out: at least one record, and zero bytes of padding
after the closing zero word. -/
structure Run where
  records : List Record
  padding : Nat
  nonempty : records ≠ []

/-- The bytes of a run: its records, the closing zero word and the padding. -/
def Run.write (run : Run) : List UInt8 :=
  run.records.flatMap Record.write ++ [0, 0] ++ List.replicate run.padding 0

/-- A written run starts with a byte that is not zero. -/
theorem Run.write_head (run : Run) : ∃ b rest, run.write = b :: rest ∧ b ≠ 0 := by
  obtain ⟨records, padding, nonempty⟩ := run
  cases records with
  | nil => exact absurd rfl nonempty
  | cons r records =>
    obtain ⟨rest, written⟩ := r.write_head
    exact ⟨_, _, by rw [Run.write, List.flatMap_cons, written]; rfl, r.head_ne_zero⟩

/-! ### Reading one run -/

/-- The keys of a record read back from its bytes. -/
theorem keysOf_eq (keys : List Key) (sixteen : ∀ k ∈ keys, k.length = 16) (rest : List UInt8)
    (bytes : List UInt8) (count : Nat) (fits : 16 * count ≤ bytes.length)
    (written : bytes = keys.flatMap Key.bytes ++ rest) (counted : count = keys.length) :
    keysOf bytes count fits = keys := by
  induction keys generalizing bytes count with
  | nil =>
    subst counted
    rfl
  | cons k keys inductionHypothesis =>
    subst counted
    have width : k.bytes.length = 16 := sixteen k List.mem_cons_self
    have split : bytes = k.bytes ++ (keys.flatMap Key.bytes ++ rest) := by
      rw [written, List.flatMap_cons, List.append_assoc]
    show keysOf bytes (keys.length + 1) fits = k :: keys
    rw [keysOf]
    congr 1
    · apply Key.ext
      show bytes.take 16 = k.bytes
      rw [split, List.take_left' width]
    · exact inductionHypothesis (fun k' member => sixteen k' (List.mem_cons_of_mem k member))
        (bytes.drop 16) keys.length _ (by rw [split, List.drop_left' width]) rfl

/-- One written record is read and inserted, and reading goes on after it. -/
theorem parseRun_record (pos : Nat) (r : Record) (rest : List UInt8)
    (entries : List EncodingEntry) :
    parseRun pos (r.write ++ rest) entries =
      parseRun (pos + 22 + 16 * r.fileKeys.length) rest (insert entries r.toEncodingEntry) := by
  have bound := r.word_lt
  have sixteen := r.fileKeys_length
  set tail := Bytes.toBE 4 (r.fileSize % 2 ^ 32) ++ r.checksum.bytes ++
    r.fileKeys.flatMap Key.bytes ++ rest with tail_eq
  have shape : r.write ++ rest =
      UInt8.ofNat (r.word % 256) :: UInt8.ofNat (r.word / 256 % 256) :: tail := by
    simp [Record.write, Bytes.toLE, tail]
  have word : (UInt8.ofNat (r.word % 256)).toNat + 256 * (UInt8.ofNat (r.word / 256 % 256)).toNat =
      r.word := by
    simp only [UInt8.toNat_ofNat']
    omega
  have keysLength := Record.length_flatMap_bytes r.fileKeys sixteen
  have checksumLength : r.checksum.bytes.length = 16 := r.checksum_length
  have tailLength : tail.length = 20 + 16 * r.fileKeys.length + rest.length := by
    simp only [tail, List.length_append, Bytes.length_toBE, checksumLength, keysLength]
  have nonzero : r.word ≠ 0 := by
    have := r.keys_pos
    unfold Record.word
    omega
  have high : r.word / 256 = r.fileSize / 2 ^ 32 := by
    have := r.keys_lt
    unfold Record.word
    omega
  have low : Bytes.be (tail.take 4) = r.fileSize % 2 ^ 32 := by
    rw [tail_eq, List.append_assoc, List.append_assoc, List.take_left' (Bytes.length_toBE 4 _),
      Bytes.be_toBE]
    omega
  have after : tail.drop (20 + 16 * r.fileKeys.length) = rest := by
    have front : (Bytes.toBE 4 (r.fileSize % 2 ^ 32) ++ r.checksum.bytes ++
        r.fileKeys.flatMap Key.bytes).length = 20 + 16 * r.fileKeys.length := by
      simp only [List.length_append, Bytes.length_toBE, checksumLength, keysLength]
    rw [tail_eq]
    exact List.drop_left' front
  have keysAt : tail.drop 20 = r.fileKeys.flatMap Key.bytes ++ rest := by
    rw [tail_eq, List.append_assoc, List.append_assoc, ← List.append_assoc (Bytes.toBE 4 _)]
    exact List.drop_left' (by simp [checksumLength])
  rw [shape, parseRun]
  simp only [word]
  simp only [r.word_mod, if_neg nonzero, if_neg (Nat.pos_iff_ne_zero.mp r.keys_pos),
    dif_neg (by omega : ¬tail.length < 20 + 16 * r.fileKeys.length), after, high, low]
  have checksumAt : (tail.drop 4).take 16 = r.checksum.bytes := by
    rw [tail_eq, List.append_assoc, List.append_assoc, List.drop_left' (Bytes.length_toBE 4 _),
      List.take_left' checksumLength]
  rw [Key.prefixOf_eq _ _ _ _ checksumAt, keysOf_eq r.fileKeys sixteen rest _ _ _ keysAt rfl,
    show r.fileSize / 2 ^ 32 * 2 ^ 32 + r.fileSize % 2 ^ 32 = r.fileSize by omega]

theorem parseRun_sentinel (pos : Nat) (rest : List UInt8) (entries : List EncodingEntry) :
    parseRun pos ([0, 0] ++ rest) entries = .ok (entries, pos + 2, rest) := by
  rw [List.cons_append, List.cons_append, List.nil_append, parseRun]
  rfl

/-- The records of a run are read up to its zero word, each inserted in turn. -/
theorem parseRun_records (records : List Record) (pos : Nat) (rest : List UInt8)
    (entries : List EncodingEntry) :
    parseRun pos (records.flatMap Record.write ++ [0, 0] ++ rest) entries =
      .ok (records.foldl (fun kept r => insert kept r.toEncodingEntry) entries,
        pos + (records.flatMap Record.write).length + 2, rest) := by
  induction records generalizing pos entries with
  | nil => rw [List.flatMap_nil, List.nil_append, parseRun_sentinel]; rfl
  | cons r records inductionHypothesis =>
    rw [List.flatMap_cons, List.append_assoc, List.append_assoc, parseRun_record,
      ← List.append_assoc, inductionHypothesis, List.foldl_cons, List.length_append,
      Record.length_write]
    congr 3
    omega

/-- Zero padding is skipped up to the first byte that is not zero. -/
theorem skipZeros_replicate (pos padding : Nat) (b : UInt8) (nonzero : b ≠ 0)
    (rest : List UInt8) :
    skipZeros pos (List.replicate padding 0 ++ b :: rest) = (pos + padding, b :: rest) := by
  induction padding generalizing pos with
  | zero =>
    rw [List.replicate_zero, List.nil_append, skipZeros]
    · rfl
    · intro rest' same
      exact nonzero (List.cons.inj same).1
  | succ padding inductionHypothesis =>
    rw [List.replicate_succ, List.cons_append, skipZeros, inductionHypothesis]
    congr 1
    omega

/-! ### Reading all runs -/

theorem parseRuns_done (count pos : Nat) (bytes : List UInt8) (entries : List EncodingEntry) :
    parseRuns count count pos bytes entries = .ok entries := by
  unfold parseRuns
  rw [if_neg (Nat.lt_irrefl count)]

/-- Written runs are all read, whatever their padding and whatever follows the last one. -/
theorem parseRuns_write (runs : List Run) (trailing : List UInt8) (count run pos : Nat)
    (entries : List EncodingEntry) (ends : run + runs.length = count) :
    parseRuns count run pos (runs.flatMap Run.write ++ trailing) entries =
      .ok ((runs.flatMap (·.records)).foldl (fun kept r => insert kept r.toEncodingEntry)
        entries) := by
  induction runs generalizing run pos entries with
  | nil =>
    simp only [List.length_nil, Nat.add_zero] at ends
    subst ends
    exact parseRuns_done run pos _ entries
  | cons first rest inductionHypothesis =>
    obtain ⟨b, bytes, written, nonzero⟩ := first.write_head
    have below : run < count := by simp at ends; omega
    unfold parseRuns
    rw [if_pos below, List.flatMap_cons, List.append_assoc, written, List.cons_append]
    dsimp only
    rw [← List.cons_append, ← written, Run.write, List.append_assoc, parseRun_records]
    simp only [bind, Except.bind]
    rw [List.flatMap_cons, List.foldl_append]
    cases rest with
    | nil =>
      simp only [List.length_cons, List.length_nil] at ends
      rw [show run + 1 = count by omega]
      exact parseRuns_done count _ _ _
    | cons next others =>
      obtain ⟨b', bytes', written', nonzero'⟩ := next.write_head
      rw [List.flatMap_cons, List.append_assoc, written', List.cons_append,
        skipZeros_replicate _ _ _ nonzero', ← List.cons_append, ← written', ← List.append_assoc,
        ← List.flatMap_cons]
      exact inductionHypothesis (run + 1) _ _ (by simp only [List.length_cons] at ends ⊢; omega)

/-! ### Reading a whole table -/

/-- The run count the header gives. -/
def runCount (data : List UInt8) : Nat := Bytes.be (Bytes.slice data 9 4)

/-- The size of the string block and page indices the header declares. -/
def blocksLength (data : List UInt8) : Nat := Bytes.be (Bytes.slice data 18 4) + 32 * runCount data

/-- The blocks the header declares take fewer than `2 ^ 38` bytes, two 32-bit fields being all
that sizes them, so skipping them is always within a signed 64-bit seek. -/
theorem blocksLength_lt (data : List UInt8) : blocksLength data < 2 ^ 63 := by
  have strings := Bytes.be_lt_of_length_le_four (Bytes.length_slice_le data 18 4)
  have runs := Bytes.be_lt_of_length_le_four (Bytes.length_slice_le data 9 4)
  unfold blocksLength runCount
  omega

/-- The reader with its skip resolved: once the header is there and the blocks it declares fit
in the bytes after it, the skip over them succeeds and the runs are read from just after them. -/
theorem parse_eq_runs (data : List UInt8) :
    parse data =
      if data.length < headerLength then .error .truncatedHeader
      else if data.length - headerLength < blocksLength data then
        .error (.blocksPastEnd (blocksLength data) (data.length - headerLength))
      else
        (parseRuns (runCount data) 0 (headerLength + blocksLength data)
          (data.drop (headerLength + blocksLength data)) []).map EncodingTable.mk := by
  have small := blocksLength_lt data
  unfold parse
  unfold blocksLength runCount at small ⊢
  dsimp only
  split_ifs with short fit
  · rfl
  · rfl
  · rw [Cursor.run_skip, if_pos (Nat.le_of_not_lt fit), if_pos small]

/-- The header is read for the run count and the size of the string block, and the runs are
read from just after the page index. -/
theorem parse_eq (header strings index : List UInt8) (runs : List Run) (trailing : List UInt8)
    (headerSize : header.length = 22)
    (runCount : Bytes.be (Bytes.slice header 9 4) = runs.length)
    (stringSize : Bytes.be (Bytes.slice header 18 4) = strings.length)
    (indexSize : index.length = 32 * runs.length) :
    parse (header ++ strings ++ index ++ runs.flatMap Run.write ++ trailing) =
      (parseRuns runs.length 0 (22 + (strings.length + 32 * runs.length))
        (runs.flatMap Run.write ++ trailing) []).map EncodingTable.mk := by
  have regroup : header ++ strings ++ index ++ runs.flatMap Run.write ++ trailing =
      header ++ (strings ++ index ++ runs.flatMap Run.write ++ trailing) := by
    simp only [List.append_assoc]
  have blocks : header ++ strings ++ index ++ runs.flatMap Run.write ++ trailing =
      (header ++ strings ++ index) ++ (runs.flatMap Run.write ++ trailing) := by
    simp only [List.append_assoc]
  have prefixSize :
      (header ++ strings ++ index).length = 22 + (strings.length + 32 * runs.length) := by
    simp only [List.length_append, headerSize, indexSize]
    omega
  have total : (header ++ strings ++ index ++ runs.flatMap Run.write ++ trailing).length =
      22 + (strings.length + 32 * runs.length) + (runs.flatMap Run.write ++ trailing).length := by
    rw [blocks, List.length_append, prefixSize]
  have runsAt : Bytes.be (Bytes.slice
      (header ++ strings ++ index ++ runs.flatMap Run.write ++ trailing) 9 4) = runs.length := by
    rw [regroup, Bytes.slice_append_of_le _ _ (by omega), runCount]
  have stringsAt : Bytes.be (Bytes.slice
      (header ++ strings ++ index ++ runs.flatMap Run.write ++ trailing) 18 4) =
      strings.length := by
    rw [regroup, Bytes.slice_append_of_le _ _ (by omega), stringSize]
  have body : (header ++ strings ++ index ++ runs.flatMap Run.write ++ trailing).drop
      (22 + (strings.length + 32 * runs.length)) = runs.flatMap Run.write ++ trailing := by
    rw [blocks, List.drop_left' prefixSize]
  have fixed : EncodingTable.headerLength = 22 := rfl
  rw [parse_eq_runs, if_neg (by rw [total, fixed]; omega)]
  simp only [blocksLength, EncodingTable.runCount, runsAt, stringsAt, total, fixed]
  rw [if_neg (by omega), body]

/-- A table read from written runs holds their records in order, the first of each
checksum. -/
theorem parse_write_table (header strings index : List UInt8) (runs : List Run)
    (trailing : List UInt8) (headerSize : header.length = 22)
    (runCount : Bytes.be (Bytes.slice header 9 4) = runs.length)
    (stringSize : Bytes.be (Bytes.slice header 18 4) = strings.length)
    (indexSize : index.length = 32 * runs.length) :
    parse (header ++ strings ++ index ++ runs.flatMap Run.write ++ trailing) =
      .ok ⟨((runs.flatMap (·.records)).map (·.toEncodingEntry)).eraseDupsBy
        (fun a b => a.checksum == b.checksum)⟩ := by
  rw [parse_eq header strings index runs trailing headerSize runCount stringSize indexSize,
    parseRuns_write runs trailing runs.length 0 _ [] (Nat.zero_add _), ← foldl_appendNew_nil,
    List.foldl_map]
  rfl

/-- A lookup among the records kept finds the first record with the checksum. -/
theorem entry?_eraseDupsBy (records : List Record) (checksum : Key) :
    entry? ⟨(records.map (·.toEncodingEntry)).eraseDupsBy (fun a b => a.checksum == b.checksum)⟩
        checksum =
      (records.find? (·.checksum == checksum)).map (·.toEncodingEntry) := by
  unfold entry?
  rw [find?_eraseDupsBy EncodingEntry.checksum (· == checksum), List.find?_map]
  rfl

theorem fileKey?_eraseDupsBy (records : List Record) (checksum : Key) :
    fileKey? ⟨(records.map (·.toEncodingEntry)).eraseDupsBy (fun a b => a.checksum == b.checksum)⟩
        checksum =
      (records.find? (·.checksum == checksum)).map (·.firstKey) := by
  rw [fileKey?, entry?_eraseDupsBy]
  cases records.find? (·.checksum == checksum) with
  | none => rfl
  | some r =>
    show r.fileKeys.head? = some r.firstKey
    exact List.head?_eq_some_head _

/-- Encoding tables read back. A table laid out as a 22-byte header giving the run count and the
size of the string block, the string block, a page index of 32 bytes per run, the written runs
and any trailing bytes is read whatever the padding after each run. Its records are those of all
runs in order, minus each record whose checksum an earlier record has; looking a checksum up
finds the first record with it, its first file key and its size. -/
theorem parse_writeRuns (header strings index : List UInt8) (runs : List Run)
    (trailing : List UInt8) (headerSize : header.length = 22)
    (runCount : Bytes.be (Bytes.slice header 9 4) = runs.length)
    (stringSize : Bytes.be (Bytes.slice header 18 4) = strings.length)
    (indexSize : index.length = 32 * runs.length) :
    let records := runs.flatMap (·.records)
    ∃ table, parse (header ++ strings ++ index ++ runs.flatMap Run.write ++ trailing) = .ok table ∧
      table.entries =
        (records.map (·.toEncodingEntry)).eraseDupsBy (fun a b => a.checksum == b.checksum) ∧
      ∀ checksum,
        table.entry? checksum = (records.find? (·.checksum == checksum)).map (·.toEncodingEntry) ∧
        table.fileKey? checksum = (records.find? (·.checksum == checksum)).map (·.firstKey) ∧
        table.fileSize? checksum = (records.find? (·.checksum == checksum)).map (·.fileSize) := by
  intro records
  rw [parse_write_table header strings index runs trailing headerSize runCount stringSize
    indexSize]
  refine ⟨_, rfl, rfl, fun checksum => ⟨entry?_eraseDupsBy records checksum,
    fileKey?_eraseDupsBy records checksum, ?_⟩⟩
  rw [fileSize?, entry?_eraseDupsBy, Option.map_map]
  rfl

/-- The header of a table of two runs with pages of one kilobyte and no string block. -/
def pagedHeader : List UInt8 :=
  [0x45, 0x4E, 1, 16, 16, 0, 1, 0, 0, 0, 0, 0, 2, 0, 0, 0, 0, 0, 0, 0, 0, 0]

/-- Two runs of one record each, both padded to the end of a one-kilobyte page. -/
def pagedRuns : List Run :=
  [⟨[{ checksum := ⟨List.replicate 16 0xA0, by simp⟩, fileKeys := [⟨List.replicate 16 1, by simp⟩],
        fileSize := 10, checksum_length := rfl, fileKeys_length := by decide,
        keys_pos := by decide, keys_lt := by decide, fileSize_lt := by decide }], 984, by simp⟩,
    ⟨[{ checksum := ⟨List.replicate 16 0xB0, by simp⟩, fileKeys := [⟨List.replicate 16 2, by simp⟩],
        fileSize := 20, checksum_length := rfl, fileKeys_length := by decide,
        keys_pos := by decide, keys_lt := by decide, fileSize_lt := by decide }], 984, by simp⟩]

theorem parse_writeRuns_paged :
    pagedHeader.length = 22 ∧ Bytes.be (Bytes.slice pagedHeader 9 4) = pagedRuns.length ∧
    Bytes.be (Bytes.slice pagedHeader 18 4) = ([] : List UInt8).length ∧
    (List.replicate 64 (0xEE : UInt8)).length = 32 * pagedRuns.length ∧
    let records := pagedRuns.flatMap (·.records)
    ∃ table, parse (pagedHeader ++ [] ++ List.replicate 64 0xEE ++ pagedRuns.flatMap Run.write ++
        []) = .ok table ∧
      table.entries =
        (records.map (·.toEncodingEntry)).eraseDupsBy (fun a b => a.checksum == b.checksum) ∧
      ∀ checksum,
        table.entry? checksum = (records.find? (·.checksum == checksum)).map (·.toEncodingEntry) ∧
        table.fileKey? checksum = (records.find? (·.checksum == checksum)).map (·.firstKey) ∧
        table.fileSize? checksum = (records.find? (·.checksum == checksum)).map (·.fileSize) :=
  ⟨by decide, by decide, by decide, by decide,
    parse_writeRuns pagedHeader [] (List.replicate 64 0xEE) pagedRuns [] (by decide) (by decide)
      (by decide) (by decide)⟩

end AssetStore.EncodingTable
