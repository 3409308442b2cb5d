import AssetStore.Proofs.EncodingTable
/-!
# What the encoding reader accepts

`EncodingTable.parse` is a total function of its input, by well-founded recursion on the bytes
left and the runs left, so it answers every byte string. This file shows what it answers: it
either refuses the bytes with a `Fault`, which the store reports as a malformed encoding table,
or it gives a well-formed table (`EncodingTable.WellFormed`), whose records have distinct
checksums and are each a record the writer can lay out: a 16-byte checksum, one to 255 file keys
of 16 bytes, and a size below `2 ^ 40`.

Only the fixed header can be cut short. Every later read is checked against the bytes that remain
before it is made: the blocks skipped after the header, the start of each run, the record word,
and the twenty bytes of size and checksum with the keys the word counts. So the input is refused
as truncated exactly when it is shorter than the header.

The main statement is `parse_fits_or_refuses`.
-/

namespace AssetStore

/-- The table whose bytes an error refuses, for the errors that refuse bytes. -/
def Error.refusedTable? : Error → Option Table
  | .malformed table _ => some table
  | .truncated table _ => some table
  | _ => none

/-- Naming the file keeps the table an error refuses. -/
@[simp] theorem Error.refusedTable?_atPath (e : Error) (path : String) :
    (e.atPath path).refusedTable? = e.refusedTable? := by
  cases e <;> rfl

theorem Key.length_prefixOf (bytes : List UInt8) (n : Nat) (h : 0 < n ∧ n ≤ bytes.length) :
    (Key.prefixOf bytes n h).length = n := by
  simp only [Key.length, Key.prefixOf, List.length_take]
  omega

namespace EncodingTable

/-- A table as the reader gives it: one record per checksum, each one the writer can lay out. -/
structure WellFormed (t : EncodingTable) : Prop where
  distinct : (t.entries.map (·.checksum)).Nodup
  records : ∀ e ∈ t.entries, ∃ r : Record, r.toEncodingEntry = e

theorem wellFormed_nil : (⟨[]⟩ : EncodingTable).WellFormed :=
  ⟨List.nodup_nil, fun _ member => absurd member List.not_mem_nil⟩

/-- Inserting a record the writer can lay out keeps a table well-formed. -/
theorem WellFormed.insert {entries : List EncodingEntry} (wellFormed : (⟨entries⟩ : EncodingTable).WellFormed)
    {e : EncodingEntry} (record : ∃ r : Record, r.toEncodingEntry = e) :
    (⟨EncodingTable.insert entries e⟩ : EncodingTable).WellFormed := by
  unfold EncodingTable.insert
  split
  · exact wellFormed
  · next absent =>
    refine ⟨nodup_map_append EncodingEntry.checksum wellFormed.distinct
      (fresh_of_not_any EncodingEntry.checksum absent), fun e' member => ?_⟩
    rcases List.mem_append.mp member with old | new
    · exact wellFormed.records e' old
    · rw [List.mem_singleton.mp new]
      exact record

/-! ### The keys of a record -/

theorem length_keysOf (bytes : List UInt8) (count : Nat) (fits : 16 * count ≤ bytes.length) :
    (keysOf bytes count fits).length = count := by
  induction count generalizing bytes with
  | zero => rfl
  | succ count inductionHypothesis => simp [keysOf, inductionHypothesis]

theorem length_of_mem_keysOf {bytes : List UInt8} {count : Nat} {fits : 16 * count ≤ bytes.length}
    {k : Key} (member : k ∈ keysOf bytes count fits) : k.length = 16 := by
  induction count generalizing bytes with
  | zero => cases member
  | succ count inductionHypothesis =>
    rcases List.mem_cons.mp member with first | later
    · rw [first, Key.length_prefixOf]
    · exact inductionHypothesis later

/-- An entry within the writer's bounds is one of its records. -/
theorem exists_record (e : EncodingEntry) (checksumLength : e.checksum.length = 16)
    (keyLengths : ∀ k ∈ e.fileKeys, k.length = 16) (keysPos : 0 < e.fileKeys.length)
    (keysLt : e.fileKeys.length < 256) (sizeLt : e.fileSize < 2 ^ 40) :
    ∃ r : Record, r.toEncodingEntry = e :=
  ⟨⟨e, checksumLength, keyLengths, keysPos, keysLt, sizeLt⟩, rfl⟩

/-- The record a run reads at a non-zero word whose low byte counts keys that the bytes hold is
one the writer can lay out: the count is the low byte, so at most 255, and the size has the
word's high byte above four more bytes, so it is below `2 ^ 40`. -/
theorem checksum_fits (lo hi : UInt8) (tail : List UInt8)
    (fits : ¬tail.length < 20 + 16 * ((lo.toNat + 256 * hi.toNat) % 256)) :
    0 < 16 ∧ 16 ≤ (tail.drop 4).length := by
  rw [List.length_drop]
  omega

theorem keys_fit (lo hi : UInt8) (tail : List UInt8)
    (fits : ¬tail.length < 20 + 16 * ((lo.toNat + 256 * hi.toNat) % 256)) :
    16 * ((lo.toNat + 256 * hi.toNat) % 256) ≤ (tail.drop 20).length := by
  rw [List.length_drop]
  omega

theorem record_read (lo hi : UInt8) (tail : List UInt8) (counted : (lo.toNat + 256 * hi.toNat) % 256 ≠ 0)
    (fits : ¬tail.length < 20 + 16 * ((lo.toNat + 256 * hi.toNat) % 256)) :
    ∃ r : Record, r.toEncodingEntry =
      { checksum := Key.prefixOf (tail.drop 4) 16 (checksum_fits lo hi tail fits)
        fileKeys := keysOf (tail.drop 20) ((lo.toNat + 256 * hi.toNat) % 256)
          (keys_fit lo hi tail fits)
        fileSize := (lo.toNat + 256 * hi.toNat) / 256 * 2 ^ 32 + Bytes.be (tail.take 4) } := by
  have word : lo.toNat + 256 * hi.toNat < 2 ^ 16 := by
    have := lo.toNat_lt
    have := hi.toNat_lt
    omega
  have low : Bytes.be (tail.take 4) < 2 ^ 32 :=
    Bytes.be_lt_of_length_le_four (by rw [List.length_take]; omega)
  apply exists_record
  · exact Key.length_prefixOf _ _ (by rw [List.length_drop]; omega)
  · exact fun _ member => length_of_mem_keysOf member
  · rw [length_keysOf]
    omega
  · rw [length_keysOf]
    omega
  · show (lo.toNat + 256 * hi.toNat) / 256 * 2 ^ 32 + Bytes.be (tail.take 4) < 2 ^ 40
    omega

/-! ### Reading runs -/

/-- A run read into a well-formed table leaves it well-formed. -/
theorem parseRun_wellFormed {pos : Nat} {rest : List UInt8} {entries : List EncodingEntry}
    {after : List EncodingEntry × Nat × List UInt8}
    (wellFormed : (⟨entries⟩ : EncodingTable).WellFormed) (read : parseRun pos rest entries = .ok after) :
    (⟨after.1⟩ : EncodingTable).WellFormed := by
  fun_induction parseRun pos rest entries with
  | case1 pos entries lo hi tail word sentinel =>
    cases read
    exact wellFormed
  | case2 => cases read
  | case3 => cases read
  | case4 pos entries lo hi tail word filled count counted fits entry inductionHypothesis =>
    exact inductionHypothesis (wellFormed.insert (record_read lo hi tail counted fits)) read
  | case5 pos rest entries short =>
    cases read
    exact wellFormed

/-- A run is refused only for a record word that counts no keys or for keys past the end. -/
theorem parseRun_refused {pos : Nat} {rest : List UInt8} {entries : List EncodingEntry} {f : Fault}
    (refused : parseRun pos rest entries = .error f) :
    (∃ p, f = .noKeys p) ∨ ∃ p count, f = .keysPastEnd p count := by
  fun_induction parseRun pos rest entries with
  | case1 => cases refused
  | case2 pos => cases refused; exact .inl ⟨pos, rfl⟩
  | case3 pos entries lo hi tail word filled count => cases refused; exact .inr ⟨pos, count, rfl⟩
  | case4 pos entries lo hi tail word filled count counted fits entry inductionHypothesis =>
    exact inductionHypothesis refused
  | case5 => cases refused

/-- Runs read into a well-formed table leave it well-formed. -/
theorem parseRuns_wellFormed (count run pos : Nat) (rest : List UInt8) (entries : List EncodingEntry)
    (wellFormed : (⟨entries⟩ : EncodingTable).WellFormed) {table : List EncodingEntry}
    (read : parseRuns count run pos rest entries = .ok table) :
    (⟨table⟩ : EncodingTable).WellFormed := by
  induction run, pos, rest, entries using parseRuns.induct count with
  | case1 run pos entries below =>
    unfold parseRuns at read
    simp [below] at read
  | case2 run pos entries below head tail inductionHypothesis =>
    unfold parseRuns at read
    rw [if_pos below] at read
    cases ran : parseRun pos (head :: tail) entries with
    | error f => simp [ran, bind, Except.bind] at read
    | ok after =>
      obtain ⟨entries', pos', rest'⟩ := after
      simp only [ran, bind, Except.bind] at read
      exact inductionHypothesis entries' _ _ (parseRun_wellFormed wellFormed ran) read
  | case3 run pos rest entries done =>
    unfold parseRuns at read
    rw [if_neg done] at read
    cases read
    exact wellFormed

/-- Reading runs is refused only where a run starts at the end of the input or a record is
refused. -/
theorem parseRuns_refused (count run pos : Nat) (rest : List UInt8) (entries : List EncodingEntry)
    {f : Fault} (refused : parseRuns count run pos rest entries = .error f) :
    (∃ r, f = .runsPastEnd count r) ∨ (∃ p, f = .noKeys p) ∨ ∃ p c, f = .keysPastEnd p c := by
  induction run, pos, rest, entries using parseRuns.induct count with
  | case1 run pos entries below =>
    unfold parseRuns at refused
    simp only [below, if_true] at refused
    cases refused
    exact .inl ⟨run, rfl⟩
  | case2 run pos entries below head tail inductionHypothesis =>
    unfold parseRuns at refused
    rw [if_pos below] at refused
    cases ran : parseRun pos (head :: tail) entries with
    | error g =>
      simp only [ran, bind, Except.bind] at refused
      cases refused
      exact .inr (parseRun_refused ran)
    | ok after =>
      obtain ⟨entries', pos', rest'⟩ := after
      simp only [ran, bind, Except.bind] at refused
      exact inductionHypothesis entries' _ _ refused
  | case3 run pos rest entries done =>
    unfold parseRuns at refused
    rw [if_neg done] at refused
    cases refused

/-! ### The whole table -/

/-- A table the reader gives is well-formed. -/
theorem parse_wellFormed {data : List UInt8} {table : EncodingTable} (read : parse data = .ok table) :
    table.WellFormed := by
  rw [parse_eq_runs] at read
  split_ifs at read
  generalize runs : parseRuns _ _ _ _ _ = result at read
  cases result with
  | error f => cases read
  | ok entries =>
    cases read
    exact parseRuns_wellFormed _ _ _ _ _ wellFormed_nil runs

/-- The reader refuses bytes for a cut header, for blocks past the end, or as reading the runs
does; the skip over the blocks never fails. -/
theorem parse_refused {data : List UInt8} {f : Fault} (refused : parse data = .error f) :
    (f = .truncatedHeader ↔ data.length < headerLength) ∧
      ((f = .truncatedHeader ∨ ∃ need remain, f = .blocksPastEnd need remain) ∨
        (∃ r, f = .runsPastEnd (runCount data) r) ∨ (∃ p, f = .noKeys p) ∨
          ∃ p c, f = .keysPastEnd p c) := by
  rw [parse_eq_runs] at refused
  split_ifs at refused with short blocks
  · cases refused
    exact ⟨iff_of_true rfl short, .inl (.inl rfl)⟩
  · cases refused
    exact ⟨iff_of_false nofun short, .inl (.inr ⟨_, _, rfl⟩)⟩
  · generalize runs : parseRuns _ _ _ _ _ = result at refused
    cases result with
    | ok entries => cases refused
    | error g =>
      cases refused
      have shapes := parseRuns_refused _ _ _ _ _ runs
      refine ⟨iff_of_false (fun same => ?_) short, .inr shapes⟩
      rcases shapes with ⟨r, rfl⟩ | ⟨p, rfl⟩ | ⟨p, c, rfl⟩ <;> cases same

theorem parse_eq_truncatedHeader {data : List UInt8} :
    parse data = .error .truncatedHeader ↔ data.length < headerLength :=
  ⟨fun refused => (parse_refused refused).1.mp rfl, fun short => by
    rw [parse_eq_runs, if_pos short]⟩

theorem refusedTable?_of_parse {data : List UInt8} {f : Fault} (refused : parse data = .error f) :
    f.toError.refusedTable? = some .encoding := by
  rcases (parse_refused refused).2 with (rfl | ⟨_, _, rfl⟩) | ⟨_, rfl⟩ | ⟨_, rfl⟩ | ⟨_, _, rfl⟩ <;>
    rfl

/-- The encoding reader on any bytes: it gives a well-formed table, whose records have distinct
checksums and each hold a 16-byte checksum, one to 255 file keys of 16 bytes and a size below
`2 ^ 40`; or it refuses the bytes, and the store reports the refusal as a malformed encoding
table, never as another kind of error. The refusal is for a cut-short input exactly when the
input is shorter than the header: every later read is checked before it is made. -/
theorem parse_fits_or_refuses (data : List UInt8) :
    (∃ table, parse data = .ok table ∧ table.WellFormed) ∨
      ∃ f, parse data = .error f ∧ f.toError.refusedTable? = some .encoding ∧
        (f = .truncatedHeader ↔ data.length < headerLength) := by
  cases read : parse data with
  | ok table => exact .inl ⟨table, rfl, parse_wellFormed read⟩
  | error f => exact .inr ⟨f, rfl, refusedTable?_of_parse read, (parse_refused read).1⟩

end EncodingTable

end AssetStore
