import Mathlib.Data.List.Basic
import AssetStore.Stream.Segmented
import AssetStore.Stream.Cursor
/-!
# Segmented streams read as flat cursors

A segmented stream made from some ranges behaves, under every sequence of reads, seeks and typed
reads, exactly like a flat cursor over the ranges' bytes laid end to end, each range clamped to
its source (`SegmentedStream.ofSegments_reads_as_flat`).

The stream keeps where each range starts. It is well formed when every start is where the
ranges before it end and the total is their length (`SegmentedStream.WellFormed`); a stream is
made well formed, and afterwards only its position changes. In a well-formed stream the search
for the range holding a position lands on the last range that starts at or before it, and that
range has bytes left from the position on (`SegmentedStream.search_lands`). So the search never
comes up short, no pass of the read loop is empty, and the loop reads exactly the bytes a flat
cursor reads (`SegmentedStream.readFrom_eq`).

A typed read is built from four operations on a stream: the position, the length, a read and a
move. Each of them agrees with the flat cursor's, and agreement is kept by sequencing
(`SegmentedStream.Transfers.bind`), so every typed read of the library agrees too. Seeks differ
only in the stream they move, and they aim at the same targets.
-/

namespace AssetStore

namespace Segment

/-- The end of a range clamped to its source: `skip + length`, saturated at the largest 64-bit
size, and cut at the end of the source. -/
def clampedEnd (s : Segment) : Nat :=
  min (min (s.skip + s.length) (2 ^ 64 - 1)) s.source.length

/-- The bytes a range stands for: its source from `min skip end` to the clamped end. -/
def window (s : Segment) : List UInt8 :=
  (s.source.take s.clampedEnd).drop (min s.skip s.clampedEnd)

theorem bytes_eq_window (s : Segment) : s.bytes = s.window := by
  unfold bytes window
  change (s.source.take s.clampedEnd).drop s.skip = _
  by_cases before : s.skip ≤ s.clampedEnd
  · rw [Nat.min_eq_left before]
  · -- a start past the clamped end leaves nothing either way
    have short : (s.source.take s.clampedEnd).length ≤ s.clampedEnd := List.length_take_le _ _
    rw [Nat.min_eq_right (by omega), List.drop_eq_nil_of_le (by omega),
      List.drop_eq_nil_of_le short]

/-- A range is made exactly when its end fits in 64 bits and lies within its source. -/
theorem make_ok_iff (source : List UInt8) (skip length : Nat) :
    (∃ s, make source skip length = .ok s) ↔ skip + length < 2 ^ 64 ∧ skip + length ≤ source.length := by
  unfold make
  dsimp only
  split
  · rename_i overflows
    simp only [reduceCtorEq, exists_false, false_iff, not_and, Nat.not_le]
    omega
  · split
    · rename_i fits past
      simp only [reduceCtorEq, exists_false, false_iff, not_and, Nat.not_le]
      omega
    · rename_i fits within
      simp only [Except.ok.injEq, exists_eq', true_iff]
      omega

end Segment

/-- The bytes of some ranges laid end to end, each clamped to its source. -/
def flatBytes (segments : List Segment) : List UInt8 :=
  (segments.map Segment.window).flatten

namespace Cursor

/-- The exact target of a seek of a flat cursor, counted from the start, the end or the
position. -/
def target (c : Cursor) : SeekFrom → Int
  | .start offset => offset
  | .fromEnd delta => c.data.length + delta
  | .current delta => c.pos + delta

/-- A seek of a flat cursor that stays within its bytes: the target is taken when it lies in
`[0, length]`, and refused otherwise. -/
def seekWithin (c : Cursor) (origin : SeekFrom) : Except IoError Cursor :=
  let t := c.target origin
  if 0 ≤ t ∧ t ≤ c.data.length then .ok { c with pos := t.toNat }
  else .error (.seekOutside t c.data.length)

end Cursor

/-! ### Programs on a byte stream -/

/-- What an operation on a byte stream answers. -/
inductive StreamValue
  | number (n : Nat)
  | bytes (b : List UInt8)
  | text (s : String)
  | key (k : Key)
  | done
  deriving DecidableEq

/-- The typed reads of the library. -/
inductive TypedRead
  /-- Up to `n` bytes, fewer only at the end: a read into a buffer of `n` bytes. -/
  | upTo (n : Nat)
  | toEnd
  | position
  | remaining
  /-- A number of `width` bytes, such as a 16-, 32- or 64-bit one. -/
  | number (endian : Endian) (width : Nat)
  | cstring
  | bytes (n : Nat)
  | key (n : Nat)
  | skip (n : Nat)
  deriving DecidableEq

/-- The read that a typed read stands for, on any byte stream. -/
def TypedRead.reading {σ : Type} [ByteStream σ] : TypedRead → Reading σ StreamValue
  | .upTo n => .bytes <$> Reading.upTo n
  | .toEnd => .bytes <$> Reading.toEnd
  | .position => .number <$> Reading.position
  | .remaining => .number <$> Reading.remaining
  | .number endian width => .number <$> Reading.number endian width
  | .cstring => .text <$> Reading.cstring
  | .bytes n => .bytes <$> Reading.bytes n
  | .key n => .key <$> Reading.key n
  | .skip n => (fun _ => .done) <$> Reading.skip n

/-- One operation of a program on a byte stream: a seek, a look at the length or at all the
bytes, or a typed read. -/
inductive StreamOp
  | seek (origin : SeekFrom)
  | length
  | toBytes
  | read (r : TypedRead)
  deriving DecidableEq

namespace StreamOp

variable {σ : Type} [ByteStream σ]

/-- Runs one operation on a stream with the given seek and bytes. A seek answers the new
position; one that is refused leaves the stream where it was. -/
def run (seek : σ → SeekFrom → Except IoError σ) (whole : σ → List UInt8) :
    StreamOp → σ → Except Error StreamValue × σ
  | .seek origin, s =>
    match seek s origin with
    | .ok s' => (.ok (.number (ByteStream.position s')), s')
    | .error e => (.error (.io e), s)
  | .length, s => (.ok (.number (ByteStream.length s)), s)
  | .toBytes, s => (.ok (.bytes (whole s)), s)
  | .read t, s => t.reading.run s

/-- Runs a program one operation after another, going on after a failed one, and collects the
answers. -/
def runAll (seek : σ → SeekFrom → Except IoError σ) (whole : σ → List UInt8) :
    List StreamOp → σ → List (Except Error StreamValue) × σ
  | [], s => ([], s)
  | op :: ops, s =>
    let first := op.run seek whole s
    let rest := runAll seek whole ops first.2
    (first.1 :: rest.1, rest.2)

end StreamOp

namespace SegmentedStream

/-! ### Well-formed streams -/

/-- Where each of some ranges starts when they are laid end to end from `acc`. -/
def prefixStarts : Nat → List (List UInt8) → List Nat
  | _, [] => []
  | acc, bytes :: rest => acc :: prefixStarts (acc + bytes.length) rest

theorem prefixStarts_append (acc : Nat) (segments : List (List UInt8)) (bytes : List UInt8) :
    prefixStarts acc (segments ++ [bytes]) = prefixStarts acc segments ++ [acc + segments.flatten.length] := by
  induction segments generalizing acc with
  | nil => simp [prefixStarts]
  | cons first rest inductionHypothesis =>
    rw [List.cons_append, prefixStarts, prefixStarts, inductionHypothesis, List.flatten_cons,
      List.length_append, Nat.add_assoc, List.cons_append]

/-- The bookkeeping of a stream agrees with its ranges: each range starts where the ranges
before it end, and the total is their length. -/
structure WellFormed (r : SegmentedStream) : Prop where
  starts_eq : r.starts = prefixStarts 0 r.segments
  total_eq : r.total = r.toBytes.length

theorem WellFormed.moveTo {r : SegmentedStream} (wellFormed : r.WellFormed) (p : Nat) :
    ({ r with pos := p } : SegmentedStream).WellFormed :=
  ⟨wellFormed.starts_eq, wellFormed.total_eq⟩

theorem WellFormed.addSegment {r : SegmentedStream} (wellFormed : r.WellFormed) (bytes : List UInt8) :
    (r.addSegment bytes).WellFormed := by
  unfold SegmentedStream.addSegment
  split
  · exact wellFormed
  · refine ⟨?_, ?_⟩
    · show r.starts ++ [r.total] = prefixStarts 0 (r.segments ++ [bytes])
      rw [prefixStarts_append, wellFormed.starts_eq, wellFormed.total_eq, Nat.zero_add]
      rfl
    · show r.total + bytes.length = (r.segments ++ [bytes]).flatten.length
      rw [wellFormed.total_eq, List.flatten_append, List.length_append]
      simp [toBytes]

theorem wellFormed_ofSegments (segments : List Segment) : (ofSegments segments).WellFormed := by
  have run : ∀ (pieces : List (List UInt8)) (r : SegmentedStream), r.WellFormed →
      (pieces.foldl addSegment r).WellFormed := by
    intro pieces
    induction pieces with
    | nil => exact fun r wellFormed => wellFormed
    | cons bytes rest inductionHypothesis =>
      exact fun r wellFormed => inductionHypothesis _ (wellFormed.addSegment bytes)
  exact run _ empty ⟨rfl, rfl⟩

/-- Adding a range adds its bytes after the others; an empty one adds nothing. -/
theorem toBytes_addSegment (r : SegmentedStream) (bytes : List UInt8) :
    (r.addSegment bytes).toBytes = r.toBytes ++ bytes := by
  unfold addSegment
  split
  · rename_i none
    rw [List.isEmpty_iff.mp none, List.append_nil]
  · simp [toBytes]

theorem toBytes_ofSegments (segments : List Segment) :
    (ofSegments segments).toBytes = flatBytes segments := by
  have run : ∀ (pieces : List (List UInt8)) (r : SegmentedStream),
      (pieces.foldl addSegment r).toBytes = r.toBytes ++ pieces.flatten := by
    intro pieces
    induction pieces with
    | nil => simp
    | cons bytes rest inductionHypothesis =>
      intro r
      rw [List.foldl_cons, inductionHypothesis, toBytes_addSegment, List.flatten_cons,
        List.append_assoc]
  rw [ofSegments, run, flatBytes, List.map_congr_left fun s _ => Segment.bytes_eq_window s]
  rfl

theorem pos_ofSegments (segments : List Segment) : (ofSegments segments).pos = 0 := by
  have run : ∀ (pieces : List (List UInt8)) (r : SegmentedStream),
      (pieces.foldl addSegment r).pos = r.pos := by
    intro pieces
    induction pieces with
    | nil => exact fun r => rfl
    | cons bytes rest inductionHypothesis =>
      intro r
      rw [List.foldl_cons, inductionHypothesis]
      unfold addSegment
      split <;> rfl
  exact run _ empty

/-! ### Finding the range that holds a position -/

/-- In ranges laid end to end from `acc`, the search for a position among them passes at least
the first start, so one less than where it stops is a range `idx`. That range starts at or
before the position and still has bytes from there on, and the bytes from the position on are
those followed by the ranges after it. -/
theorem search_lands (segments : List (List UInt8)) (acc pos : Nat) (after : acc ≤ pos)
    (inside : pos < acc + segments.flatten.length) :
    ∃ idx, partitionPoint (· ≤ pos) (prefixStarts acc segments) = idx + 1 ∧
      (prefixStarts acc segments).getD idx 0 ≤ pos ∧
      (segments.getD idx []).drop (pos - (prefixStarts acc segments).getD idx 0) ≠ [] ∧
      segments.flatten.drop (pos - acc) =
        (segments.getD idx []).drop (pos - (prefixStarts acc segments).getD idx 0) ++
          (segments.drop (idx + 1)).flatten := by
  induction segments generalizing acc with
  | nil => simp at inside; omega
  | cons first rest inductionHypothesis =>
    have passes : partitionPoint (· ≤ pos) (prefixStarts acc (first :: rest)) =
        partitionPoint (· ≤ pos) (prefixStarts (acc + first.length) rest) + 1 := by
      rw [partitionPoint, partitionPoint, prefixStarts,
        List.takeWhile_cons_of_pos (by simpa using after), List.length_cons]
    rw [List.flatten_cons, List.length_append] at inside
    by_cases within : pos < acc + first.length
    · -- the next range starts past the position, so the search stops after the first
      have stops : partitionPoint (· ≤ pos) (prefixStarts (acc + first.length) rest) = 0 := by
        cases rest with
        | nil => rfl
        | cons next more =>
          rw [partitionPoint, prefixStarts, List.takeWhile_cons_of_neg (by simp; omega)]
          rfl
      refine ⟨0, by rw [passes, stops], ?_, ?_, ?_⟩
      · simpa [prefixStarts] using after
      · simp [prefixStarts]
        omega
      · simp only [prefixStarts, List.getD_cons_zero, List.flatten_cons, Nat.zero_add,
          List.drop_succ_cons, List.drop_zero]
        rw [List.drop_append_of_le_length (by omega)]
    · obtain ⟨idx, point, before, left, split⟩ :=
        inductionHypothesis (acc + first.length) (by omega) (by omega)
      refine ⟨idx + 1, by rw [passes, point], ?_, ?_, ?_⟩
      · simpa [prefixStarts] using before
      · simpa [prefixStarts] using left
      · simp only [prefixStarts, List.getD_cons_succ, List.flatten_cons, List.drop_succ_cons]
        rw [List.drop_append, List.drop_eq_nil_of_le (by omega), List.nil_append,
          show pos - acc - first.length = pos - (acc + first.length) by omega, split]

/-- In a well-formed stream a position before the end is found in the range that holds it: the
search never comes up short, the range starts at or before the position, it has bytes left from
there, and the ranges after it follow them. -/
theorem locate_holds {r : SegmentedStream} (wellFormed : r.WellFormed) {pos : Nat}
    (inside : pos < r.total) :
    ∃ idx, r.locate pos = some idx ∧ r.starts.getD idx 0 ≤ pos ∧
      (r.segments.getD idx []).drop (pos - r.starts.getD idx 0) ≠ [] ∧
      r.toBytes.drop pos =
        (r.segments.getD idx []).drop (pos - r.starts.getD idx 0) ++ (r.segments.drop (idx + 1)).flatten := by
  have inBytes : pos < 0 + r.segments.flatten.length := by
    rw [Nat.zero_add]
    exact wellFormed.total_eq ▸ inside
  obtain ⟨idx, point, before, left, split⟩ := search_lands r.segments 0 pos (Nat.zero_le pos) inBytes
  refine ⟨idx, ?_, ?_⟩
  · rw [locate, if_neg (by omega), wellFormed.starts_eq, point, Nat.add_sub_cancel]
  · rw [wellFormed.starts_eq, ← Nat.sub_zero pos, toBytes]
    exact ⟨before, left, split⟩

/-! ### Reading -/

/-- A position that some range holds lies before the end of the stream. -/
theorem lt_total_of_locate {r : SegmentedStream} {pos idx : Nat} (located : r.locate pos = some idx) :
    pos < r.total := by
  unfold locate at located
  split at located
  · cases located
  · omega

/-- On a well-formed stream a read takes the bytes that a flat cursor over the stream's bytes
takes, and moves past them. -/
theorem readFrom_eq {r : SegmentedStream} (wellFormed : r.WellFormed) (want : Nat) :
    r.readFrom want = ((r.toBytes.drop r.pos).take want,
      { r with pos := r.pos + ((r.toBytes.drop r.pos).take want).length }) := by
  fun_induction readFrom r want with
  | case1 r => simp
  | case2 r want nonzero missing =>
    have past : r.toBytes.length ≤ r.pos := by
      rw [← wellFormed.total_eq]
      unfold locate at missing
      split at missing
      · assumption
      · cases missing
    simp [List.drop_eq_nil_of_le past]
  | case3 r want nonzero idx located available n empty =>
    obtain ⟨idx', found, -, left, -⟩ := locate_holds wellFormed (lt_total_of_locate located)
    rw [located, Option.some_inj] at found
    subst found
    have some : 0 < available.length := List.length_pos_of_ne_nil left
    have none : min available.length want = 0 := empty
    omega
  | case4 r want nonzero idx located available n positive rest r' recursive inductionHypothesis =>
    obtain ⟨idx', found, -, -, split⟩ := locate_holds wellFormed (lt_total_of_locate located)
    rw [located, Option.some_inj] at found
    subst found
    have short : n ≤ available.length := Nat.min_le_left _ _
    have wanted : n ≤ want := Nat.min_le_right _ _
    have taken : (r.toBytes.drop r.pos).take want =
        available.take n ++ (r.toBytes.drop (r.pos + n)).take (want - n) := by
      rw [← Nat.add_sub_cancel' wanted, List.take_add, Nat.add_sub_cancel' wanted, List.drop_drop,
        split, List.take_append_of_le_length short]
    rw [inductionHypothesis (wellFormed.moveTo _)] at recursive
    obtain ⟨rfl, rfl⟩ := Prod.mk.inj recursive
    rw [taken]
    simp only [List.length_append, List.length_take, Nat.min_eq_left short, Nat.add_assoc]
    rfl

/-! ### Reading as a flat cursor -/

/-- A stream reads as a flat cursor over `bytes`: the stream is well formed, `bytes` are the
bytes of both, and both are at the same position. -/
structure ReadsAs (bytes : List UInt8) (r : SegmentedStream) (c : Cursor) : Prop where
  wellFormed : r.WellFormed
  toBytes_eq : r.toBytes = bytes
  data_eq : c.data = bytes
  pos_eq : r.pos = c.pos

variable {bytes : List UInt8} {r : SegmentedStream} {c : Cursor}

theorem ReadsAs.moveTo (readsAs : ReadsAs bytes r c) (p : Nat) :
    ReadsAs bytes { r with pos := p } { c with pos := p } :=
  ⟨readsAs.wellFormed.moveTo p, readsAs.toBytes_eq, readsAs.data_eq, rfl⟩

theorem ReadsAs.length_eq (readsAs : ReadsAs bytes r c) : r.total = c.data.length := by
  rw [readsAs.wellFormed.total_eq, readsAs.toBytes_eq, readsAs.data_eq]

/-- A read from streams agrees with a read from flat cursors: started from a stream and a cursor
it reads as, both answer alike and leave a stream and a cursor that it still reads as, over the
same bytes. -/
def Transfers {α : Type} (x : Reading SegmentedStream α) (y : Reading Cursor α) : Prop :=
  ∀ bytes r c, ReadsAs bytes r c → (x.run r).1 = (y.run c).1 ∧ ReadsAs bytes (x.run r).2 (y.run c).2

theorem run_bind {σ α β : Type} [ByteStream σ] (x : Reading σ α) (f : α → Reading σ β) (s : σ) :
    (x >>= f).run s = match x.run s with
      | (.ok a, s') => (f a).run s'
      | (.error e, s') => (.error e, s') := by
  simp only [Reading.run, ExceptT.run_bind, StateT.run_bind]
  rcases (ExceptT.run x).run s with ⟨_ | _, s'⟩ <;> rfl

namespace Transfers

variable {α β : Type} {x : Reading SegmentedStream α} {y : Reading Cursor α}

theorem pure (a : α) : Transfers (Pure.pure a) (Pure.pure a) :=
  fun _ _ _ readsAs => ⟨rfl, readsAs⟩

theorem throw (e : Error) : Transfers (MonadExcept.throw e : Reading SegmentedStream α) (MonadExcept.throw e) :=
  fun _ _ _ readsAs => ⟨rfl, readsAs⟩

/-- Agreement is kept by sequencing: what the first reads answer alike, and from there the rest
agrees. -/
theorem bind {f : α → Reading SegmentedStream β} {g : α → Reading Cursor β} (first : Transfers x y)
    (next : ∀ a, Transfers (f a) (g a)) : Transfers (x >>= f) (y >>= g) := by
  intro bytes r c readsAs
  obtain ⟨same, after⟩ := first bytes r c readsAs
  rw [run_bind, run_bind]
  generalize x.run r = ran at same after ⊢
  generalize y.run c = ran' at same after ⊢
  obtain ⟨result, r'⟩ := ran
  obtain ⟨result', c'⟩ := ran'
  dsimp only at same after
  subst same
  cases result with
  | ok a => exact next a bytes r' c' after
  | error e => exact ⟨rfl, after⟩

theorem map (f : α → β) (first : Transfers x y) : Transfers (f <$> x) (f <$> y) := by
  rw [map_eq_pure_bind, map_eq_pure_bind]
  exact first.bind fun a => pure (f a)

theorem ite {x' : Reading SegmentedStream α} {y' : Reading Cursor α} (c : Prop) [Decidable c]
    (yes : Transfers x y) (no : Transfers x' y') :
    Transfers (if c then x else x') (if c then y else y') := by
  by_cases holds : c
  · rw [if_pos holds, if_pos holds]
    exact yes
  · rw [if_neg holds, if_neg holds]
    exact no

/-! #### The four operations of a stream -/

theorem position : Transfers Reading.position Reading.position := fun _ r c readsAs => by
  refine ⟨?_, readsAs⟩
  show Except.ok r.pos = Except.ok c.pos
  rw [readsAs.pos_eq]

theorem remaining : Transfers Reading.remaining Reading.remaining := fun _ r c readsAs => by
  refine ⟨?_, readsAs⟩
  show Except.ok (r.total - r.pos) = Except.ok (c.data.length - c.pos)
  rw [readsAs.length_eq, readsAs.pos_eq]

theorem upTo (n : Nat) : Transfers (Reading.upTo n) (Reading.upTo n) := fun bytes r c readsAs => by
  have read : r.read n = ((r.toBytes.drop r.pos).take n,
      { r with pos := r.pos + ((r.toBytes.drop r.pos).take n).length }) :=
    readFrom_eq readsAs.wellFormed n
  have got : (r.toBytes.drop r.pos).take n = (c.data.drop c.pos).take n := by
    rw [readsAs.toBytes_eq, readsAs.data_eq, readsAs.pos_eq]
  show (Except.ok (r.read n).1, (r.read n).2).1 = (Except.ok (c.read n).1, (c.read n).2).1 ∧
    ReadsAs bytes (r.read n).2 (c.read n).2
  rw [read, Cursor.read, Cursor.rest, got, readsAs.pos_eq]
  exact ⟨rfl, readsAs.moveTo _⟩

theorem moveTo (p : Nat) :
    Transfers (modify fun s => ByteStream.moveTo s p) (modify fun s => ByteStream.moveTo s p) :=
  fun _ _ _ readsAs => ⟨rfl, readsAs.moveTo p⟩

/-! #### Typed reads -/

theorem toEnd : Transfers Reading.toEnd Reading.toEnd := by
  unfold Reading.toEnd
  exact remaining.bind upTo

theorem exact (n : Nat) : Transfers (Reading.exact n) (Reading.exact n) := by
  unfold Reading.exact
  exact (upTo n).bind fun got => ite _ (throw _) (pure got)

theorem number (endian : Endian) (width : Nat) :
    Transfers (Reading.number endian width) (Reading.number endian width) := by
  unfold Reading.number
  exact position.bind fun start => (upTo width).bind fun got =>
    ite _ ((moveTo start).bind fun _ => throw _) (pure _)

theorem untilNul (fuel : Nat) : Transfers (Reading.untilNul fuel) (Reading.untilNul fuel) := by
  induction fuel with
  | zero => exact pure []
  | succ fuel inductionHypothesis =>
    unfold Reading.untilNul
    refine (upTo 1).bind fun got => ?_
    split
    · exact pure []
    · exact pure []
    · exact inductionHypothesis.bind fun rest => pure _

theorem cstring : Transfers Reading.cstring Reading.cstring := by
  unfold Reading.cstring
  exact remaining.bind fun left => (untilNul (left + 1)).bind fun bytes => pure _

theorem key (n : Nat) : Transfers (Reading.key n) (Reading.key n) := by
  unfold Reading.key
  refine (exact n).bind fun got => ?_
  split
  · exact pure _
  · exact throw _

theorem skip (n : Nat) : Transfers (Reading.skip n) (Reading.skip n) := by
  unfold Reading.skip
  exact remaining.bind fun left => ite _ (throw _) (ite _ (throw _) (position.bind fun here => moveTo _))

theorem typedRead (t : TypedRead) : Transfers t.reading t.reading := by
  cases t with
  | upTo n => exact (upTo n).map _
  | toEnd => exact toEnd.map _
  | position => exact position.map _
  | remaining => exact remaining.map _
  | number endian width => exact (number endian width).map _
  | cstring => exact cstring.map _
  | bytes n => exact (exact n).map _
  | key n => exact (key n).map _
  | skip n => exact (skip n).map _

end Transfers

/-! ### Programs -/

/-- A seek aims a stream and a cursor it reads as at the same target. -/
theorem ReadsAs.target_eq (readsAs : ReadsAs bytes r c) (origin : SeekFrom) :
    r.target origin = c.target origin := by
  cases origin with
  | start offset => rfl
  | fromEnd delta => rw [target, Cursor.target, readsAs.length_eq]
  | current delta => rw [target, Cursor.target, readsAs.pos_eq]

/-- One operation answers alike on a stream and on a cursor it reads as, and leaves a stream
and a cursor that it still reads as. -/
theorem ReadsAs.run (readsAs : ReadsAs bytes r c) (op : StreamOp) :
    (op.run seek toBytes r).1 = (op.run Cursor.seekWithin Cursor.data c).1 ∧
      ReadsAs bytes (op.run seek toBytes r).2 (op.run Cursor.seekWithin Cursor.data c).2 := by
  cases op with
  | seek origin =>
    have aim := readsAs.target_eq origin
    have size := readsAs.length_eq
    simp only [StreamOp.run, SegmentedStream.seek, Cursor.seekWithin]
    by_cases inside : 0 ≤ c.target origin ∧ c.target origin ≤ c.data.length
    · rw [if_neg (by omega), if_pos inside, aim]
      exact ⟨rfl, readsAs.moveTo _⟩
    · rw [if_pos (by omega), if_neg inside]
      exact ⟨by rw [aim, size], readsAs⟩
  | length =>
    refine ⟨?_, readsAs⟩
    show Except.ok (StreamValue.number r.total) = Except.ok (StreamValue.number c.data.length)
    rw [readsAs.length_eq]
  | toBytes =>
    refine ⟨?_, readsAs⟩
    show Except.ok (StreamValue.bytes r.toBytes) = Except.ok (StreamValue.bytes c.data)
    rw [readsAs.toBytes_eq, readsAs.data_eq]
  | read t => exact Transfers.typedRead t bytes r c readsAs

/-- A whole program answers alike on a stream and on a cursor it reads as; the induction is on
the program, carrying the reading relation from one operation to the next. -/
theorem ReadsAs.runAll (readsAs : ReadsAs bytes r c) (ops : List StreamOp) :
    (StreamOp.runAll seek toBytes ops r).1 = (StreamOp.runAll Cursor.seekWithin Cursor.data ops c).1 ∧
      ReadsAs bytes (StreamOp.runAll seek toBytes ops r).2
        (StreamOp.runAll Cursor.seekWithin Cursor.data ops c).2 := by
  induction ops generalizing r c with
  | nil => exact ⟨rfl, readsAs⟩
  | cons op ops inductionHypothesis =>
    obtain ⟨same, after⟩ := readsAs.run op
    obtain ⟨rest, final⟩ := inductionHypothesis after
    exact ⟨by simp only [StreamOp.runAll, same, rest], final⟩

/-- A stream made from some ranges reads as a flat cursor at the start of their bytes. -/
theorem readsAs_ofSegments (segments : List Segment) :
    ReadsAs (flatBytes segments) (ofSegments segments) ⟨flatBytes segments, 0⟩ :=
  ⟨wellFormed_ofSegments segments, toBytes_ofSegments segments, rfl, pos_ofSegments segments⟩

/-- A stream made from some ranges behaves as a flat cursor over their bytes laid end to end,
each clamped to its source. A range is made exactly when it fits its source and 64 bits. The
stream's length is that of the bytes, and every program of seeks, reads and typed reads answers
on the stream as on the cursor from position zero, leaves the stream at the cursor's position,
and leaves its bytes unchanged. -/
theorem ofSegments_reads_as_flat (segments : List Segment) (ops : List StreamOp) :
    (∀ source skip length, (∃ s, Segment.make source skip length = .ok s) ↔
      skip + length < 2 ^ 64 ∧ skip + length ≤ source.length) ∧
    (ofSegments segments).length = (flatBytes segments).length ∧
    (StreamOp.runAll seek toBytes ops (ofSegments segments)).1 =
      (StreamOp.runAll Cursor.seekWithin Cursor.data ops ⟨flatBytes segments, 0⟩).1 ∧
    (StreamOp.runAll seek toBytes ops (ofSegments segments)).2.toBytes = flatBytes segments ∧
    (StreamOp.runAll seek toBytes ops (ofSegments segments)).2.pos =
      (StreamOp.runAll Cursor.seekWithin Cursor.data ops ⟨flatBytes segments, 0⟩).2.pos := by
  have start := readsAs_ofSegments segments
  obtain ⟨answers, final⟩ := start.runAll ops
  exact ⟨Segment.make_ok_iff, start.length_eq, answers, final.toBytes_eq, final.pos_eq⟩

end SegmentedStream

end AssetStore