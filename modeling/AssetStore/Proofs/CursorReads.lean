import AssetStore.Proofs.SegmentedRead
/-!
# Typed reads from a flat cursor

A flat cursor reads a byte string from a position. Every typed read of the library, run on a
cursor whose position lies within its bytes, answers and moves as its documentation says
(`Cursor.expect`), and leaves the position within the bytes. So along any sequence of typed
reads from the start, failed ones included, the position stays within the bytes and each read
behaves as documented (`Cursor.reads_as_documented`).

The reads differ in where a failure leaves the position: a fixed-width number that runs short
leaves it where it was, a byte string or key that runs short consumes what was left, and a skip
past the end moves nothing.
-/

namespace AssetStore

namespace Cursor

/-- What a typed read answers on the bytes `d` read from position `p`, and the position it
leaves, as documented:

* a read into a buffer of `n` bytes gets the next `min n (|d| - p)` bytes and moves past them;
  reading to the end gets the rest and moves to the end;
* the position and the bytes remaining are answered without moving;
* a number of `width` bytes is read in its byte order when that many remain and moves past
  them, and otherwise fails as a short read without moving;
* a text is the bytes up to the first NUL, read lossily as UTF-8, and moves past that NUL, or
  to the end when there is none;
* `n` bytes, or a key of `n` bytes, are read when that many remain and move past them, and
  otherwise fail as a short read that moves to the end; a key of no bytes is refused as an
  invalid argument without moving;
* a skip of `n` bytes moves past them when that many remain, and otherwise fails without
  moving; a skip of `2 ^ 63` bytes or more, which only bytes too long for a signed 64-bit length
  can hold, is refused as an invalid argument without moving. -/
def expect (d : List UInt8) (p : Nat) : TypedRead → Except Error StreamValue × Nat
  | .upTo n => (.ok (.bytes ((d.drop p).take n)), p + min n (d.length - p))
  | .toEnd => (.ok (.bytes (d.drop p)), d.length)
  | .position => (.ok (.number p), p)
  | .remaining => (.ok (.number (d.length - p)), p)
  | .number endian width =>
    if width ≤ d.length - p then (.ok (.number (endian.value ((d.drop p).take width))), p + width)
    else (.error (.io .endOfInput), p)
  | .cstring =>
    let text := (d.drop p).takeWhile (· != 0)
    (.ok (.text (Text.Utf8.decodeLossy text)),
      if text.length < d.length - p then p + text.length + 1 else d.length)
  | .bytes n =>
    if n ≤ d.length - p then (.ok (.bytes ((d.drop p).take n)), p + n)
    else (.error (.io .endOfInput), d.length)
  | .key n =>
    if fits : n ≤ d.length - p then
      if present : 0 < n then
        (.ok (.key (Key.prefixOf (d.drop p) n ⟨present, by rw [List.length_drop]; exact fits⟩)), p + n)
      else (.error (.invalidArgument Key.emptyText), p)
    else (.error (.io .endOfInput), d.length)
  | .skip n =>
    if n ≤ d.length - p then
      if n < 2 ^ 63 then (.ok .done, p + n)
      else (.error (.invalidArgument s!"seek distance {n} out of range"), p)
    else (.error (.io (.skipPastEnd n)), p)

/-- The cursor after typed reads one after another, failed ones included. -/
def afterReads (c : Cursor) (ops : List TypedRead) : Cursor :=
  ops.foldl (fun c op => (op.reading.run c).2) c

/-! ### The operations of a stream on a cursor -/

variable {α β : Type}

theorem run_pure (a : α) (c : Cursor) : (pure a : Reading Cursor α).run c = (.ok a, c) := rfl

theorem run_throw (e : Error) (c : Cursor) :
    (throw e : Reading Cursor α).run c = (.error e, c) := rfl

theorem run_map (f : α → β) (x : Reading Cursor α) (c : Cursor) :
    (f <$> x).run c = match x.run c with
      | (.ok a, c') => (.ok (f a), c')
      | (.error e, c') => (.error e, c') := by
  rw [map_eq_pure_bind, SegmentedStream.run_bind]
  rcases x.run c with ⟨_ | _, c'⟩ <;> rfl

theorem run_position (c : Cursor) : (Reading.position : Reading Cursor Nat).run c = (.ok c.pos, c) :=
  rfl

theorem run_remaining (c : Cursor) :
    (Reading.remaining : Reading Cursor Nat).run c = (.ok (c.data.length - c.pos), c) := rfl

theorem run_upTo (c : Cursor) (n : Nat) :
    (Reading.upTo n : Reading Cursor (List UInt8)).run c =
      (.ok ((c.data.drop c.pos).take n), { c with pos := c.pos + min n (c.data.length - c.pos) }) := by
  show (Except.ok (c.read n).1, (c.read n).2) = _
  simp [Cursor.read, Cursor.rest]

theorem run_moveTo (c : Cursor) (p : Nat) :
    (modify fun s => ByteStream.moveTo s p : Reading Cursor Unit).run c = (.ok (), { c with pos := p }) :=
  rfl

/-! ### Typed reads on a cursor within its bytes -/

variable {c : Cursor}

theorem run_exact (within : c.pos ≤ c.data.length) (n : Nat) :
    (Reading.exact n : Reading Cursor (List UInt8)).run c =
      if n ≤ c.data.length - c.pos then (.ok ((c.data.drop c.pos).take n), { c with pos := c.pos + n })
      else (.error (.io .endOfInput), { c with pos := c.data.length }) := by
  unfold Reading.exact
  rw [SegmentedStream.run_bind, run_upTo]
  dsimp only
  simp only [List.length_take, List.length_drop]
  split_ifs with short fits fits
  · omega
  · rw [run_throw]
    congr 2
    omega
  · rw [run_pure]
    congr 2
    omega
  · omega

theorem run_number (within : c.pos ≤ c.data.length) (endian : Endian) (width : Nat) :
    (Reading.number endian width : Reading Cursor Nat).run c =
      if width ≤ c.data.length - c.pos then
        (.ok (endian.value ((c.data.drop c.pos).take width)), { c with pos := c.pos + width })
      else (.error (.io .endOfInput), c) := by
  unfold Reading.number
  rw [SegmentedStream.run_bind, run_position]
  dsimp only
  rw [SegmentedStream.run_bind, run_upTo]
  dsimp only
  simp only [List.length_take, List.length_drop]
  split_ifs with short fits fits
  · omega
  · rw [SegmentedStream.run_bind, run_moveTo]
    rfl
  · rw [run_pure]
    congr 2
    omega
  · omega

/-- Reading a text byte by byte, with more rounds than bytes remain, stops at the first NUL,
past it, or at the end. -/
theorem run_untilNul (fuel : Nat) (within : c.pos ≤ c.data.length)
    (enough : c.data.length - c.pos < fuel) :
    (Reading.untilNul fuel : Reading Cursor (List UInt8)).run c =
      (.ok ((c.data.drop c.pos).takeWhile (· != 0)),
        { c with pos := if ((c.data.drop c.pos).takeWhile (· != 0)).length < c.data.length - c.pos
          then c.pos + ((c.data.drop c.pos).takeWhile (· != 0)).length + 1 else c.data.length }) := by
  induction fuel generalizing c with
  | zero => omega
  | succ fuel inductionHypothesis =>
    unfold Reading.untilNul
    rw [SegmentedStream.run_bind, run_upTo]
    dsimp only
    cases rest : c.data.drop c.pos with
    | nil =>
      have atEnd : c.pos = c.data.length := by
        have lengths := congrArg List.length rest
        rw [List.length_drop, List.length_nil] at lengths
        omega
      simp [atEnd, run_pure]
    | cons b later =>
      have laterLength : later.length + 1 = c.data.length - c.pos := by
        have lengths := congrArg List.length rest
        rw [List.length_drop, List.length_cons] at lengths
        exact lengths.symm
      by_cases nul : b = 0
      · subst nul
        simp [run_pure]
        rw [if_pos (by omega)]
        omega
      · have next := inductionHypothesis (c := { c with pos := c.pos + 1 }) (by simp; omega)
          (by simp; omega)
        have dropNext : c.data.drop (c.pos + 1) = later := by
          rw [← List.drop_drop, rest, List.drop_one, List.tail_cons]
        simp only [dropNext] at next
        rw [List.take_succ_cons, List.take_zero]
        split
        · rename_i none
          cases none
        · rename_i zero
          cases zero
          exact absurd rfl nul
        · rename_i head tail _ got
          injection got with headEq
          subst headEq
          have step : c.pos + min 1 (c.data.length - c.pos) = c.pos + 1 := by omega
          rw [step, SegmentedStream.run_bind, next]
          dsimp only
          rw [run_pure]
          simp only [List.takeWhile_cons, bne_iff_ne, ne_eq, nul, not_false_eq_true, if_true,
            List.length_cons]
          congr 2
          split_ifs <;> omega

theorem run_toEnd (within : c.pos ≤ c.data.length) :
    (Reading.toEnd : Reading Cursor (List UInt8)).run c =
      (.ok (c.data.drop c.pos), { c with pos := c.data.length }) := by
  unfold Reading.toEnd
  rw [SegmentedStream.run_bind, run_remaining]
  dsimp only
  rw [run_upTo, List.take_of_length_le (by simp)]
  congr 3
  omega

theorem run_cstring (within : c.pos ≤ c.data.length) :
    (Reading.cstring : Reading Cursor String).run c =
      (.ok (Text.Utf8.decodeLossy ((c.data.drop c.pos).takeWhile (· != 0))),
        { c with pos := if ((c.data.drop c.pos).takeWhile (· != 0)).length < c.data.length - c.pos
          then c.pos + ((c.data.drop c.pos).takeWhile (· != 0)).length + 1 else c.data.length }) := by
  unfold Reading.cstring
  rw [SegmentedStream.run_bind, run_remaining]
  dsimp only
  rw [SegmentedStream.run_bind, run_untilNul _ within (by omega)]
  rfl

/-- A key read from the next `n` bytes, when there are that many and `n` is positive, is their
prefix key. -/
theorem ofBytes_take (bytes : List UInt8) (n : Nat) (within : 0 < n ∧ n ≤ bytes.length) :
    Key.ofBytes (bytes.take n) = .ok (Key.prefixOf bytes n within) := by
  unfold Key.ofBytes
  cases got : bytes.take n with
  | nil =>
    have := congrArg List.length got
    rw [List.length_take, List.length_nil] at this
    omega
  | cons b bs => simp [Key.ofBytes?, Key.prefixOf, got]

theorem run_key (within : c.pos ≤ c.data.length) (n : Nat) :
    (Reading.key n : Reading Cursor Key).run c =
      if fits : n ≤ c.data.length - c.pos then
        if present : 0 < n then
          (.ok (Key.prefixOf (c.data.drop c.pos) n ⟨present, by rw [List.length_drop]; exact fits⟩),
            { c with pos := c.pos + n })
        else (.error (.invalidArgument Key.emptyText), c)
      else (.error (.io .endOfInput), { c with pos := c.data.length }) := by
  unfold Reading.key
  rw [SegmentedStream.run_bind, run_exact within]
  split_ifs with fits present
  · dsimp only
    rw [ofBytes_take _ _ ⟨present, by rw [List.length_drop]; exact fits⟩]
    rfl
  · -- no bytes: the empty key is refused where the read left the cursor, which is where it was
    have none : n = 0 := by omega
    subst none
    simp [Key.ofBytes, Key.ofBytes?, run_throw]
  · rfl

theorem run_skip (n : Nat) :
    (Reading.skip n : Reading Cursor Unit).run c =
      if n ≤ c.data.length - c.pos then
        if n < 2 ^ 63 then (.ok (), { c with pos := c.pos + n })
        else (.error (.invalidArgument s!"seek distance {n} out of range"), c)
      else (.error (.io (.skipPastEnd n)), c) := by
  unfold Reading.skip
  rw [SegmentedStream.run_bind, run_remaining]
  dsimp only
  by_cases fits : n ≤ c.data.length - c.pos
  · rw [if_neg (Nat.not_lt.mpr fits), if_pos fits]
    by_cases small : n < 2 ^ 63
    · rw [if_neg (Nat.not_le.mpr small), if_pos small, SegmentedStream.run_bind, run_position]
      rfl
    · rw [if_pos (Nat.le_of_not_lt small), if_neg small]
      rfl
  · rw [if_pos (Nat.lt_of_not_le fits), if_neg fits]
    rfl

/-! ### Sequences of typed reads -/

theorem expect_le {d : List UInt8} {p : Nat} (within : p ≤ d.length) (op : TypedRead) :
    (expect d p op).2 ≤ d.length := by
  cases op <;> simp only [expect] <;> grind

/-- One typed read on a cursor within its bytes answers and moves as documented. -/
theorem run_reading (within : c.pos ≤ c.data.length) (op : TypedRead) :
    op.reading.run c = ((expect c.data c.pos op).1, { c with pos := (expect c.data c.pos op).2 }) := by
  cases op with
  | upTo n => rw [TypedRead.reading, run_map, run_upTo]; rfl
  | toEnd => rw [TypedRead.reading, run_map, run_toEnd within]; rfl
  | position => rfl
  | remaining => rfl
  | number endian width =>
    rw [TypedRead.reading, run_map, run_number within]
    simp only [expect]
    split_ifs <;> rfl
  | cstring => rw [TypedRead.reading, run_map, run_cstring within]; rfl
  | bytes n =>
    rw [TypedRead.reading, run_map, Reading.bytes, run_exact within]
    simp only [expect]
    split_ifs <;> rfl
  | key n =>
    rw [TypedRead.reading, run_map, run_key within]
    simp only [expect]
    split_ifs <;> rfl
  | skip n =>
    rw [TypedRead.reading, run_map, run_skip]
    simp only [expect]
    split_ifs <;> rfl

theorem afterReads_cons (op : TypedRead) (ops : List TypedRead) :
    afterReads c (op :: ops) = afterReads (op.reading.run c).2 ops := rfl

/-- Along typed reads from a cursor within its bytes, failed ones included, the bytes stay and
the position stays within them. -/
theorem afterReads_within (within : c.pos ≤ c.data.length) (ops : List TypedRead) :
    (afterReads c ops).data = c.data ∧ (afterReads c ops).pos ≤ c.data.length := by
  -- induction on the reads, for every cursor: each read keeps the bytes, and `expect_le` keeps
  -- the position within them
  induction ops generalizing c with
  | nil => exact ⟨rfl, within⟩
  | cons op ops inductionHypothesis =>
    rw [afterReads_cons, run_reading within]
    exact inductionHypothesis (expect_le within op)

theorem reads_as_documented (d : List UInt8) (ops : List TypedRead) :
    let c := afterReads (ofBytes d) ops
    c.data = d ∧ c.pos ≤ d.length ∧
      ∀ op : TypedRead, op.reading.run c = ((expect d c.pos op).1, ⟨d, (expect d c.pos op).2⟩) := by
  intro c
  obtain ⟨same, within⟩ := afterReads_within (c := ofBytes d) (Nat.zero_le _) ops
  refine ⟨same, within, fun op => ?_⟩
  rw [run_reading (by rw [same]; exact within) op]
  simp only [c]
  rw [same]
  rfl

example : afterReads (ofBytes [104, 105, 0, 7]) [.cstring, .skip 2, .number .big 2] = ⟨[104, 105, 0, 7], 3⟩ := by
  decide

end Cursor

end AssetStore
