import Mathlib.Data.Nat.Digits.Defs
import Mathlib.Data.List.Forall2
import AssetStore.Layout
import AssetStore.Proofs.AsciiText
import AssetStore.Proofs.FileNames
/-!
# The names of index files

An index file is named by its bucket and version in hex: `BBVVVVVVVV.idx`. The reader takes a
name as its bytes and accepts exactly the names of fourteen bytes whose last four are `.idx` in
either case and whose first two and next eight bytes are hex numerals, digits of either case,
optionally after one `+` (`Layout.NamesIndexFile`). The bucket and version are what the two
numerals denote; two hex digits always fit a byte and eight a 32-bit word, so no bound refuses
a name. A slice of the bytes that would cut a character is refused too, but a name of this form
is ASCII, so none is cut.

Writing a name and reading it back gives the bucket and version it was written from, and a
name without `+` that is read back is the written name of what it denotes, up to the case of
its letters (`Layout.indexFileName_grammar`).
-/

namespace AssetStore.Layout

open Text.Ascii

/-! ### Hex numerals -/

/-- The code of the lowercase spelling of a hex digit. -/
def lowerDigitCode (d : Nat) : Nat := if d < 10 then 48 + d else 87 + d

/-- The code of the uppercase spelling of a hex digit. -/
def upperDigitCode (d : Nat) : Nat := if d < 10 then 48 + d else 55 + d

/-- A byte that spells the hex digit `d`, in either case. -/
def SpellsDigit (c : UInt8) (d : Nat) : Prop :=
  d < 16 ∧ (c.toNat = lowerDigitCode d ∨ c.toNat = upperDigitCode d)

theorem toNat_digit : ∀ d < 16, (Text.Hex.digit d).toNat = lowerDigitCode d := by
  decide

theorem toNat_digit_lt : ∀ d < 16, (Text.Hex.digit d).toNat < 128 := by
  decide

/-- A hex numeral: digits, optionally after one `+`, that denote `value`. -/
def HexNumeral (text : List UInt8) (value : Nat) : Prop :=
  ∃ ds : List Nat, ds ≠ [] ∧ value = Nat.ofDigits 16 ds.reverse ∧
    (List.Forall₂ SpellsDigit text ds ∨ ∃ rest, text = 43 :: rest ∧ List.Forall₂ SpellsDigit rest ds)

theorem hexDigitValue?_eq (c : UInt8) :
    hexDigitValue? c =
      if 48 ≤ c.toNat ∧ c.toNat ≤ 57 then some (c.toNat - 48)
      else if 97 ≤ c.toNat ∧ c.toNat ≤ 102 then some (c.toNat - 87)
      else if 65 ≤ c.toNat ∧ c.toNat ≤ 70 then some (c.toNat - 55) else none := by
  unfold hexDigitValue? Text.Hex.digitValue?
  simp only [UInt8.le_iff_toNat_le, UInt8.reduceToNat]
  split_ifs with digit lower upper <;> rw [Option.map]
  · rw [UInt8.toNat_sub_of_le _ _ (UInt8.le_iff_toNat_le.mpr (by change 48 ≤ c.toNat; omega))]
    rfl
  · rw [UInt8.toNat_sub_of_le _ _ (UInt8.le_iff_toNat_le.mpr (by change 87 ≤ c.toNat; omega))]
    rfl
  · rw [UInt8.toNat_sub_of_le _ _ (UInt8.le_iff_toNat_le.mpr (by change 55 ≤ c.toNat; omega))]
    rfl

theorem hexDigitValue?_eq_some (c : UInt8) (d : Nat) : hexDigitValue? c = some d ↔ SpellsDigit c d := by
  rw [hexDigitValue?_eq, SpellsDigit, lowerDigitCode, upperDigitCode]
  split_ifs <;> simp only [Option.some.injEq, false_iff] <;> omega

theorem foldl_digits (ds : List Nat) (acc : Nat) :
    ds.foldl (fun acc d => acc * 16 + d) acc = acc * 16 ^ ds.length + Nat.ofDigits 16 ds.reverse := by
  induction ds generalizing acc with
  | nil => simp
  | cons d rest inductionHypothesis =>
    rw [List.foldl_cons, inductionHypothesis, List.reverse_cons, Nat.ofDigits_append,
      List.length_reverse, List.length_cons, Nat.ofDigits_singleton, pow_succ]
    ring

theorem foldlM_digits (text : List UInt8) (acc n : Nat) :
    text.foldlM (fun acc d => (hexDigitValue? d).map fun v => acc * 16 + v) acc = some n ↔
      ∃ ds, List.Forall₂ SpellsDigit text ds ∧ n = ds.foldl (fun acc d => acc * 16 + d) acc := by
  induction text generalizing acc with
  | nil =>
    simp only [List.foldlM_nil, List.forall₂_nil_left_iff, exists_eq_left, List.foldl_nil]
    exact ⟨fun same => (Option.some.inj same).symm, fun same => same ▸ rfl⟩
  | cons c rest inductionHypothesis =>
    simp only [List.foldlM_cons, List.forall₂_cons_left_iff]
    constructor
    · intro read
      obtain ⟨v, digit, next⟩ := Option.bind_eq_some_iff.mp read
      obtain ⟨d, value, rfl⟩ := Option.map_eq_some_iff.mp digit
      obtain ⟨ds, spelled, rfl⟩ := (inductionHypothesis _).mp next
      exact ⟨d :: ds, ⟨d, ds, (hexDigitValue?_eq_some c d).mp value, spelled, rfl⟩, rfl⟩
    · rintro ⟨_, ⟨d, ds, digit, spelled, rfl⟩, rfl⟩
      rw [(hexDigitValue?_eq_some c d).mpr digit]
      exact (inductionHypothesis _).mpr ⟨ds, spelled, rfl⟩

theorem hexDigits?_eq_some (text : List UInt8) (n : Nat) :
    hexDigits? text = some n ↔ ∃ ds, List.Forall₂ SpellsDigit text ds ∧ n = Nat.ofDigits 16 ds.reverse := by
  rw [hexDigits?, foldlM_digits]
  simp only [foldl_digits, Nat.zero_mul, Nat.zero_add]
theorem not_spellsDigit_plus (d : Nat) : ¬SpellsDigit 43 d := by
  rintro ⟨small, spelled⟩
  simp only [lowerDigitCode, upperDigitCode, UInt8.reduceToNat] at spelled
  split_ifs at spelled <;> omega

/-- The digits after the sign, read below a bound. -/
theorem digits_eq_some (bound : Nat) (digits : List UInt8) (n : Nat) :
    (if digits.isEmpty then none else match hexDigits? digits with
      | some n => if n < bound then some n else none
      | none => none) = some n ↔
    n < bound ∧ digits ≠ [] ∧ hexDigits? digits = some n := by
  split
  · rename_i empty
    simp [List.isEmpty_iff.mp empty]
  · rename_i nonempty
    have present : digits ≠ [] := fun none => nonempty (List.isEmpty_iff.mpr none)
    split
    · rename_i m read
      rw [read]
      split_ifs with below
      · simp only [Option.some.injEq]
        constructor
        · rintro rfl; exact ⟨below, present, rfl⟩
        · rintro ⟨-, -, rfl⟩; rfl
      · simp only [Option.some.injEq, false_iff, not_and]
        rintro small - rfl
        exact below small
    · rename_i unread
      simp [unread]
theorem ne_nil_iff_of_forall₂ {text : List UInt8} {ds : List Nat}
    (spelled : List.Forall₂ SpellsDigit text ds) : text ≠ [] ↔ ds ≠ [] := by
  rw [ne_eq, ne_eq, ← List.length_eq_zero_iff, ← List.length_eq_zero_iff, spelled.length_eq]

/-- A numeral is read exactly when it is below the bound. -/
theorem parseUnsigned?_eq_some (bound : Nat) (text : List UInt8) (n : Nat) :
    parseUnsigned? bound text = some n ↔ n < bound ∧ HexNumeral text n := by
  unfold parseUnsigned?
  split
  · rename_i rest
    refine (digits_eq_some bound rest n).trans ?_
    rw [hexDigits?_eq_some]
    refine and_congr_right fun _ => ⟨?_, ?_⟩
    · rintro ⟨present, ds, spelled, rfl⟩
      exact ⟨ds, (ne_nil_iff_of_forall₂ spelled).mp present, rfl, .inr ⟨rest, rfl, spelled⟩⟩
    · rintro ⟨ds, present, rfl, signless | ⟨_, same, spelled⟩⟩
      · obtain ⟨d, _, digit, -, -⟩ := List.forall₂_cons_left_iff.mp signless
        exact absurd digit (not_spellsDigit_plus d)
      · cases same
        exact ⟨(ne_nil_iff_of_forall₂ spelled).mpr present, ds, spelled, rfl⟩
  · rename_i unsigned
    refine (digits_eq_some bound text n).trans ?_
    rw [hexDigits?_eq_some]
    refine and_congr_right fun _ => ⟨?_, ?_⟩
    · rintro ⟨present, ds, spelled, rfl⟩
      exact ⟨ds, (ne_nil_iff_of_forall₂ spelled).mp present, rfl, .inl spelled⟩
    · rintro ⟨ds, present, rfl, spelled | ⟨rest, rfl, -⟩⟩
      · exact ⟨(ne_nil_iff_of_forall₂ spelled).mpr present, ds, spelled, rfl⟩
      · exact absurd rfl (unsigned rest)


/-- A byte that may stand before the dot of an index file name: ASCII, and neither `.` nor
`/`. -/
def IsStemByte (c : UInt8) : Prop :=
  c.toNat < 128 ∧ c.toNat ≠ 46 ∧ c.toNat ≠ 47

theorem SpellsDigit.isStemByte {c : UInt8} {d : Nat} (digit : SpellsDigit c d) : IsStemByte c := by
  obtain ⟨small, spelled⟩ := digit
  unfold lowerDigitCode upperDigitCode at spelled
  unfold IsStemByte
  split_ifs at spelled <;> omega

theorem isStemByte_of_forall₂ {text : List UInt8} {ds : List Nat}
    (spelled : List.Forall₂ SpellsDigit text ds) : ∀ c ∈ text, IsStemByte c :=
  ((List.forall₂_and_left _ _).mp (spelled.imp fun _ _ digit => ⟨digit.isStemByte, digit⟩)).1

/-- Every byte of a hex numeral may stand before the dot. -/
theorem HexNumeral.isStemByte {text : List UInt8} {n : Nat} (numeral : HexNumeral text n) :
    ∀ c ∈ text, IsStemByte c := by
  obtain ⟨ds, -, -, spelled | ⟨rest, rfl, spelled⟩⟩ := numeral
  · exact isStemByte_of_forall₂ spelled
  · intro c member
    rcases List.mem_cons.mp member with rfl | later
    · exact ⟨by decide, by decide, by decide⟩
    · exact isStemByte_of_forall₂ spelled c later

/-- A byte whose lowercase is a lowercase letter is an ASCII letter. -/
theorem isStemByte_of_lowerByte {c : UInt8}
    (letter : 97 ≤ (lowerByte c).toNat ∧ (lowerByte c).toNat ≤ 122) : IsStemByte c := by
  rw [toNat_lowerByte] at letter
  unfold IsStemByte
  split_ifs at letter <;> omega

/-- A digit in either case lowers to its lowercase spelling. -/
theorem SpellsDigit.lowerByte_eq {c : UInt8} {d : Nat} (digit : SpellsDigit c d) :
    lowerByte c = (Text.Hex.digit d).toUInt8 := by
  obtain ⟨small, spelled⟩ := digit
  apply UInt8.toNat_inj.mp
  rw [toNat_lowerByte, toNat_toUInt8 (toNat_digit_lt d small), toNat_digit d small]
  unfold lowerDigitCode upperDigitCode at *
  split_ifs at * <;> omega

/-! ### The reader of index file names -/

/-- The bytes of a name of the index file `id`: fourteen of them, the bucket as a hex numeral in
the first two, the version as one in the next eight, and `.idx` in either case in the last
four. -/
structure NamesIndexFile (bytes : List UInt8) (id : IndexFileId) : Prop where
  length_eq : bytes.length = 14
  extension_eq : (bytes.drop 10).map lowerByte = [46, 105, 100, 120]
  bucket : HexNumeral (bytes.take 2) id.bucket.toNat
  version : HexNumeral ((bytes.drop 2).take 8) id.version.toNat

theorem guard_eq_some_iff (p : Prop) [Decidable p] (u : Unit) :
    (guard p : Option Unit) = some u ↔ p := by
  unfold guard
  split <;> simp_all [failure]

/-- What the reader of index file names checks, in order. -/
theorem parseIndexFileName?_eq_some_iff (name : String) (id : IndexFileId) :
    parseIndexFileName? name = some id ↔
      (Text.Utf8.encode name).length = 14 ∧
      ∃ ext, Disk.Path.extension? name = some ext ∧ (ext.toLower = "idx" ∧ ext.length = 3) ∧
      ∃ bucketField, slice? (Text.Utf8.encode name) 0 2 = some bucketField ∧
      ∃ bucket, parseUnsigned? 256 bucketField = some bucket ∧
      ∃ versionField, slice? (Text.Utf8.encode name) 2 10 = some versionField ∧
      ∃ version, parseUnsigned? (2 ^ 32) versionField = some version ∧
        ⟨UInt8.ofNat bucket, UInt32.ofNat version⟩ = id := by
  simp only [parseIndexFileName?, Option.bind_eq_bind, Option.bind_eq_some_iff, guard_eq_some_iff,
    beq_iff_eq, Bool.and_eq_true, exists_const, pure, Option.some.injEq, Text.Utf8.encode]

theorem slice?_eq_some {bytes field : List UInt8} {start stop : Nat}
    (cut : slice? bytes start stop = some field) : field = (bytes.drop start).take (stop - start) := by
  unfold slice? at cut
  split at cut
  · exact (Option.some.inj cut).symm
  · cases cut

/-- Slices of ASCII bytes cut no character. -/
theorem slice?_of_ascii {bytes : List UInt8} {start stop : Nat}
    (ascii : ∀ b ∈ bytes, b.toNat < 128) (ordered : start ≤ stop) (inside : stop < bytes.length) :
    slice? bytes start stop = some ((bytes.drop start).take (stop - start)) := by
  have boundary : ∀ i (within : i < bytes.length), isCharBoundary bytes i = true := by
    intro i within
    have small : bytes[i] < 128 :=
      UInt8.lt_iff_toNat_lt.mpr (by simpa using ascii _ (List.getElem_mem within))
    unfold isCharBoundary
    rw [List.getElem?_eq_getElem within]
    simp [small]
  unfold slice?
  rw [if_pos]
  simp [boundary start (by omega), boundary stop inside, ordered, inside.le]

theorem take_ten (bytes : List UInt8) : bytes.take 10 = bytes.take 2 ++ (bytes.drop 2).take 8 := by
  rw [← List.take_add]

/-! ### Names the reader accepts -/

/-- A piece that starts with `x`, inside bytes with no `x` among the first `k` and with room for
exactly `k` bytes before the piece, starts at `k`. -/
theorem drop_eq_of_contiguous {bytes piece : List UInt8} {x : UInt8} {k : Nat}
    (inside : x :: piece <:+: bytes) (length : bytes.length = k + piece.length + 1)
    (absent : ∀ c ∈ bytes.take k, c ≠ x) : bytes.drop k = x :: piece := by
  obtain ⟨front, back, rfl⟩ := inside
  simp only [List.length_append, List.length_cons] at length
  have atStart : front.length = k := by
    refine Nat.le_antisymm (by omega) (Nat.not_lt.mp fun early => absent x ?_ rfl)
    rw [List.append_assoc, List.take_append, List.take_of_length_le (by omega)]
    obtain ⟨m, hm⟩ : ∃ m, k - front.length = m + 1 := ⟨k - front.length - 1, by omega⟩
    rw [hm, List.cons_append, List.take_succ_cons]
    exact List.mem_append_right _ List.mem_cons_self
  have noBack : back = [] := List.eq_nil_of_length_eq_zero (by omega)
  rw [noBack, List.append_nil, ← atStart, List.drop_left]

/-- A name of fourteen bytes with no dot among its first ten and the extension `idx` in any case
ends in `.idx` in any case. -/
theorem extension_bytes {name ext : String} (extended : Disk.Path.extension? name = some ext)
    (lower : ext.toLower = "idx") (length : (Text.Utf8.encode name).length = 14)
    (noDot : ∀ c ∈ (Text.Utf8.encode name).take 10, c ≠ 46) :
    ((Text.Utf8.encode name).drop 10).map lowerByte = [46, 105, 100, 120] := by
  have lowered : ext.toList.map Char.toLower = ['i', 'd', 'x'] := by
    rw [← String.toList_map]
    exact congrArg String.toList lower
  have ascii : ∀ c ∈ ext.toList, c.toNat < 128 := by
    intro c member
    have named : c.toLower.toNat ∈ ['i', 'd', 'x'].map Char.toNat :=
      List.mem_map_of_mem (lowered ▸ List.mem_map_of_mem member)
    have number := toNat_toLower c
    simp only [List.map_cons, List.map_nil, List.mem_cons, List.not_mem_nil, or_false] at named
    change c.toLower.toNat = 105 ∨ c.toLower.toNat = 100 ∨ c.toLower.toNat = 120 at named
    rw [number] at named
    split_ifs at named <;> omega
  have inside : (46 : UInt8) :: ext.toList.map Char.toUInt8 <:+: Text.Utf8.encode name := by
    have dotted : ('.' :: ext.toList).flatMap String.utf8EncodeChar =
        46 :: ext.toList.map Char.toUInt8 := by
      rw [Text.Utf8.flatMap_utf8EncodeChar_of_ascii fun c member => ?_]
      · rfl
      · rcases List.mem_cons.mp member with rfl | later
        · decide
        · exact ascii c later
    rw [← dotted, Text.Utf8.encode_eq_flatMap]
    exact (Disk.Path.extension?_contiguous extended).flatMap _
  have three : ext.toList.length = 3 := by simpa using congrArg List.length lowered
  have lowerBytes : (ext.toList.map Char.toUInt8).map lowerByte =
      (ext.toList.map Char.toLower).map Char.toUInt8 := by
    rw [List.map_map, List.map_map]
    exact List.map_congr_left fun c member => lowerByte_toUInt8 (ascii c member)
  rw [drop_eq_of_contiguous inside (by simp [length, three]) noDot, List.map_cons, lowerBytes, lowered]
  rfl

/-- A name the reader accepts has the form of an index file name, with the bucket and version
that its numerals denote. -/
theorem namesIndexFile_of_parse {name : String} {id : IndexFileId}
    (read : parseIndexFileName? name = some id) : NamesIndexFile (Text.Utf8.encode name) id := by
  obtain ⟨length, ext, extended, ⟨lower, -⟩, bucketField, bucketCut, bucket, bucketRead,
    versionField, versionCut, version, versionRead, rfl⟩ :=
    (parseIndexFileName?_eq_some_iff name id).mp read
  obtain ⟨bucketSmall, bucketNumeral⟩ := (parseUnsigned?_eq_some _ _ _).mp bucketRead
  obtain ⟨versionSmall, versionNumeral⟩ := (parseUnsigned?_eq_some _ _ _).mp versionRead
  rw [slice?_eq_some bucketCut, List.drop_zero] at bucketNumeral
  rw [slice?_eq_some versionCut] at versionNumeral
  have noDot : ∀ c ∈ (Text.Utf8.encode name).take 10, c ≠ 46 := by
    intro c member
    rw [take_ten, List.mem_append] at member
    have stem : IsStemByte c :=
      member.elim (bucketNumeral.isStemByte c) (versionNumeral.isStemByte c)
    exact fun same => stem.2.1 (by rw [same]; rfl)
  refine ⟨length, extension_bytes extended lower length noDot, ?_, ?_⟩
  · rwa [UInt8.toNat_ofNat_of_lt' bucketSmall]
  · rwa [UInt32.toNat_ofNat_of_lt' versionSmall]

/-! ### Names of the form are accepted -/

namespace NamesIndexFile

variable {bytes : List UInt8} {id : IndexFileId}

/-- After the ten bytes of the numerals come a dot and three letters. -/
theorem split (form : NamesIndexFile bytes id) :
    ∃ letters, bytes = bytes.take 10 ++ 46 :: letters ∧ letters.map lowerByte = [105, 100, 120] ∧
      ∀ c ∈ letters, IsStemByte c := by
  obtain ⟨dot, letters, tail, dotLower, lettersLower⟩ := List.map_eq_cons_iff.mp form.extension_eq
  have dotEq : dot = 46 := by
    have number := toNat_lowerByte dot
    rw [dotLower] at number
    change 46 = _ at number
    apply UInt8.toNat_inj.mp
    split_ifs at number with upper
    · omega
    · exact number.symm
  refine ⟨letters, by rw [← dotEq, ← tail, List.take_append_drop], lettersLower, ?_⟩
  intro c member
  have named : lowerByte c ∈ [105, 100, 120] := lettersLower ▸ List.mem_map_of_mem member
  apply isStemByte_of_lowerByte
  simp only [List.mem_cons, List.not_mem_nil, or_false] at named
  rcases named with same | same | same <;> rw [same] <;> decide

theorem stem (form : NamesIndexFile bytes id) : ∀ c ∈ bytes.take 10, IsStemByte c := by
  intro c member
  rw [take_ten, List.mem_append] at member
  exact member.elim (form.bucket.isStemByte c) (form.version.isStemByte c)

theorem ascii (form : NamesIndexFile bytes id) : ∀ b ∈ bytes, b.toNat < 128 := by
  obtain ⟨letters, whole, -, lettersStem⟩ := form.split
  intro b member
  rw [whole, List.mem_append, List.mem_cons] at member
  rcases member with front | rfl | back
  · exact (form.stem b front).1
  · decide
  · exact (lettersStem b back).1

theorem eq_ofList {name : String} (form : NamesIndexFile (Text.Utf8.encode name) id) :
    name = String.ofList ((Text.Utf8.encode name).map asciiChar) :=
  Text.Utf8.eq_of_encode_eq (Text.Utf8.encode_asciiChars form.ascii).symm

end NamesIndexFile

theorem asciiChar_plain {c : UInt8} (stem : IsStemByte c) : asciiChar c ≠ '/' ∧ asciiChar c ≠ '.' := by
  refine ⟨fun same => stem.2.2 ?_, fun same => stem.2.1 ?_⟩ <;>
    rw [← toNat_asciiChar stem.1, same] <;> rfl

theorem asciiChars_plain {bytes : List UInt8} (stem : ∀ c ∈ bytes, IsStemByte c) :
    '/' ∉ bytes.map asciiChar ∧ '.' ∉ bytes.map asciiChar := by
  refine ⟨fun member => ?_, fun member => ?_⟩ <;> obtain ⟨c, inside, same⟩ := List.mem_map.mp member
  · exact (asciiChar_plain (stem c inside)).1 same
  · exact (asciiChar_plain (stem c inside)).2 same

/-- A name of the form of an index file name is read as the index file its numerals denote. -/
theorem parse_of_namesIndexFile {name : String} {id : IndexFileId}
    (form : NamesIndexFile (Text.Utf8.encode name) id) : parseIndexFileName? name = some id := by
  obtain ⟨letters, whole, lettersLower, lettersStem⟩ := form.split
  have extended : Disk.Path.extension? name = some (String.ofList (letters.map asciiChar)) := by
    rw [form.eq_ofList, whole, List.map_append, List.map_cons]
    exact Disk.Path.extension?_ofList (asciiChars_plain form.stem) (asciiChars_plain lettersStem)
      (List.ne_nil_of_length_pos (by simp [form.length_eq]))
  have lower : (String.ofList (letters.map asciiChar)).toLower = "idx" := by
    have lowerChars :
        (letters.map asciiChar).map Char.toLower = (letters.map lowerByte).map asciiChar := by
      rw [List.map_map, List.map_map]
      exact List.map_congr_left fun c member => toLower_asciiChar (lettersStem c member).1
    rw [String.toLower, ← String.ofList_toList (s := String.map _ _), String.toList_map,
      String.toList_ofList, lowerChars, lettersLower]
    decide
  have three : (String.ofList (letters.map asciiChar)).length = 3 := by
    rw [String.length_ofList, List.length_map, ← List.length_map (f := lowerByte), lettersLower]
    rfl
  have length := form.length_eq
  have bucketField := slice?_of_ascii form.ascii (Nat.zero_le 2)
    (by omega : 2 < (Text.Utf8.encode name).length)
  have versionField := slice?_of_ascii form.ascii (by omega : 2 ≤ 10)
    (by omega : 10 < (Text.Utf8.encode name).length)
  rw [List.drop_zero] at bucketField
  refine (parseIndexFileName?_eq_some_iff name id).mpr ⟨length, _, extended, ⟨lower, three⟩, _,
    bucketField, _, (parseUnsigned?_eq_some _ _ _).mpr ⟨id.bucket.toNat_lt, form.bucket⟩, _,
    versionField, _, (parseUnsigned?_eq_some _ _ _).mpr ⟨id.version.toNat_lt, form.version⟩, ?_⟩
  simp

/-- The reader accepts exactly the names of the form, and reads what their numerals denote. -/
theorem parseIndexFileName?_iff (name : String) (id : IndexFileId) :
    parseIndexFileName? name = some id ↔ NamesIndexFile (Text.Utf8.encode name) id :=
  ⟨namesIndexFile_of_parse, parse_of_namesIndexFile⟩

/-! ### Written names -/

/-- The digits written for a number: at least one, each below sixteen, that denote the number,
and no more than any positive width the number fits in. -/
theorem digits_spec (n : Nat) : ∃ vs : List Nat, Text.Hex.digits n = vs.map Text.Hex.digit ∧
    (∀ v ∈ vs, v < 16) ∧ Nat.ofDigits 16 vs.reverse = n ∧ vs ≠ [] ∧
    ∀ w, 0 < w → n < 16 ^ w → vs.length ≤ w := by
  fun_induction Text.Hex.digits n with
  | case1 n small =>
    exact ⟨[n], rfl, by simpa using small, by simp, List.cons_ne_nil _ _, fun w positive _ => positive⟩
  | case2 n large inductionHypothesis =>
    obtain ⟨vs, written, small, value, present, short⟩ := inductionHypothesis
    refine ⟨vs ++ [n % 16], by rw [written, List.map_append, List.map_singleton], ?_, ?_, by simp, ?_⟩
    · intro v member
      rcases List.mem_append.mp member with early | last
      · exact small v early
      · rw [List.mem_singleton.mp last]
        exact Nat.mod_lt _ (by omega)
    · rw [List.reverse_append, List.reverse_singleton, List.singleton_append, Nat.ofDigits_cons,
        value]
      omega
    · -- a number of at least sixteen needs a width of two or more, and its quotient one less
      intro w positive fits
      obtain ⟨k, rfl⟩ : ∃ k, w = k + 1 := ⟨w - 1, by omega⟩
      have wide : 0 < k := by
        rcases Nat.eq_zero_or_pos k with zero | pos
        · subst zero
          omega
        · exact pos
      have fitsBelow : n / 16 < 16 ^ k := by
        rw [pow_succ] at fits
        omega
      rw [List.length_append, List.length_singleton]
      exact Nat.succ_le_succ (short k wide fitsBelow)

/-- A number written in hex padded to a width it fits in: exactly that many digits, each below
sixteen, that denote the number. -/
theorem padded_spec {w n : Nat} (positive : 0 < w) (fits : n < 16 ^ w) :
    ∃ ds : List Nat, (Text.Hex.padded w n).toList = ds.map Text.Hex.digit ∧ ds.length = w ∧
      (∀ d ∈ ds, d < 16) ∧ Nat.ofDigits 16 ds.reverse = n := by
  obtain ⟨vs, written, small, value, -, short⟩ := digits_spec n
  have fitting := short w positive fits
  refine ⟨List.replicate (w - vs.length) 0 ++ vs, ?_, by simp; omega, ?_, ?_⟩
  · rw [Text.Hex.padded, String.toList_ofList, written, List.length_map, List.map_append,
      List.map_replicate]
    rfl
  · intro d member
    rcases List.mem_append.mp member with zero | digit
    · rw [List.eq_of_mem_replicate zero]
      decide
    · exact small d digit
  · rw [List.reverse_append, List.reverse_replicate, Nat.ofDigits_append_replicate_zero, value]

/-- The bytes of a number written in hex, padded to a width it fits in, are lowercase digits
that denote it. -/
theorem encode_padded {w n : Nat} (positive : 0 < w) (fits : n < 16 ^ w) :
    ∃ ds : List Nat,
      Text.Utf8.encode (Text.Hex.padded w n) = ds.map (fun d => (Text.Hex.digit d).toUInt8) ∧
      ds.length = w ∧ List.Forall₂ SpellsDigit (Text.Utf8.encode (Text.Hex.padded w n)) ds ∧
      Nat.ofDigits 16 ds.reverse = n := by
  obtain ⟨ds, written, length, small, value⟩ := padded_spec positive fits
  have ascii : ∀ c ∈ (Text.Hex.padded w n).toList, c.toNat < 128 := by
    intro c member
    rw [written] at member
    obtain ⟨d, digit, rfl⟩ := List.mem_map.mp member
    exact toNat_digit_lt d (small d digit)
  have bytes :
      Text.Utf8.encode (Text.Hex.padded w n) = ds.map (fun d => (Text.Hex.digit d).toUInt8) := by
    rw [Text.Utf8.encode_of_ascii ascii, written, List.map_map]
    rfl
  refine ⟨ds, bytes, length, ?_, value⟩
  rw [bytes, List.forall₂_map_left_iff, List.forall₂_same]
  intro d member
  refine ⟨small d member, .inl ?_⟩
  rw [toNat_toUInt8 (toNat_digit_lt d (small d member)), toNat_digit d (small d member)]

theorem encode_indexFileName (id : IndexFileId) :
    Text.Utf8.encode (indexFileName id) =
      Text.Utf8.encode (Text.Hex.padded 2 id.bucket.toNat) ++
        (Text.Utf8.encode (Text.Hex.padded 8 id.version.toNat) ++ [46, 105, 100, 120]) := by
  have dotIdx : Text.Utf8.encode ".idx" = [46, 105, 100, 120] := by decide +kernel
  rw [indexFileName, Text.Utf8.encode_append, Text.Utf8.encode_append, List.append_assoc, dotIdx]

/-- A written index file name has the form of one, with the bucket and version it was written
from. -/
theorem namesIndexFile_indexFileName (id : IndexFileId) :
    NamesIndexFile (Text.Utf8.encode (indexFileName id)) id := by
  obtain ⟨bucketDigits, -, bucketLength, bucketSpelled, bucketValue⟩ :=
    encode_padded (w := 2) (by decide) id.bucket.toNat_lt
  obtain ⟨versionDigits, -, versionLength, versionSpelled, versionValue⟩ :=
    encode_padded (w := 8) (by decide) id.version.toNat_lt
  have twoBytes := bucketSpelled.length_eq.trans bucketLength
  have eightBytes := versionSpelled.length_eq.trans versionLength
  have numeral : ∀ {text : List UInt8} {ds : List Nat} {n : Nat}, List.Forall₂ SpellsDigit text ds →
      Nat.ofDigits 16 ds.reverse = n → 0 < text.length → HexNumeral text n :=
    fun spelled value present => ⟨_, (ne_nil_iff_of_forall₂ spelled).mp
      (List.ne_nil_of_length_pos present), value.symm, .inl spelled⟩
  refine ⟨?_, ?_, ?_, ?_⟩
  · rw [encode_indexFileName]
    simp [twoBytes, eightBytes]
  · rw [encode_indexFileName]
    simp [List.drop_append, twoBytes, eightBytes, lowerByte]
  · rw [encode_indexFileName, List.take_append_of_le_length (by omega),
      List.take_of_length_le (by omega)]
    exact numeral bucketSpelled bucketValue (by omega)
  · rw [encode_indexFileName, List.drop_left' twoBytes, List.take_left' eightBytes]
    exact numeral versionSpelled versionValue (by omega)

theorem digits_lt_of_forall₂ {text : List UInt8} {ds : List Nat}
    (spelled : List.Forall₂ SpellsDigit text ds) : ∀ d ∈ ds, d < 16 := by
  induction spelled with
  | nil => simp
  | cons digit _ inductionHypothesis =>
    intro d member
    rcases List.mem_cons.mp member with rfl | later
    · exact digit.1
    · exact inductionHypothesis d later

/-- A numeral without a sign is digits alone. -/
theorem HexNumeral.unsigned {text : List UInt8} {n : Nat} (numeral : HexNumeral text n)
    (noPlus : 43 ∉ text) :
    ∃ ds, List.Forall₂ SpellsDigit text ds ∧ n = Nat.ofDigits 16 ds.reverse := by
  obtain ⟨ds, -, value, spelled | ⟨rest, rfl, -⟩⟩ := numeral
  · exact ⟨ds, spelled, value⟩
  · exact absurd List.mem_cons_self noPlus

/-- Digits of either case, lowered, are the number they denote written in hex and padded to
their count: a number has one spelling of each width. -/
theorem lowered_digits {text : List UInt8} {ds : List Nat} {n : Nat}
    (spelled : List.Forall₂ SpellsDigit text ds) (value : n = Nat.ofDigits 16 ds.reverse)
    (present : 0 < text.length) :
    text.map lowerByte = Text.Utf8.encode (Text.Hex.padded text.length n) := by
  have small := digits_lt_of_forall₂ spelled
  have width := spelled.length_eq
  have fits : n < 16 ^ text.length := by
    rw [value, width, ← List.length_reverse]
    exact Nat.ofDigits_lt_base_pow_length (by decide) fun d member => small d (List.mem_reverse.mp member)
  obtain ⟨written, bytes, writtenLength, writtenSpelled, writtenValue⟩ := encode_padded present fits
  have same : ds = written := by
    apply List.reverse_injective
    refine Nat.ofDigits_inj_of_len_eq (by decide) (by simp [writtenLength, width])
      (fun d member => small d (List.mem_reverse.mp member))
      (fun d member => digits_lt_of_forall₂ writtenSpelled d (List.mem_reverse.mp member))
      (by rw [← value, writtenValue])
  rw [bytes, ← same]
  have lowered : List.Forall₂ (fun c d => lowerByte c = (Text.Hex.digit d).toUInt8) text ds :=
    spelled.imp fun _ _ digit => digit.lowerByte_eq
  rw [← List.forall₂_map_right_iff (f := fun d => (Text.Hex.digit d).toUInt8),
    ← List.forall₂_map_left_iff (f := lowerByte), List.forall₂_eq_eq_eq] at lowered
  exact lowered

/-- A name without `+` that the reader accepts is the written name of what it denotes, with its
letters in lowercase. -/
theorem indexFileName_of_parse {name : String} {id : IndexFileId}
    (read : parseIndexFileName? name = some id) (unsigned : '+' ∉ name.toList) :
    indexFileName id = name.toLower := by
  have form := namesIndexFile_of_parse read
  have chars : name.toList = (Text.Utf8.encode name).map asciiChar := by
    conv => lhs; rw [form.eq_ofList]
    exact String.toList_ofList
  have asciiChars : ∀ c ∈ name.toList, c.toNat < 128 := by
    intro c member
    rw [chars] at member
    obtain ⟨b, inside, rfl⟩ := List.mem_map.mp member
    rw [toNat_asciiChar (form.ascii b inside)]
    exact form.ascii b inside
  have noPlus : 43 ∉ Text.Utf8.encode name := fun member =>
    unsigned (chars ▸ List.mem_map_of_mem member)
  obtain ⟨letters, whole, lettersLower, -⟩ := form.split
  obtain ⟨bucketDigits, bucketSpelled, bucketValue⟩ :=
    form.bucket.unsigned fun member => noPlus (List.mem_of_mem_take member)
  obtain ⟨versionDigits, versionSpelled, versionValue⟩ :=
    form.version.unsigned fun member => noPlus (List.mem_of_mem_drop (List.mem_of_mem_take member))
  have twoBytes : ((Text.Utf8.encode name).take 2).length = 2 := by simp [form.length_eq]
  have eightBytes : (((Text.Utf8.encode name).drop 2).take 8).length = 8 := by simp [form.length_eq]
  have bucketBytes := lowered_digits bucketSpelled bucketValue (by omega)
  have versionBytes := lowered_digits versionSpelled versionValue (by omega)
  rw [twoBytes] at bucketBytes
  rw [eightBytes] at versionBytes
  apply Text.Utf8.eq_of_encode_eq
  rw [Text.Utf8.encode_toLower asciiChars, encode_indexFileName, whole, take_ten, List.map_append,
    List.map_append, List.map_cons, lettersLower, bucketBytes, versionBytes, List.append_assoc]
  rfl

/-- The grammar of index file names. The reader accepts a name exactly when its bytes have the
form of one: fourteen bytes, `.idx` in either case at the end, and before it a hex numeral of two
bytes and one of eight, each optionally after a `+`; it reads the bucket and version those
numerals denote. A written name has fourteen bytes and reads back to what it was written from,
and a name without `+` that the reader accepts is the written name of what it denotes, with its
letters in lowercase. -/
theorem indexFileName_grammar :
    (∀ (name : String) (id : IndexFileId),
      parseIndexFileName? name = some id ↔ NamesIndexFile (Text.Utf8.encode name) id) ∧
    (∀ id : IndexFileId, (Text.Utf8.encode (indexFileName id)).length = 14 ∧
      parseIndexFileName? (indexFileName id) = some id) ∧
    (∀ (name : String) (id : IndexFileId), '+' ∉ name.toList →
      parseIndexFileName? name = some id → indexFileName id = name.toLower) :=
  ⟨parseIndexFileName?_iff,
    fun id => ⟨(namesIndexFile_indexFileName id).length_eq,
      parse_of_namesIndexFile (namesIndexFile_indexFileName id)⟩,
    fun _ _ unsigned read => indexFileName_of_parse read unsigned⟩

example : parseIndexFileName? "+3000000A7.IDX" = some ⟨3, 0xA7⟩ := by decide +kernel

end AssetStore.Layout
