import AssetStore.Proofs.KeyText
import AssetStore.Proofs.IndexFile
import AssetStore.Proofs.IndexStore
import AssetStore.Proofs.EncodingTable
import AssetStore.Proofs.RootTable
import AssetStore.Proofs.StorageRead
/-!
# An installation that reads back

A writer of installations, and what the storage does on what it writes. Files are added as paths
with contents. Each content is stored as a block in shard 1, and the root table and the encoding
table are stored as blocks in shard 0. Every block opens with a 30-byte header carrying its
checksum and its size. Each block is indexed, in one index file, under the first nine bytes of its
file key, the reversed checksum of the payload. The root table has a record per file, with the
filename hash of its path and its content checksum. The encoding table maps every checksum to its
file key. The configuration names the encoding table's file key and the root table's checksum.

The checksum is any content digest of sixteen bytes (`ContentDigest`), MD5 for the store's own
writer. The only assumptions are on the digest and on sizes (`Distinct`, `KeysUsed`, `Fits`). Then
the
configuration opens, initialising builds the three tables, and every non-empty path resolves to
the contents of the first file whose path has its filename hash, or to nothing
(`installation_reads_back`). The steps are: where each index record points (`records_point`),
the tables each read back (`parse_indexFile`, `parse_encodingBlob`, `parse_rootBlob`), and a
lookup by file key lands on the payload itself (`lookup_indexStore`, `fileKey?_encodingTable`).
-/

namespace AssetStore.Installation

/-- A content checksum of sixteen bytes, the one the writer stores with each payload. -/
class ContentDigest where
  digest : List UInt8 → List UInt8
  length_digest : ∀ bytes, (digest bytes).length = 16

section AnyDigest

variable [ContentDigest]

/-- The checksum of some content, as a key. -/
def contentKey (bytes : List UInt8) : Key :=
  ⟨ContentDigest.digest bytes, fun empty => by
    simpa [empty] using ContentDigest.length_digest bytes⟩

/-! ### The writer -/

/-- The file key a payload is stored under: its checksum reversed, so that it never equals the
payload's content checksum. -/
def fileKey (payload : List UInt8) : List UInt8 := (ContentDigest.digest payload).reverse

theorem length_fileKey (payload : List UInt8) : (fileKey payload).length = 16 := by
  rw [fileKey, List.length_reverse, ContentDigest.length_digest]

/-- The file key of a payload as a key. -/
def fileKeyOf (payload : List UInt8) : Key :=
  ⟨fileKey payload, fun empty => by simpa [empty] using length_fileKey payload⟩

/-- Sixteen bytes that open every shard, so that no block starts at offset zero. -/
def filler : List UInt8 := List.replicate 16 0xCC

/-- A stored block: the payload's checksum, the size of the whole block with its 30-byte header
as a little-endian word, ten reserved zero bytes, then the payload. -/
def block (payload : List UInt8) : List UInt8 :=
  ContentDigest.digest payload ++ Bytes.toLE 4 (payload.length + 30) ++ List.replicate 10 0 ++ payload

theorem length_block (payload : List UInt8) : (block payload).length = payload.length + 30 := by
  simp [block, ContentDigest.length_digest]
  omega

/-- A shard file holding payloads one after another. -/
def shardBytes (payloads : List (List UInt8)) : List UInt8 := filler ++ payloads.flatMap block

/-- The index records of payloads stored in shard `n` from byte `start` on: the key is the first
nine bytes of the payload's file key, and the offset and the size are cut to their fields. -/
def records (n : Nat) (small : n < 1024) : Nat → List (List UInt8) → List IndexFile.Record
  | _, [] => []
  | start, payload :: rest =>
    { key := (fileKey payload).take 9, shard := n, offset := start % 2 ^ 30,
      size := (payload.length + 30) % 2 ^ 32,
      key_length := by simp [length_fileKey], shard_lt := small,
      offset_lt := Nat.mod_lt _ (by decide), size_lt := Nat.mod_lt _ (by decide) } ::
      records n small (start + (block payload).length) rest

/-- The contents of the files, in the order they were added. -/
def contents (files : List (String × List UInt8)) : List (List UInt8) := files.map (·.2)

/-- The flags of a root record meant for every locale. -/
def allLocales : UInt64 := 0xFFFFFFFF

/-- The root record of a file: its path's filename hash and its content checksum. -/
def rootEntry (file : String × List UInt8) : RootEntry :=
  ⟨AssetPath.filenameHash file.1, contentKey file.2, allLocales⟩

/-- The root table: one record per file, in the order they were added. -/
def rootBlob (files : List (String × List UInt8)) : List UInt8 :=
  (files.map rootEntry).flatMap RootEntry.write

/-- The encoding record of a payload: its checksum, its size cut to 32 bits, and its file key. -/
def encodingRecord (payload : List UInt8) : EncodingTable.Record where
  checksum := contentKey payload
  fileKeys := [fileKeyOf payload]
  fileSize := payload.length % 2 ^ 32
  checksum_length := ContentDigest.length_digest payload
  fileKeys_length k member := by
    rw [List.mem_singleton.mp member]
    exact length_fileKey payload
  keys_pos := Nat.one_pos
  keys_lt := show 1 < 256 by decide
  fileSize_lt := by omega

/-- The header of the encoding table: one run, pages of size zero, and a string block of eight
bytes. -/
def encodingHeader : List UInt8 :=
  [0x45, 0x4E, 1, 16, 16, 0, 0, 0, 0, 0, 0, 0, 1, 0, 0, 0, 0, 0, 0, 0, 0, 8]

/-- The string block of the encoding table, `b:{*=n}` and a NUL. -/
def encodingStrings : List UInt8 := [0x62, 0x3A, 0x7B, 0x2A, 0x3D, 0x6E, 0x7D, 0]

/-- The one run of the encoding table: a record for each file, then one for the root table. -/
def encodingRun (files : List (String × List UInt8)) : EncodingTable.Run :=
  ⟨(contents files ++ [rootBlob files]).map encodingRecord, 0, by simp⟩

/-- The encoding table: the header, the string block, a zeroed page index and the run. -/
def encodingBlob (files : List (String × List UInt8)) : List UInt8 :=
  encodingHeader ++ encodingStrings ++ List.replicate 32 0 ++ (encodingRun files).write

/-- The two tables, stored in shard 0: the root table, then the encoding table. -/
def tables (files : List (String × List UInt8)) : List (List UInt8) :=
  [rootBlob files, encodingBlob files]

/-- Everything stored: the contents, then the tables. -/
def payloads (files : List (String × List UInt8)) : List (List UInt8) :=
  contents files ++ tables files

/-- The records of the one index file: the contents in shard 1, then the tables in shard 0. -/
def indexRecords (files : List (String × List UInt8)) : List IndexFile.Record :=
  records 1 (by decide) 16 (contents files) ++ records 0 (by decide) 16 (tables files)

/-- The index file of bucket 0. -/
def indexFile (files : List (String × List UInt8)) : List UInt8 :=
  IndexFile.write 0 (indexRecords files)

/-- The installation in the working directory: the data directory holds index file `(0, 1)`,
the shard of the tables and, when any file was added, the shard of the contents. Nodes are listed
by name; a listing sorts them anyway. -/
def tree (files : List (String × List UInt8)) : Disk.Tree :=
  ⟨[(["Data"], .directory), (["Data", "data"], .directory),
    (["Data", "data", "0000000001.idx"], .file (indexFile files)),
    (["Data", "data", "data.000"], .file (shardBytes (tables files)))] ++
    if files.isEmpty then [] else [(["Data", "data", "data.001"], .file (shardBytes (contents files)))]⟩

/-- The configuration that opens the installation: the encoding table's file key and the root
table's checksum as hex, and the defaults otherwise. -/
def config (files : List (String × List UInt8)) : StorageConfig where
  installPath := "."
  encodingKey := (fileKeyOf (encodingBlob files)).hex
  rootChecksum := (contentKey (rootBlob files)).hex
  maxShardNumber := 32
  enableMmap := true


/-! ### The files of the installation -/

theorem dataPath_config (files : List (String × List UInt8)) :
    (config files).dataPath = "./Data/data" := by
  show Layout.dataPath "." = _
  decide +kernel

theorem shardPath_tables (files : List (String × List UInt8)) :
    (config files).shardPath 0 = "./Data/data/data.000" := by
  show Disk.Path.join (Layout.dataPath ".") (Layout.shardFileName 0) = _
  decide +kernel

theorem shardPath_contents (files : List (String × List UInt8)) :
    (config files).shardPath 1 = "./Data/data/data.001" := by
  show Disk.Path.join (Layout.dataPath ".") (Layout.shardFileName 1) = _
  decide +kernel

omit [ContentDigest] in
theorem parts_data : Disk.Path.parts "./Data/data" = [".", "Data", "data"] := by decide +kernel
omit [ContentDigest] in
theorem parts_index :
    Disk.Path.parts "./Data/data/0000000001.idx" = [".", "Data", "data", "0000000001.idx"] := by
  decide +kernel
omit [ContentDigest] in
theorem parts_tables :
    Disk.Path.parts "./Data/data/data.000" = [".", "Data", "data", "data.000"] := by decide +kernel
omit [ContentDigest] in
theorem parts_contents :
    Disk.Path.parts "./Data/data/data.001" = [".", "Data", "data", "data.001"] := by decide +kernel

omit [ContentDigest] in
theorem origin_relative (path : String) (relative : path.startsWith "/" = false) :
    Disk.Tree.origin path = .inside [] := by
  simp [Disk.Tree.origin, Disk.Path.isAbsolute, relative]

theorem resolve_data (files : List (String × List UInt8)) :
    (tree files).resolve "./Data/data" = .ok (.inside ["Data", "data"]) := by
  simp [Disk.Tree.resolve, parts_data, origin_relative "./Data/data" (by decide +kernel),
    Disk.Tree.step, Disk.Tree.nodeAtPlace?, Disk.Tree.nodeAt?, tree, Disk.Place.down, bind,
    Except.bind, List.foldlM, pure, Except.pure]

/-- A name in the data directory resolves to its place, whether or not the tree holds it. -/
theorem resolve_inData (files : List (String × List UInt8)) {path name : String}
    (parts : Disk.Path.parts path = [".", "Data", "data", name])
    (relative : path.startsWith "/" = false) (named : name ≠ "" ∧ name ≠ "." ∧ name ≠ "..") :
    (tree files).resolve path = .ok (.inside ["Data", "data", name]) := by
  simp [Disk.Tree.resolve, parts, origin_relative path relative, Disk.Tree.step,
    Disk.Tree.nodeAtPlace?, Disk.Tree.nodeAt?, tree, Disk.Place.down, bind, Except.bind,
    List.foldlM, pure, Except.pure, named]

theorem kindOf_data (files : List (String × List UInt8)) :
    (tree files).kindOf "./Data/data" = some .directory := by
  unfold Disk.Tree.kindOf Disk.Tree.lookup
  rw [resolve_data]
  simp [Disk.Tree.nodeAtPlace?, Disk.Tree.nodeAt?, tree, bind, Except.bind]

theorem readFile_index (files : List (String × List UInt8)) :
    (tree files).readFile "./Data/data/0000000001.idx" = .ok (indexFile files) := by
  unfold Disk.Tree.readFile Disk.Tree.lookup
  rw [resolve_inData files parts_index (by decide +kernel) (by decide)]
  simp [Disk.Tree.nodeAtPlace?, Disk.Tree.nodeAt?, tree, bind, Except.bind]

theorem readFile_tables (files : List (String × List UInt8)) :
    (tree files).readFile "./Data/data/data.000" = .ok (shardBytes (tables files)) := by
  unfold Disk.Tree.readFile Disk.Tree.lookup
  rw [resolve_inData files parts_tables (by decide +kernel) (by decide)]
  simp [Disk.Tree.nodeAtPlace?, Disk.Tree.nodeAt?, tree, bind, Except.bind]

/-- The shard of the contents is there once a file was added. -/
theorem readFile_contents (files : List (String × List UInt8)) (added : files ≠ []) :
    (tree files).readFile "./Data/data/data.001" = .ok (shardBytes (contents files)) := by
  unfold Disk.Tree.readFile Disk.Tree.lookup
  rw [resolve_inData files parts_contents (by decide +kernel) (by decide)]
  simp [Disk.Tree.nodeAtPlace?, Disk.Tree.nodeAt?, tree, bind, Except.bind, added]

/-- The names in the data directory, in ascending order. -/
def dataNames (files : List (String × List UInt8)) : List String :=
  if files.isEmpty then ["0000000001.idx", "data.000"] else ["0000000001.idx", "data.000", "data.001"]

theorem listDir_data (files : List (String × List UInt8)) :
    (tree files).listDir "./Data/data" = .ok (dataNames files) := by
  unfold Disk.Tree.listDir
  rw [resolve_data]
  cases files with
  | nil =>
    simp [Disk.Tree.nodeAt?, tree, dataNames, bind, Except.bind]
    exact List.mergeSort_of_pairwise (by decide +kernel)
  | cons file files =>
    simp [Disk.Tree.nodeAt?, tree, dataNames, bind, Except.bind]
    exact List.mergeSort_of_pairwise (by decide +kernel)

omit [ContentDigest] in
/-- Of the data directory, only the index file is an index file. -/
theorem selectLatest_data (files : List (String × List UInt8)) :
    Index.selectLatest ((dataNames files).map (Disk.Path.join "./Data/data")) =
      [(⟨0, 1⟩, "./Data/data/0000000001.idx")] := by
  have chosen : ((dataNames files).map (Disk.Path.join "./Data/data")).foldl Index.considerLatest [] =
      [(⟨0, 1⟩, "./Data/data/0000000001.idx")] := by
    cases files with
    | nil => decide +kernel
    | cons file files =>
      show (["0000000001.idx", "data.000", "data.001"].map (Disk.Path.join "./Data/data")).foldl
        Index.considerLatest [] = _
      decide +kernel
  rw [Index.selectLatest, chosen, List.mergeSort_singleton]

/-! ### Where the index points -/

theorem block_eq (payload : List UInt8) :
    block payload = (ContentDigest.digest payload ++ Bytes.toLE 4 (payload.length + 30) ++
      List.replicate 10 0) ++ payload := rfl

/-- The header of a stored block is accepted and declares the payload with its header. -/
theorem parse_header (payload : List UInt8) (small : payload.length + 30 < 2 ^ 32) :
    BlockHeader.parse (ContentDigest.digest payload ++ Bytes.toLE 4 (payload.length + 30) ++
      List.replicate 10 0) = .ok ⟨ContentDigest.digest payload, payload.length + 30, List.replicate 10 0⟩ := by
  have digest := ContentDigest.length_digest payload
  have hash : (ContentDigest.digest payload ++ Bytes.toLE 4 (payload.length + 30) ++
      List.replicate 10 0).take 16 = ContentDigest.digest payload := by
    rw [List.append_assoc, List.take_left' digest]
  have size : Bytes.slice (ContentDigest.digest payload ++ Bytes.toLE 4 (payload.length + 30) ++
      List.replicate 10 0) 16 4 = Bytes.toLE 4 (payload.length + 30) := by
    rw [Bytes.slice_append_of_le _ _ (by simp [digest]), ← digest, Bytes.slice_append,
      List.take_of_length_le (by simp)]
  have reserved : Bytes.slice (ContentDigest.digest payload ++ Bytes.toLE 4 (payload.length + 30) ++
      List.replicate 10 0) 20 10 = List.replicate 10 0 := by
    have front : (ContentDigest.digest payload ++ Bytes.toLE 4 (payload.length + 30)).length = 20 := by
      simp [digest]
    rw [← front, Bytes.slice_append, List.take_of_length_le (by simp)]
  unfold BlockHeader.parse BlockHeader.read?
  rw [if_pos (by simp [digest, blockHeaderSize]), hash, size, reserved, Bytes.le_toLE,
    Nat.mod_eq_of_lt (by simpa using small)]
  simp [blockHeaderSize]

/-- An entry points at a payload whose block lies in its shard's file at the entry's offset. -/
theorem points_block {t : Disk.Tree} {config : StorageConfig} {entry : IndexEntry}
    {front payload back : List UInt8}
    (file : t.readFile (config.shardPath entry.shard) = .ok (front ++ block payload ++ back))
    (offset : entry.offset = front.length) (small : (front ++ block payload).length < 2 ^ 32) :
    Storage.Points t config entry payload := by
  have lengths := length_block payload
  rw [List.length_append, lengths] at small
  have header : Bytes.slice (front ++ block payload ++ back) entry.offset blockHeaderSize =
      ContentDigest.digest payload ++ Bytes.toLE 4 (payload.length + 30) ++ List.replicate 10 0 := by
    rw [offset, List.append_assoc, Bytes.slice_append, block_eq, List.append_assoc,
      List.take_left' (by simp [ContentDigest.length_digest]; rfl)]
  have body : Bytes.slice (front ++ block payload ++ back) (entry.offset + blockHeaderSize)
      (payload.length + 30 - blockHeaderSize) = payload := by
    have start : entry.offset + blockHeaderSize = (front ++ (ContentDigest.digest payload ++
        Bytes.toLE 4 (payload.length + 30) ++ List.replicate 10 0)).length := by
      simp [offset, ContentDigest.length_digest, blockHeaderSize]
    rw [start, block_eq, ← List.append_assoc, List.append_assoc _ payload, Bytes.slice_append,
      show payload.length + 30 - blockHeaderSize = payload.length from rfl,
      List.take_left' rfl]
  refine ⟨_, _, file, ?_, header ▸ parse_header payload (by omega), ?_, ?_, body⟩
  all_goals simp only [offset, List.length_append, lengths, blockHeaderSize]; omega

section Records

variable {n : Nat} {small : n < 1024}

theorem length_records (start : Nat) (ps : List (List UInt8)) :
    (records n small start ps).length = ps.length := by
  induction ps generalizing start with
  | nil => rfl
  | cons p rest inductionHypothesis => simp [records, inductionHypothesis]

theorem exists_record {start : Nat} {ps : List (List UInt8)} {p : List UInt8} (member : p ∈ ps) :
    ∃ r ∈ records n small start ps, r.key = (fileKey p).take 9 := by
  induction ps generalizing start with
  | nil => cases member
  | cons q rest inductionHypothesis =>
    rcases List.mem_cons.mp member with rfl | later
    · exact ⟨_, List.mem_cons_self, rfl⟩
    · obtain ⟨r, kept, key⟩ : ∃ r ∈ records n small (start + (block q).length) rest,
          r.key = (fileKey p).take 9 := inductionHypothesis later
      exact ⟨r, List.mem_cons_of_mem _ kept, key⟩

/-- Every record stands for one payload's block: it is keyed by the payload's file key, and its
offset is where the block starts, cut to thirty bits. -/
theorem mem_records {start : Nat} {ps : List (List UInt8)} {r : IndexFile.Record}
    (member : r ∈ records n small start ps) :
    ∃ front q back, ps.flatMap block = front ++ block q ++ back ∧ q ∈ ps ∧
      r.key = (fileKey q).take 9 ∧ r.shard = n ∧ r.offset = (start + front.length) % 2 ^ 30 := by
  induction ps generalizing start with
  | nil => cases member
  | cons p rest inductionHypothesis =>
    rcases List.mem_cons.mp member with rfl | later
    · exact ⟨[], p, rest.flatMap block, by simp, List.mem_cons_self, rfl, rfl, rfl⟩
    · obtain ⟨front, q, back, split, kept, key, shard, offset⟩ := inductionHypothesis later
      refine ⟨block p ++ front, q, back, ?_, List.mem_cons_of_mem _ kept, key, shard, ?_⟩
      · rw [List.flatMap_cons, split]
        simp only [List.append_assoc]
      · rw [offset, List.length_append, Nat.add_assoc]

/-- A record of a shard's payloads, in a file holding the shard below `2 ^ 30` bytes, points at
its payload. -/
theorem records_point {t : Disk.Tree} {config : StorageConfig} {ps : List (List UInt8)}
    {r : IndexFile.Record} (file : t.readFile (config.shardPath n) = .ok (shardBytes ps))
    (fits : (shardBytes ps).length < 2 ^ 30) (member : r ∈ records n small 16 ps) :
    ∃ q ∈ ps, r.key = (fileKey q).take 9 ∧ Storage.Points t config r.entry q := by
  obtain ⟨front, q, back, split, kept, key, shard, offset⟩ := mem_records member
  have layout : shardBytes ps = filler ++ front ++ block q ++ back := by
    rw [shardBytes, split]
    simp only [List.append_assoc]
  have before : (filler ++ front ++ block q).length < 2 ^ 30 := by
    have whole : (shardBytes ps).length = (filler ++ front ++ block q).length + back.length := by
      rw [layout, List.length_append]
    omega
  have start : (filler ++ front).length = 16 + front.length := by
    rw [List.length_append]
    rfl
  have stored : t.readFile (config.shardPath r.entry.shard) =
      .ok (filler ++ front ++ block q ++ back) := by
    show t.readFile (config.shardPath r.shard) = _
    rw [shard, file, layout]
  have at_start : r.entry.offset = (filler ++ front).length := by
    show r.offset = _
    rw [List.length_append] at before
    rw [offset, Nat.mod_eq_of_lt (by omega), start]
  exact ⟨q, kept, key, points_block stored at_start (by omega)⟩

end Records

/-! ### The index -/

/-- A block is at least as long as its header, so a shard of `n` payloads is at least `30 * n`
bytes long. -/
theorem length_le_shardBytes (ps : List (List UInt8)) : 30 * ps.length ≤ (shardBytes ps).length := by
  induction ps with
  | nil => simp
  | cons p rest inductionHypothesis =>
    simp only [shardBytes, List.flatMap_cons, List.length_append, length_block] at inductionHypothesis ⊢
    simp only [List.length_cons]
    omega

section Index

variable {files : List (String × List UInt8)}

/-- Every payload has a key with a non-zero byte, as its record is skipped otherwise. -/
def KeysUsed (files : List (String × List UInt8)) : Prop :=
  ∀ p ∈ payloads files, (fileKey p).take 9 ≠ List.replicate 9 0

/-- Both shard files stay below `2 ^ 30` bytes, the reach of an offset. -/
def Fits (files : List (String × List UInt8)) : Prop :=
  (shardBytes (contents files)).length < 2 ^ 30 ∧ (shardBytes (tables files)).length < 2 ^ 30

theorem mem_indexRecords {r : IndexFile.Record} (member : r ∈ indexRecords files) :
    r ∈ records 1 (by decide) 16 (contents files) ∨ r ∈ records 0 (by decide) 16 (tables files) :=
  List.mem_append.mp member

/-- Every index record is keyed by a stored payload's file key, in shard 0 or 1. -/
theorem keyed_of_mem_indexRecords {r : IndexFile.Record} (member : r ∈ indexRecords files) :
    (∃ q ∈ payloads files, r.key = (fileKey q).take 9) ∧ r.shard ≤ 1 := by
  rcases mem_indexRecords member with stored | stored
  · obtain ⟨-, q, -, -, kept, key, shard, -⟩ := mem_records stored
    exact ⟨⟨q, List.mem_append_left _ kept, key⟩, by omega⟩
  · obtain ⟨-, q, -, -, kept, key, shard, -⟩ := mem_records stored
    exact ⟨⟨q, List.mem_append_right _ kept, key⟩, by omega⟩

theorem exists_indexRecord {p : List UInt8} (stored : p ∈ payloads files) :
    ∃ r ∈ indexRecords files, r.key = (fileKey p).take 9 := by
  rcases List.mem_append.mp stored with content | table
  · obtain ⟨r, member, key⟩ : ∃ r ∈ records 1 (by decide) 16 (contents files),
        r.key = (fileKey p).take 9 := exists_record content
    exact ⟨r, List.mem_append_left _ member, key⟩
  · obtain ⟨r, member, key⟩ : ∃ r ∈ records 0 (by decide) 16 (tables files),
        r.key = (fileKey p).take 9 := exists_record table
    exact ⟨r, List.mem_append_right _ member, key⟩

theorem inUse_of_used (used : KeysUsed files) {r : IndexFile.Record} (member : r ∈ indexRecords files) :
    r.inUse := by
  obtain ⟨⟨q, stored, key⟩, -⟩ := keyed_of_mem_indexRecords member
  have nine : r.key.length = 9 := r.key_length
  unfold IndexFile.Record.inUse
  rw [Bool.not_eq_true']
  by_contra zero
  rw [Bool.not_eq_false, List.all_eq_true] at zero
  apply used q stored
  rw [← key, List.eq_replicate_iff]
  exact ⟨nine, fun b member => by simpa using zero b member⟩

theorem parse_indexFile (used : KeysUsed files) (fits : Fits files) :
    IndexFile.parse (indexFile files) 32 = .ok ((indexRecords files).map (·.entry)) := by
  have count : (indexRecords files).length = files.length + 2 := by
    simp [indexRecords, length_records, contents, tables]
  have bounded := length_le_shardBytes (contents files)
  have counted : (contents files).length = files.length := List.length_map _
  rw [indexFile, IndexFile.parse_write_eq _ _ _ (by rw [count]; have := fits.1; omega),
    ← List.append_nil ((indexRecords files).flatMap _),
    IndexFile.parseRecords_allowed _ _ _ _ _ _ (by simp) fun r member _ =>
      (keyed_of_mem_indexRecords member).2.trans (by decide),
    List.nil_append, List.filter_eq_self.mpr fun r member => inUse_of_used used member]

/-- The index store of the installation: its one index file and an entry per record. -/
def indexStore (files : List (String × List UInt8)) : IndexStore :=
  ⟨[(⟨0, 1⟩, "./Data/data/0000000001.idx")],
    IndexStore.mergeEntries [] ((indexRecords files).map (·.entry))⟩

theorem loadDir_run (used : KeysUsed files) (fits : Fits files) :
    (IndexStore.loadDir "./Data/data" 32 : StateM Disk.Tree _).run (tree files) =
      (.ok (indexStore files), tree files) := by
  simp [IndexStore.loadDir, DiskAccess.listDir, listDir_data, IndexStore.build, selectLatest_data,
    IndexStore.readAll, DiskAccess.readFile, readFile_index, parse_indexFile used fits, indexStore]
  rfl

/-- No two stored payloads share the first nine bytes of their file keys unless they are
equal. -/
def Distinct (files : List (String × List UInt8)) : Prop :=
  ∀ p ∈ payloads files, ∀ q ∈ payloads files, (fileKey p).take 9 = (fileKey q).take 9 → p = q

theorem record_points (fits : Fits files) {r : IndexFile.Record} (member : r ∈ indexRecords files) :
    ∃ q ∈ payloads files, r.key = (fileKey q).take 9 ∧
      Storage.Points (tree files) (config files) r.entry q := by
  rcases mem_indexRecords member with stored | stored
  · -- the contents shard exists once a file was added, and records of no payloads are none
    have added : files ≠ [] := by
      rintro rfl
      cases stored
    have file := readFile_contents files added
    rw [← shardPath_contents] at file
    obtain ⟨q, kept, key, points⟩ := records_point file fits.1 stored
    exact ⟨q, List.mem_append_left _ kept, key, points⟩
  · have file := readFile_tables files
    rw [← shardPath_tables] at file
    obtain ⟨q, kept, key, points⟩ := records_point file fits.2 stored
    exact ⟨q, List.mem_append_right _ kept, key, points⟩

/-- A stored payload's file key finds, in the index, an entry that points at the payload. -/
theorem lookup_indexStore (fits : Fits files) (distinct : Distinct files) {p : List UInt8}
    (stored : p ∈ payloads files) :
    ∃ entry, (indexStore files).lookup (fileKeyOf p) = some entry ∧
      Storage.Points (tree files) (config files) entry p := by
  have search : (indexStore files).lookup (fileKeyOf p) =
      ((indexRecords files).find? (·.key == (fileKey p).take 9)).map (·.entry) := by
    show (((indexRecords files).map (·.entry)).foldl (appendNew IndexEntry.key) []).find?
      (fun e => (fun k : Key => k.bytes == (fileKey p).take 9) e.key) = _
    rw [find?_foldl_appendNew IndexEntry.key (fun k : Key => k.bytes == (fileKey p).take 9),
      List.nil_append, List.find?_map]
    rfl
  obtain ⟨r, member, key⟩ := exists_indexRecord stored
  have present : ((indexRecords files).find? (·.key == (fileKey p).take 9)).isSome :=
    List.find?_isSome.mpr ⟨r, member, by simp [key]⟩
  obtain ⟨first, found⟩ := Option.isSome_iff_exists.mp present
  have same : first.key = (fileKey p).take 9 := by simpa using List.find?_some found
  obtain ⟨q, kept, key', points⟩ := record_points fits (List.mem_of_find?_eq_some found)
  have payload : q = p := distinct q kept p stored (key' ▸ same)
  subst payload
  exact ⟨first.entry, by rw [search, found]; rfl, points⟩

end Index

/-! ### The tables -/

section Tables

variable {files : List (String × List UInt8)}

/-- The encoding table of the installation: a record per file and one for the root table, the
first of each checksum kept. -/
def encodingTable (files : List (String × List UInt8)) : EncodingTable :=
  ⟨(((contents files ++ [rootBlob files]).map encodingRecord).map (·.toEncodingEntry)).eraseDupsBy
    (fun a b => a.checksum == b.checksum)⟩

theorem parse_encodingBlob (files : List (String × List UInt8)) :
    EncodingTable.parse (encodingBlob files) = .ok (encodingTable files) := by
  have laid : encodingBlob files = encodingHeader ++ encodingStrings ++ List.replicate 32 0 ++
      [encodingRun files].flatMap EncodingTable.Run.write ++ [] := by
    simp [encodingBlob]
  rw [laid, EncodingTable.parse_write_table _ _ _ _ _ rfl (by rw [List.length_singleton]; decide)
    (by decide) rfl]
  simp [encodingTable, encodingRun]

/-- Payloads with the same checksum are equal when no two stored payloads share a key prefix. -/
theorem eq_of_content (distinct : Distinct files) {p q : List UInt8} (hp : p ∈ payloads files)
    (hq : q ∈ payloads files) (same : contentKey q = contentKey p) : q = p := by
  have digest : ContentDigest.digest q = ContentDigest.digest p := congrArg Key.bytes same
  exact distinct q hq p hp (by rw [fileKey, fileKey, digest])

/-- A file's contents, or the root table, finds its own file key in the encoding table. -/
theorem fileKey?_encodingTable (distinct : Distinct files) {p : List UInt8}
    (listed : p ∈ contents files ++ [rootBlob files]) :
    (encodingTable files).fileKey? (contentKey p) = some (fileKeyOf p) := by
  have stored : ∀ q ∈ contents files ++ [rootBlob files], q ∈ payloads files := by
    intro q member
    rcases List.mem_append.mp member with content | root
    · exact List.mem_append_left _ content
    · rw [List.mem_singleton.mp root]
      exact List.mem_append_right _ List.mem_cons_self
  have present : ((contents files ++ [rootBlob files]).find?
      (fun q => (encodingRecord q).checksum == contentKey p)).isSome :=
    List.find?_isSome.mpr ⟨p, listed, by simp [encodingRecord]⟩
  obtain ⟨first, found⟩ := Option.isSome_iff_exists.mp present
  have same : contentKey first = contentKey p := by
    simpa [encodingRecord] using List.find?_some found
  have payload := eq_of_content distinct (stored p listed)
    (stored first (List.mem_of_find?_eq_some found)) same
  subst payload
  rw [encodingTable, EncodingTable.fileKey?_eraseDupsBy, List.find?_map]
  simp only [Function.comp_def]
  rw [found]
  rfl

/-- The root table of the installation: a record per file, in order. -/
def rootTable (files : List (String × List UInt8)) : RootTable :=
  RootTable.ofEntries (files.map rootEntry)

theorem parse_rootBlob (files : List (String × List UInt8)) :
    RootTable.parse (rootBlob files) = .ok (rootTable files) :=
  RootTable.parse_flatMap_write _ fun e member => by
    obtain ⟨file, -, rfl⟩ := List.mem_map.mp member
    exact ContentDigest.length_digest file.2

/-- The files whose paths have a filename hash. -/
def named (files : List (String × List UInt8)) (nameHash : UInt64) : List (String × List UInt8) :=
  files.filter fun file => AssetPath.filenameHash file.1 == nameHash

theorem checksumsFor_rootTable (nameHash : UInt64) :
    (rootTable files).checksumsFor nameHash = (named files nameHash).map (contentKey ·.2) := by
  rw [RootTable.checksumsFor, rootTable, (RootTable.consistent_ofEntries _).entriesFor_eq,
    RootTable.entries_ofEntries]
  simp [named, List.filter_map, Function.comp_def, rootEntry]

theorem locate_missing {nameHash : UInt64} (unnamed : named files nameHash = []) :
    locate (rootTable files) (encodingTable files) (indexStore files) nameHash = .missingAt .root := by
  rw [locate, checksumsFor_rootTable, unnamed]
  rfl

/-- The first file with the hash is found, through its checksum and its file key, at an entry
that points at its contents. -/
theorem locate_found (fits : Fits files) (distinct : Distinct files) {nameHash : UInt64}
    {file : String × List UInt8} {rest : List (String × List UInt8)}
    (first : named files nameHash = file :: rest) :
    ∃ entry, locate (rootTable files) (encodingTable files) (indexStore files) nameHash =
      .found entry ∧ Storage.Points (tree files) (config files) entry file.2 := by
  have added : file ∈ files := List.mem_of_mem_filter (first ▸ List.mem_cons_self : file ∈ named files nameHash)
  have content : file.2 ∈ contents files := List.mem_map_of_mem added
  obtain ⟨entry, found, points⟩ :=
    lookup_indexStore fits distinct (List.mem_append_left _ content)
  refine ⟨entry, ?_, points⟩
  rw [locate, checksumsFor_rootTable, first, List.map_cons]
  dsimp only
  rw [locateAmong, fileKey?_encodingTable distinct (List.mem_append_left _ content)]
  dsimp only
  rw [found]

end Tables

/-! ### Opening and initialising -/

section Storage

variable {files : List (String × List UInt8)}

/-- The storage the configuration opens: both keys read, no table built, no shard open. -/
def opened (files : List (String × List UInt8)) : TreeStorage :=
  ⟨config files, fileKeyOf (encodingBlob files), contentKey (rootBlob files), PayloadDecoder.raw,
    .unparsed, .unparsed, .unparsed, []⟩

theorem ofConfig_run (files : List (String × List UInt8)) :
    (Storage.ofConfig (config files) PayloadDecoder.raw : StateM Disk.Tree _).run (tree files) =
      (.ok (opened files), tree files) := by
  have encodingKey : (config files).encodingKey? = .ok (fileKeyOf (encodingBlob files)) :=
    StorageConfig.parseKey_hex _ _
  have rootChecksum : (config files).rootChecksum? = .ok (contentKey (rootBlob files)) :=
    StorageConfig.parseKey_hex _ _
  simp [Storage.ofConfig, encodingKey, rootChecksum, DiskAccess.kindOf, dataPath_config, kindOf_data]
  rfl

/-- Storage ready for lookups on the installation: sound, opened with its configuration, and with
the three tables built. -/
structure Ready (files : List (String × List UInt8)) (s : TreeStorage) : Prop where
  sound : s.Sound (tree files)
  config_eq : s.config = config files
  built : Storage.Built s (indexStore files) (encodingTable files) (rootTable files)

/-- Initialising builds the index, then the encoding table through the index, then the root table
through both, and leaves the storage ready. -/
theorem initialise_ready (distinct : Distinct files) (used : KeysUsed files) (fits : Fits files) :
    ∃ s, Runs (tree files) Storage.initialise (opened files) (.ok ()) s ∧ Ready files s := by
  have indexed := Storage.index_loaded (t := tree files) (s := opened files) rfl (by
    show (IndexStore.loadDir (config files).dataPath 32 : StateM Disk.Tree _).run (tree files) = _
    rw [dataPath_config, loadDir_run used fits])
  have encodingStored : encodingBlob files ∈ payloads files :=
    List.mem_append_right _ (List.mem_cons_of_mem _ List.mem_cons_self)
  obtain ⟨entry, found, points⟩ := lookup_indexStore fits distinct encodingStored
  obtain ⟨shards, encoded, sound₁⟩ := Storage.encoding_loaded (E := encodingTable files)
    (s := { opened files with indexCell := .parsed (indexStore files) }) ⟨rfl, fun _ kept => by cases kept⟩
    rfl rfl found
    points (parse_encodingBlob files)
  have rootStored : rootBlob files ∈ payloads files :=
    List.mem_append_right _ List.mem_cons_self
  obtain ⟨entry', found', points'⟩ := lookup_indexStore fits distinct rootStored
  obtain ⟨shards', rooted, sound₂⟩ := Storage.root_loaded (R := rootTable files)
    (s := { opened files with
      indexCell := .parsed (indexStore files), shards := shards,
      encodingCell := .parsed (encodingTable files) }) ⟨sound₁.decoder_eq, sound₁.handles⟩ rfl rfl
    rfl (fileKey?_encodingTable distinct (List.mem_append_right _ List.mem_cons_self)) found'
    points' (parse_rootBlob files)
  refine ⟨{ opened files with
      indexCell := .parsed (indexStore files), shards := shards',
      encodingCell := .parsed (encodingTable files), rootCell := .parsed (rootTable files) }, ?_,
    ⟨sound₂.decoder_eq, sound₂.handles⟩, rfl, rfl, rfl, rfl⟩
  unfold Storage.initialise
  exact Runs.bind indexed (Runs.bind encoded (Runs.bind rooted (Runs.pure _ _)))

/-! ### Lookups in ready storage -/

theorem Ready.withShards {s : TreeStorage} {shards : List ShardHandle} (ready : Ready files s)
    (sound : ({ s with shards := shards } : TreeStorage).Sound (tree files)) :
    Ready files { s with shards := shards } :=
  ⟨sound, ready.config_eq, ⟨ready.built.index_eq, ready.built.encoding_eq, ready.built.root_eq⟩⟩

omit [ContentDigest] in
theorem head?_named (nameHash : UInt64) :
    (named files nameHash).head? = files.find? fun file => AssetPath.filenameHash file.1 == nameHash :=
  List.head?_filter

/-- A path resolves to the contents of the first file whose path has its filename hash, or to
nothing when none has it, and the storage stays ready. -/
theorem resolve_ready (fits : Fits files) (distinct : Distinct files) {s : TreeStorage}
    (ready : Ready files s) {path : String} (nonempty : path ≠ "") :
    ∃ s', Runs (tree files) (Storage.resolve path) s
      (.ok ((files.find? fun file => AssetPath.filenameHash file.1 == AssetPath.filenameHash path).map
        fun file => SegmentedStream.ofSegments [Segment.whole file.2])) s' ∧ Ready files s' := by
  rw [Storage.resolve_eq path nonempty, ← head?_named]
  cases first : named files (AssetPath.filenameHash path) with
  | nil => exact ⟨s, Storage.resolveHash_missing ready.built (locate_missing first), ready⟩
  | cons file rest =>
    obtain ⟨entry, found, points⟩ := locate_found fits distinct first
    obtain ⟨shards, ran, sound⟩ :=
      Storage.resolveHash_found ready.sound ready.built found (ready.config_eq ▸ points)
    exact ⟨_, ran, ready.withShards sound⟩

theorem read_ready (fits : Fits files) (distinct : Distinct files) {s : TreeStorage}
    (ready : Ready files s) {path : String} (nonempty : path ≠ "") :
    ∃ s', Runs (tree files) (Storage.read path) s
      (.ok ((files.find? fun file => AssetPath.filenameHash file.1 == AssetPath.filenameHash path).map
        (·.2))) s' ∧ Ready files s' := by
  rw [← head?_named]
  cases first : named files (AssetPath.filenameHash path) with
  | nil => exact ⟨s, Storage.read_missing ready.built nonempty (locate_missing first), ready⟩
  | cons file rest =>
    obtain ⟨entry, found, points⟩ := locate_found fits distinct first
    obtain ⟨shards, ran, sound⟩ :=
      Storage.read_found ready.sound ready.built nonempty found (ready.config_eq ▸ points)
    exact ⟨_, ran, ready.withShards sound⟩

/-- Ready storage counts a root record per file and the distinct filename hashes of their paths,
and one index file. -/
theorem stats_ready {s : TreeStorage} (ready : Ready files s) :
    s.stats.rootEntries = some files.length ∧
      s.stats.rootHashes = some (files.map (AssetPath.filenameHash ·.1)).toFinset.card ∧
      s.stats.indexFiles = some 1 := by
  have hashes : (rootTable files).hashes.length =
      (files.map (AssetPath.filenameHash ·.1)).toFinset.card := by
    rw [rootTable, (RootTable.consistent_ofEntries _).length_hashes, RootTable.entries_ofEntries,
      List.map_map]
    rfl
  simp only [Storage.stats, ready.built.root_eq, ready.built.index_eq, OnceCell.get?,
    Option.map_some, RootTable.size, hashes]
  simp [rootTable, indexStore]

end Storage

/-! ### The installation reads back -/

section ReadsBack

variable {files : List (String × List UInt8)}

theorem distinct_of_nodup (nodup : ((payloads files).map fun p => (fileKey p).take 9).Nodup) :
    Distinct files :=
  fun _ hp _ hq same => List.inj_on_of_nodup_map nodup hp hq same

theorem keysUsed_of_keys (keys : ∀ k ∈ (payloads files).map (fun p => (fileKey p).take 9),
    k ≠ List.replicate 9 0) : KeysUsed files :=
  fun _ stored => keys _ (List.mem_map_of_mem stored)

/-- An installation written from files opens with its configuration, and initialising it builds
its three tables. From then on, and after any number of lookups, the storage counts a root record
per file and the distinct filename hashes of their paths, and every non-empty path resolves, and
reads, to the contents of the first file whose path has its filename hash, or to nothing when no
file's path has it. Nothing is assumed of the hash but that no two stored payloads share the
first nine bytes of their file keys and that none of those is all zero, and of the sizes only that
both shards stay below `2 ^ 30` bytes. -/
theorem installation_reads_back (files : List (String × List UInt8)) (distinct : Distinct files)
    (used : KeysUsed files) (fits : Fits files) :
    (Storage.ofConfig (config files) PayloadDecoder.raw : StateM Disk.Tree _).run (tree files) =
      (.ok (opened files), tree files) ∧
    (∃ s, Runs (tree files) Storage.initialise (opened files) (.ok ()) s ∧ Ready files s) ∧
    ∀ s, Ready files s →
      s.stats.rootEntries = some files.length ∧
      s.stats.rootHashes = some (files.map (AssetPath.filenameHash ·.1)).toFinset.card ∧
      ∀ path, path ≠ "" →
        (∃ s', Runs (tree files) (Storage.resolve path) s
          (.ok ((files.find? fun file => AssetPath.filenameHash file.1 ==
            AssetPath.filenameHash path).map fun file =>
              SegmentedStream.ofSegments [Segment.whole file.2])) s' ∧ Ready files s') ∧
        ∃ s', Runs (tree files) (Storage.read path) s
          (.ok ((files.find? fun file => AssetPath.filenameHash file.1 ==
            AssetPath.filenameHash path).map (·.2))) s' ∧ Ready files s' := by
  refine ⟨ofConfig_run files, initialise_ready distinct used fits, fun s ready => ?_⟩
  obtain ⟨entries, hashes, -⟩ := stats_ready ready
  exact ⟨entries, hashes, fun path nonempty =>
    ⟨resolve_ready fits distinct ready nonempty, read_ready fits distinct ready nonempty⟩⟩

end ReadsBack

end AnyDigest

/-! ### One file, with MD5 -/

/-- MD5, the digest of the store's own writer. -/
instance md5 : ContentDigest := ⟨Hash.Md5.digest, Hash.Md5.length_digest⟩

/-- One file of two bytes. -/
def oneFile : List (String × List UInt8) := [("a.txt", [104, 105])]

theorem keys_oneFile : (payloads oneFile).map (fun p => (fileKey p).take 9) =
    [[59, 252, 33, 28, 130, 137, 244, 11, 44], [198, 81, 30, 121, 58, 34, 89, 247, 5],
      [222, 138, 91, 188, 95, 36, 143, 4, 170]] := by
  decide +kernel

theorem installation_reads_back_oneFile :
    Distinct oneFile ∧ KeysUsed oneFile ∧ Fits oneFile ∧
      ∃ s, Runs (tree oneFile) Storage.initialise (opened oneFile) (.ok ()) s ∧
        ∃ s', Runs (tree oneFile) (Storage.read "a.txt") s (.ok (some [104, 105])) s' := by
  have distinct : Distinct oneFile := distinct_of_nodup (by rw [keys_oneFile]; decide)
  have used : KeysUsed oneFile := keysUsed_of_keys (by rw [keys_oneFile]; decide)
  have fits : Fits oneFile := by
    constructor <;> decide +kernel
  obtain ⟨-, ⟨s, initialised, ready⟩, lookups⟩ :=
    installation_reads_back oneFile distinct used fits
  obtain ⟨s', read, -⟩ := ((lookups s ready).2.2 "a.txt" (by decide)).2
  have found : (oneFile.find? fun file => AssetPath.filenameHash file.1 ==
      AssetPath.filenameHash "a.txt").map (·.2) = some [104, 105] := by
    decide +kernel
  rw [found] at read
  exact ⟨distinct, used, fits, s, initialised, s', read⟩

end AssetStore.Installation
