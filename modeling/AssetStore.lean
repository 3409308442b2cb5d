import AssetStore.Prelude
import AssetStore.Hash.Lookup3
import AssetStore.Hash.Md5
import AssetStore.Text.Hex
import AssetStore.Text.Printable
import AssetStore.Text.GraphemeExtend
import AssetStore.Text.Escape
import AssetStore.Text.Blank
import AssetStore.Text.Utf8
import AssetStore.Error
import AssetStore.Key
import AssetStore.Disk.Path
import AssetStore.AssetPath
import AssetStore.Layout
import AssetStore.Index.Latest
import AssetStore.Bytes
import AssetStore.Table.Encoding
import AssetStore.Table.Root
import AssetStore.Index.Entry
import AssetStore.Index.File
import AssetStore.Index.Store
import AssetStore.Disk.Access
import AssetStore.Disk.Tree
import AssetStore.Locate
import AssetStore.Stream.Basic
import AssetStore.Stream.Cursor
import AssetStore.Stream.Segmented
import AssetStore.Shard.Header
import AssetStore.OnceCell
import AssetStore.Binary64.Basic
import AssetStore.Binary64.Shortest
import AssetStore.Json.Fault
import AssetStore.Json.Scan
import AssetStore.Json.Record
import AssetStore.Config
import AssetStore.Shard.Handle
import AssetStore.Storage
import AssetStore.CommandLine.Grammar
import AssetStore.CommandLine.Similarity
import AssetStore.CommandLine.Usage
import AssetStore.CommandLine.Fault
import AssetStore.CommandLine.Parse
import AssetStore.Tool.Interface
import AssetStore.Tool.Run
import AssetStore.Main
import AssetStore.Proofs.Bytes
import AssetStore.Proofs.IndexFile
import AssetStore.Proofs.FirstByKey
import AssetStore.Proofs.IndexStore
import AssetStore.Proofs.EncodingTable
import AssetStore.Proofs.KeyText
import AssetStore.Proofs.ShardRead
import AssetStore.Proofs.StorageRead
import AssetStore.Proofs.RootTable
import AssetStore.Proofs.Installation
import AssetStore.Proofs.SegmentedRead
import AssetStore.Proofs.Observed
import AssetStore.Proofs.LazyTables
import AssetStore.Proofs.FixedFiles
import AssetStore.Proofs.CacheTransparency
import AssetStore.Proofs.LookupChain
import AssetStore.Proofs.EncodingWellFormed
import AssetStore.Proofs.IndexOrder
import AssetStore.Proofs.LatestSelection
import AssetStore.Proofs.BuiltOnce
import AssetStore.Proofs.BlockChecks
import AssetStore.Proofs.IndexBounds
import AssetStore.Proofs.ArgumentRefusals
import AssetStore.Proofs.AsciiText
import AssetStore.Proofs.PathSpellings
import AssetStore.Proofs.FileNames
import AssetStore.Proofs.IndexFileName
import AssetStore.Proofs.CursorReads
import AssetStore.Proofs.Lookup3Reference
import AssetStore.Proofs.Lookup3LongInputs
