import MailMerge.Archive.Basic
import MailMerge.Archive.BitStream
import MailMerge.Archive.BlockSort
import MailMerge.Archive.Branch
import MailMerge.Archive.Chunks
import MailMerge.Archive.Crc32
import MailMerge.Archive.Deflate
import MailMerge.Archive.Directory
import MailMerge.Archive.Header
import MailMerge.Archive.Huffman
import MailMerge.Archive.LittleEndian
import MailMerge.Archive.Lzma
import MailMerge.Archive.Packing
import MailMerge.Archive.Prediction.Context
import MailMerge.Archive.Prediction.Decoder
import MailMerge.Archive.Prediction.Heap
import MailMerge.Archive.Prediction.Learning
import MailMerge.Archive.Prediction.Model
import MailMerge.Archive.RangeCode
import MailMerge.Archive.Reader
import MailMerge.Archive.Writer
import MailMerge.Archive.Xz
import MailMerge.Archive.Zstandard.Checksum
import MailMerge.Archive.Zstandard.Frame
import MailMerge.Archive.Zstandard.Literals
import MailMerge.Archive.Zstandard.Sequences
import MailMerge.Archive.Zstandard.StateTable
import MailMerge.Artifact
import MailMerge.Batch
import MailMerge.Bundle
import MailMerge.CommandLine.Arguments
import MailMerge.CommandLine.Invocation
import MailMerge.CommandLine.Run
import MailMerge.Converter
import MailMerge.Delivery
import MailMerge.Digest
import MailMerge.Document
import MailMerge.Engine
import MailMerge.Error
import MailMerge.Extractor
import MailMerge.Fields
import MailMerge.Files.Path
import MailMerge.Files.Program
import MailMerge.Files.Tree
import MailMerge.Json.Printer
import MailMerge.Json.Tree
import MailMerge.Json.Value
import MailMerge.Layout
import MailMerge.Main
import MailMerge.Markup.Attribute
import MailMerge.Markup.Escape
import MailMerge.Markup.Event
import MailMerge.Markup.Part
import MailMerge.Naming
import MailMerge.Normal
import MailMerge.Number.Binary64
import MailMerge.Number.Reading
import MailMerge.Number.Shortest
import MailMerge.Office
import MailMerge.Pool
import MailMerge.Proofs.ArchiveRecords
import MailMerge.Proofs.ArchiveRoundTrip
import MailMerge.Proofs.BatchDelivery
import MailMerge.Proofs.BatchNames
import MailMerge.Proofs.BatchOrder
import MailMerge.Proofs.BoundedNumbering
import MailMerge.Proofs.BundleRoundTrip
import MailMerge.Proofs.CoercedValues
import MailMerge.Proofs.CommandFiles
import MailMerge.Proofs.CommandRuns
import MailMerge.Proofs.CompletionOrder
import MailMerge.Proofs.ConcurrentPrograms
import MailMerge.Proofs.ConcurrentUploads
import MailMerge.Proofs.ConvertedDocuments
import MailMerge.Proofs.DeliveredFiles
import MailMerge.Proofs.DocumentRoundTrip
import MailMerge.Proofs.DocumentTemplates
import MailMerge.Proofs.ElementSpelling
import MailMerge.Proofs.EscapedText
import MailMerge.Proofs.ExtractionFaults
import MailMerge.Proofs.FailingSteps
import MailMerge.Proofs.FailureKinds
import MailMerge.Proofs.FieldLookup
import MailMerge.Proofs.FileNames
import MailMerge.Proofs.FileReplacing
import MailMerge.Proofs.FileTrees
import MailMerge.Proofs.FlowPaths
import MailMerge.Proofs.FolderMaking
import MailMerge.Proofs.GivenValues
import MailMerge.Proofs.HeldFiles
import MailMerge.Proofs.IndependentRows
import MailMerge.Proofs.JsonGrammar
import MailMerge.Proofs.JsonPrinting
import MailMerge.Proofs.JsonSpellings
import MailMerge.Proofs.JsonStrings
import MailMerge.Proofs.JsonTrees
import MailMerge.Proofs.LenientText
import MailMerge.Proofs.ListedTemplates
import MailMerge.Proofs.NameAllocation
import MailMerge.Proofs.NestedRuns
import MailMerge.Proofs.NormalFilling
import MailMerge.Proofs.NormalText
import MailMerge.Proofs.PackingSteps
import MailMerge.Proofs.QuotedTables
import MailMerge.Proofs.RecordTexts
import MailMerge.Proofs.RequestEndings
import MailMerge.Proofs.RequestFiles
import MailMerge.Proofs.RequestHistories
import MailMerge.Proofs.RequestRuns
import MailMerge.Proofs.RunSplitting
import MailMerge.Proofs.ScratchFolders
import MailMerge.Proofs.Seams
import MailMerge.Proofs.SettingsFiles
import MailMerge.Proofs.SettingsTexts
import MailMerge.Proofs.StagedFilling
import MailMerge.Proofs.StoppedRemovals
import MailMerge.Proofs.StoreBorders
import MailMerge.Proofs.StoreHistories
import MailMerge.Proofs.StoreLookups
import MailMerge.Proofs.StoreWrites
import MailMerge.Proofs.StoredBlocks
import MailMerge.Proofs.StoredFiles
import MailMerge.Proofs.StoredTemplates
import MailMerge.Proofs.TableRecords
import MailMerge.Proofs.TemplateFiles
import MailMerge.Proofs.TemplateFilling
import MailMerge.Proofs.TemplateLayouts
import MailMerge.Proofs.TextCuts
import MailMerge.Proofs.TokenPlaces
import MailMerge.Proofs.TokenReading
import MailMerge.Proofs.UndoneStoring
import MailMerge.Proofs.UnfilledNames
import MailMerge.Proofs.UploadPhases
import MailMerge.Proofs.WellFormedDocuments
import MailMerge.Proofs.WrittenTags
import MailMerge.Record
import MailMerge.Renderer
import MailMerge.Script.Builtin
import MailMerge.Script.Catalogue
import MailMerge.Script.Command
import MailMerge.Script.Expansion
import MailMerge.Script.Formula
import MailMerge.Script.Host
import MailMerge.Script.Octets
import MailMerge.Script.Pattern
import MailMerge.Script.Reading
import MailMerge.Script.Regular
import MailMerge.Script.Run
import MailMerge.Script.Source
import MailMerge.Script.State
import MailMerge.Script.Utility.Basic
import MailMerge.Script.Utility.Blocks
import MailMerge.Script.Utility.Calling
import MailMerge.Script.Utility.Characters
import MailMerge.Script.Utility.Columns
import MailMerge.Script.Utility.Condition
import MailMerge.Script.Utility.Counting
import MailMerge.Script.Utility.Difference
import MailMerge.Script.Utility.Dump
import MailMerge.Script.Utility.Edit
import MailMerge.Script.Utility.Folders
import MailMerge.Script.Utility.Lines
import MailMerge.Script.Utility.Ordering
import MailMerge.Script.Utility.Printing
import MailMerge.Script.Utility.Search
import MailMerge.Script.Utility.Surroundings
import MailMerge.Settings
import MailMerge.Settings.File
import MailMerge.Sheet.Cell
import MailMerge.Sheet.Csv
import MailMerge.Sheet.OpenDocument
import MailMerge.Sheet.Strings
import MailMerge.Sheet.Styles
import MailMerge.Sheet.Workbook
import MailMerge.Sheet.Worksheet
import MailMerge.Stage
import MailMerge.Store
import MailMerge.Table
import MailMerge.Text.Blank
import MailMerge.Text.CharacterSet.Basic
import MailMerge.Text.CharacterSet.Big5
import MailMerge.Text.CharacterSet.GuoBiao
import MailMerge.Text.CharacterSet.Jis
import MailMerge.Text.CharacterSet.JisSupplement
import MailMerge.Text.CharacterSet.Wansung
import MailMerge.Text.CodePage
import MailMerge.Text.Encoding
import MailMerge.Text.MultiByte
import MailMerge.Text.Split
import MailMerge.Text.Utf8
import MailMerge.Token
