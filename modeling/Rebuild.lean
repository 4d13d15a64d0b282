import Rebuild.Text.Split
import Rebuild.Text.Number
import Rebuild.Text.Utf16
import Rebuild.Text.Utf8
import Rebuild.Text.ModifiedUtf8
import Rebuild.Path
import Rebuild.ClassName
import Rebuild.Text.Unprintable
import Rebuild.Text.Quoted
import Rebuild.Text.Blank
import Rebuild.ClassFile.Error
import Rebuild.ClassFile.Descriptor
import Rebuild.ClassFile.Parser
import Rebuild.ClassFile.ConstantPool
import Rebuild.ClassFile.Annotations
import Rebuild.ClassFile.Attributes
import Rebuild.ClassFile.Basic
import Rebuild.Toml.Document
import Rebuild.Toml.Table
import Rebuild.Toml.Scalar
import Rebuild.Toml.Text
import Rebuild.Text.Scan
import Rebuild.Toml.Value
import Rebuild.Text.Binary64
import Rebuild.Archive.EntryName
import Rebuild.Analysis.Verdict
import Rebuild.Analysis.Options
import Rebuild.Analysis.Baseline
import Rebuild.Classpath.ResourceSet
import Rebuild.Config.Problem
import Rebuild.Config.Basic
import Rebuild.Log.Level
import Rebuild.Text.Alphanumeric
import Rebuild.Text.Alphabetic
import Rebuild.Pattern.CharClass
import Rebuild.Pattern.Basic
import Rebuild.Pattern.Reader
import Rebuild.Log.Field
import Rebuild.Log.Directive
import Rebuild.Log.Filter
import Rebuild.FileSystem
import Rebuild.Zip.Bytes
import Rebuild.Zip.CodePage
import Rebuild.Zip.Checksum
import Rebuild.Zip.Inflate
import Rebuild.Zip.Fault
import Rebuild.Zip.Entry
import Rebuild.Zip.Directory
import Rebuild.Zip.EndRecord
import Rebuild.Zip.Archive
import Rebuild.Log.Event
import Rebuild.Inquiry
import Rebuild.Archive.Member
import Rebuild.Archive.Jar
import Rebuild.Archive.Access
import Rebuild.Classpath.Error
import Rebuild.Classpath.Context
import Rebuild.Analysis.Error
import Rebuild.Analysis.Comparator
import Rebuild.Analysis.ArchiveUnit
import Rebuild.Analysis.Classpath
import Rebuild.Analysis.Observed
import Rebuild.Config.Discovery
import Rebuild.Json
import Rebuild.Log.Line
import Rebuild.Log.Setup
import Rebuild.Command.Arguments
import Rebuild.Command.Report
import Rebuild.Command.Run
import Rebuild.Log.Timestamp
import Rebuild.Command.Footprint
import Rebuild.Main
import Rebuild.Proofs.ClassLookup
import Rebuild.Proofs.Evaluation
import Rebuild.Proofs.ChangedMembers
import Rebuild.Proofs.OpenJar
import Rebuild.Proofs.ClassSearch
import Rebuild.Proofs.Scan
import Rebuild.Proofs.SteadyAnswers
import Rebuild.Proofs.Panics
import Rebuild.Proofs.ExitCode
import Rebuild.Proofs.Descriptors
import Rebuild.Proofs.JavaText
import Rebuild.Proofs.WrittenClass
import Rebuild.Proofs.Parses
import Rebuild.Proofs.PoolReadsBack
import Rebuild.Proofs.AnnotationsReadBack
import Rebuild.Proofs.UnpairedTexts
import Rebuild.Proofs.ClassReadsBack
import Rebuild.Proofs.RememberedVerdict
import Rebuild.Proofs.ClasspathReports
import Rebuild.Proofs.LoadHistory
import Rebuild.Proofs.QuietLog
import Rebuild.Proofs.QuietAnalysis
import Rebuild.Proofs.Failures
import Rebuild.Proofs.CommandsAgree
import Rebuild.Proofs.SelfDelimiting
import Rebuild.Proofs.DescriptorForms
import Rebuild.Proofs.ReaderJournal
import Rebuild.Proofs.NestingLimit
import Rebuild.Proofs.PathSpellings
import Rebuild.Proofs.TextGroups
import Rebuild.Proofs.IdleEntries
import Rebuild.Proofs.DifferingFiles
import Rebuild.Proofs.VerdictInputs
import Rebuild.Proofs.PathSegments
import Rebuild.Proofs.SnapshotNames
import Rebuild.Proofs.FoundAgain
import Rebuild.Proofs.TypedMembers
import Rebuild.Proofs.BelowDirectory
import Rebuild.Proofs.DirectoryReads
import Rebuild.Proofs.LoadedClasses
import Rebuild.Proofs.MergedFilters
import Rebuild.Proofs.PoolLayout
import Rebuild.Proofs.TomlTrees
import Rebuild.Proofs.StrictConfiguration
import Rebuild.Proofs.Enumeration
