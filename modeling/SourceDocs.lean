import SourceDocs.Classification
import SourceDocs.Command.Arguments
import SourceDocs.Command.Basic
import SourceDocs.Command.Outcome
import SourceDocs.Command.Reference
import SourceDocs.Command.Run
import SourceDocs.Command.Usage
import SourceDocs.Corpus.Basic
import SourceDocs.Corpus.Indexed
import SourceDocs.Corpus.Inventory
import SourceDocs.Corpus.InventoryReport
import SourceDocs.Corpus.Store
import SourceDocs.Declaration.Basic
import SourceDocs.Declaration.Brackets
import SourceDocs.Declaration.Calls
import SourceDocs.Declaration.Extraction
import SourceDocs.Declaration.Lists
import SourceDocs.Declaration.Report
import SourceDocs.Declaration.Signature
import SourceDocs.DocPath
import SourceDocs.Failure.Basic
import SourceDocs.Failure.Diagnostic
import SourceDocs.Files.Access
import SourceDocs.Files.FilePath
import SourceDocs.Files.Folder
import SourceDocs.Glob
import SourceDocs.Json
import SourceDocs.LinkRepair.Documents
import SourceDocs.LinkRepair.Lookup
import SourceDocs.LinkRepair.Resolution
import SourceDocs.Main
import SourceDocs.Markdown.Fence
import SourceDocs.Markdown.Heading
import SourceDocs.Markdown.Link
import SourceDocs.Pattern.Basic
import SourceDocs.Pattern.Bracketed
import SourceDocs.Pattern.CharSet
import SourceDocs.Pattern.Escape
import SourceDocs.Pattern.Flags
import SourceDocs.Pattern.PropertyName
import SourceDocs.Pattern.Reader
import SourceDocs.PercentCode
import SourceDocs.Proofs.Command.RepairModes
import SourceDocs.Proofs.Corpus.FirstHeadings
import SourceDocs.Proofs.Corpus.Indexed
import SourceDocs.Proofs.Corpus.Insertions
import SourceDocs.Proofs.Corpus.Inventory
import SourceDocs.Proofs.Corpus.Loading
import SourceDocs.Proofs.Corpus.Lookup
import SourceDocs.Proofs.Corpus.Writing
import SourceDocs.Proofs.Declaration.BaseLists
import SourceDocs.Proofs.Declaration.Blocks
import SourceDocs.Proofs.Declaration.CallEdges
import SourceDocs.Proofs.Declaration.Drafts
import SourceDocs.Proofs.Declaration.FoundMembers
import SourceDocs.Proofs.Declaration.Headers
import SourceDocs.Proofs.Declaration.LineNumbers
import SourceDocs.Proofs.Declaration.ListParts
import SourceDocs.Proofs.Declaration.MatchingBraces
import SourceDocs.Proofs.Declaration.MemberHeads
import SourceDocs.Proofs.Declaration.MemberTypes
import SourceDocs.Proofs.Declaration.Members
import SourceDocs.Proofs.Declaration.NameLists
import SourceDocs.Proofs.Declaration.ParameterLists
import SourceDocs.Proofs.Declaration.PropertyNames
import SourceDocs.Proofs.Declaration.Rendering
import SourceDocs.Proofs.Declaration.TopLevelParts
import SourceDocs.Proofs.Files.Components
import SourceDocs.Proofs.Files.Entering
import SourceDocs.Proofs.Files.Folders
import SourceDocs.Proofs.Files.Following
import SourceDocs.Proofs.Files.Making
import SourceDocs.Proofs.Files.WalkOrder
import SourceDocs.Proofs.Files.Walks
import SourceDocs.Proofs.Files.Writing
import SourceDocs.Proofs.LinkRepair.Agreement
import SourceDocs.Proofs.LinkRepair.CodeHeadings
import SourceDocs.Proofs.LinkRepair.CorrectDocuments
import SourceDocs.Proofs.LinkRepair.DeadLinks
import SourceDocs.Proofs.LinkRepair.DocumentOrder
import SourceDocs.Proofs.LinkRepair.Edits
import SourceDocs.Proofs.LinkRepair.ExternalLinks
import SourceDocs.Proofs.LinkRepair.FencedCode
import SourceDocs.Proofs.LinkRepair.HeadingAnchors
import SourceDocs.Proofs.LinkRepair.Idempotence
import SourceDocs.Proofs.LinkRepair.LinkDestinations
import SourceDocs.Proofs.LinkRepair.LinkablePaths
import SourceDocs.Proofs.LinkRepair.Locality
import SourceDocs.Proofs.LinkRepair.ReplacementCalls
import SourceDocs.Proofs.LinkRepair.SettledTexts
import SourceDocs.Proofs.LinkRepair.Targets
import SourceDocs.Proofs.Markdown.FenceCount
import SourceDocs.Proofs.Markdown.FenceReplace
import SourceDocs.Proofs.Markdown.HeadingLines
import SourceDocs.Proofs.Markdown.HeadingPlaces
import SourceDocs.Proofs.Markdown.LinkStripping
import SourceDocs.Proofs.Markdown.LinkSyntax
import SourceDocs.Proofs.Markdown.SlugWords
import SourceDocs.Proofs.Markdown.Slugs
import SourceDocs.Proofs.Markdown.WrittenHeadings
import SourceDocs.Proofs.Paths.LinkRoundTrips
import SourceDocs.Proofs.Paths.NormalPaths
import SourceDocs.Proofs.Paths.PercentCodes
import SourceDocs.Proofs.Paths.RelativeLinks
import SourceDocs.Proofs.Paths.Segments
import SourceDocs.Proofs.Paths.ShortestLinks
import SourceDocs.Proofs.Selection
import SourceDocs.Proofs.SourceUrl.BlobUrls
import SourceDocs.Proofs.SourceUrl.ClickLines
import SourceDocs.Proofs.SourceUrl.ClickRepair
import SourceDocs.Proofs.SourceUrl.FilledMarks
import SourceDocs.Proofs.SourceUrl.FirstSightings
import SourceDocs.Proofs.SourceUrl.ForeignUrls
import SourceDocs.Proofs.SourceUrl.FormedMarks
import SourceDocs.Proofs.SourceUrl.Idempotence
import SourceDocs.Proofs.SourceUrl.IndexedPaths
import SourceDocs.Proofs.SourceUrl.KeptUrls
import SourceDocs.Proofs.SourceUrl.LineCounts
import SourceDocs.Proofs.SourceUrl.LineFragments
import SourceDocs.Proofs.SourceUrl.Readings
import SourceDocs.Proofs.SourceUrl.RebuiltUrls
import SourceDocs.Proofs.SourceUrl.RemovedUrls
import SourceDocs.Proofs.SourceUrl.ReplacedUrls
import SourceDocs.Proofs.SourceUrl.Rewriting
import SourceDocs.Proofs.SourceUrl.RewrittenLinks
import SourceDocs.Proofs.SourceUrl.SparedLines
import SourceDocs.Proofs.SourceUrl.StandInEnds
import SourceDocs.Proofs.SourceUrl.StandInRepair
import SourceDocs.Proofs.SourceUrl.StandIns
import SourceDocs.Proofs.SourceUrl.Templates
import SourceDocs.Proofs.SourceUrl.WebLinks
import SourceDocs.Proofs.Survey.FilteredTrees
import SourceDocs.Proofs.Text.Collecting
import SourceDocs.Proofs.Text.Cuts
import SourceDocs.Proofs.Text.LineEnds
import SourceDocs.Proofs.Text.Lines
import SourceDocs.Proofs.Text.MarkCuts
import SourceDocs.Proofs.Text.Numerals
import SourceDocs.Proofs.Text.OctetMarks
import SourceDocs.Proofs.Text.OctetOrder
import SourceDocs.Proofs.Text.Replacing
import SourceDocs.Proofs.Text.Sights
import SourceDocs.Proofs.Text.Stretches
import SourceDocs.Proofs.Text.WholeWords
import SourceDocs.Proofs.Text.Words
import SourceDocs.Settings.Basic
import SourceDocs.Settings.Fields
import SourceDocs.Settings.Tables
import SourceDocs.SourceUrl.Address
import SourceDocs.SourceUrl.Repair
import SourceDocs.SourceUrl.SourceIndex
import SourceDocs.SourceUrl.Template
import SourceDocs.Survey
import SourceDocs.Text.Basic
import SourceDocs.Text.CaseTable
import SourceDocs.Text.Category
import SourceDocs.Text.CategoryTable
import SourceDocs.Text.CharClass
import SourceDocs.Text.CharRange
import SourceDocs.Text.HexDigits
import SourceDocs.Text.LetterCase
import SourceDocs.Text.MarkTable
import SourceDocs.Text.Occurrence
import SourceDocs.Text.Octets
import SourceDocs.Text.ScriptTable
import SourceDocs.Toml.Document
import SourceDocs.Toml.Quoted
import SourceDocs.Toml.Scalar
import SourceDocs.Toml.Value
