import TextTemplate.Engine.Description
import TextTemplate.Formatter.Stock
import TextTemplate.Proofs.Reading
import TextTemplate.Report
import TextTemplate.Settings.Document
import TextTemplate.Source.Stock
import TextTemplate.Value.Json
import TextTemplate.Proofs.LookAhead
import TextTemplate.Proofs.Printing
import TextTemplate.Proofs.Numerals
import TextTemplate.Proofs.Decoding
import TextTemplate.Proofs.Spans
import TextTemplate.Proofs.ErrorActions
import TextTemplate.Proofs.Cache
import TextTemplate.Proofs.Braces
import TextTemplate.Proofs.RootSearch
import TextTemplate.Proofs.ErrorOrigin
import TextTemplate.Proofs.Depth
import TextTemplate.Proofs.ChainedPaths
import TextTemplate.Proofs.Chaining
import TextTemplate.Proofs.Evidence
import TextTemplate.Proofs.LiteralTemplates
import TextTemplate.Proofs.Places
import TextTemplate.Proofs.Concatenation
import TextTemplate.Proofs.Insertion
import TextTemplate.Proofs.NumericNames
import TextTemplate.Proofs.Shapes
import TextTemplate.Proofs.RenderingShapes
import TextTemplate.Proofs.CacheContents
import TextTemplate.Proofs.DoubledBraces
import TextTemplate.Proofs.NodeByNode
import TextTemplate.Proofs.LetterCase
import TextTemplate.Proofs.Correspondence
import TextTemplate.Proofs.RenderingLetterCase
import TextTemplate.Proofs.ExtraArguments
import TextTemplate.Proofs.EscapeModes
import TextTemplate.Proofs.MaintainedTokens
import TextTemplate.Proofs.Declining
import TextTemplate.Proofs.ExactNames
import TextTemplate.Proofs.ScanningBraces
import TextTemplate.Proofs.SourceChains
import TextTemplate.Proofs.UnregisteredHeads
import TextTemplate.Proofs.Lines
import TextTemplate.Proofs.ReportHeaders
import TextTemplate.Proofs.FixedDecimals
import TextTemplate.Proofs.IntegerStyles
import TextTemplate.Proofs.ListIndexes
import TextTemplate.Proofs.EscapedColons
import TextTemplate.Proofs.DocumentPaths
import TextTemplate.Proofs.Widths
import TextTemplate.Proofs.IntegerSegments
import TextTemplate.Proofs.Lexing
import TextTemplate.Proofs.TokenReader
import TextTemplate.Proofs.TokenPlaces
import TextTemplate.Proofs.TokenReading
