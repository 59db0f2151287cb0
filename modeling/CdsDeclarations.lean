import CdsDeclarations.CommandLine.Invocation
import CdsDeclarations.CommandLine.Run
import CdsDeclarations.Csn.Document
import CdsDeclarations.Csn.Reader
import CdsDeclarations.Declaration.Basic
import CdsDeclarations.Declaration.BuiltinType
import CdsDeclarations.Declaration.StringLiteral
import CdsDeclarations.Failure
import CdsDeclarations.Files.Fault
import CdsDeclarations.Files.FileSystem
import CdsDeclarations.Files.FileTree
import CdsDeclarations.Files.Path
import CdsDeclarations.Generation.Conversion
import CdsDeclarations.Generation.FreeName
import CdsDeclarations.Generation.Output
import CdsDeclarations.Generation.SourceFile
import CdsDeclarations.Generation.Unit
import CdsDeclarations.Identifier
import CdsDeclarations.Json.Decoder
import CdsDeclarations.Json.Fault
import CdsDeclarations.Json.Node
import CdsDeclarations.Json.Numeral
import CdsDeclarations.Json.Record
import CdsDeclarations.Json.Skim
import CdsDeclarations.Json.TextLiteral
import CdsDeclarations.Json.Token
import CdsDeclarations.Log.Directive
import CdsDeclarations.Log.Event
import CdsDeclarations.Log.FieldValue
import CdsDeclarations.Log.Filter
import CdsDeclarations.Log.Line
import CdsDeclarations.Model.Element
import CdsDeclarations.Model.ScalarType
import CdsDeclarations.Model.Schema
import CdsDeclarations.Number.Basic
import CdsDeclarations.Number.Double
import CdsDeclarations.Number.Shortest
import CdsDeclarations.OrderedMap
import CdsDeclarations.Pattern.Basic
import CdsDeclarations.Pattern.Brackets
import CdsDeclarations.Pattern.Escape
import CdsDeclarations.Pattern.Options
import CdsDeclarations.Pattern.Reader
import CdsDeclarations.Pattern.Support
import CdsDeclarations.Rendering.Context
import CdsDeclarations.Rendering.Rendered
import CdsDeclarations.Rendering.ResolvedType
import CdsDeclarations.Rendering.Shape
import CdsDeclarations.Text.Alphabetic
import CdsDeclarations.Text.Blank
import CdsDeclarations.Text.Bytes
import CdsDeclarations.Text.CaseTables
import CdsDeclarations.Text.CharRanges
import CdsDeclarations.Text.Digits
import CdsDeclarations.Text.LetterCase
import CdsDeclarations.Text.Numeric
import CdsDeclarations.Text.Printable
import CdsDeclarations.Text.Quoted
import CdsDeclarations.Main
import CdsDeclarations.Proofs.FinalSigma
import CdsDeclarations.Proofs.FileNames
import CdsDeclarations.Proofs.Capitals
import CdsDeclarations.Proofs.InlineEnums
import CdsDeclarations.Proofs.References
import CdsDeclarations.Proofs.Units
import CdsDeclarations.Proofs.Imports
import CdsDeclarations.Proofs.Collisions
import CdsDeclarations.Proofs.ReferenceNames
import CdsDeclarations.Proofs.TextBlocks
import CdsDeclarations.Proofs.LineFeeds
import CdsDeclarations.Proofs.Layout
import CdsDeclarations.Proofs.Mentions
import CdsDeclarations.Proofs.Appending
import CdsDeclarations.Proofs.Undeclared
import CdsDeclarations.Proofs.OutputModes
import CdsDeclarations.Proofs.ImportLines
import CdsDeclarations.Proofs.JsonTokens
import CdsDeclarations.Proofs.AcceptedTrees
import CdsDeclarations.Proofs.MapEntries
import CdsDeclarations.Proofs.Nesting
import CdsDeclarations.Proofs.RelatedTrees
import CdsDeclarations.Proofs.Respelling
import CdsDeclarations.Proofs.UnknownMembers
import CdsDeclarations.Proofs.CapturedNames
import CdsDeclarations.Proofs.LegalNames
import CdsDeclarations.Proofs.SchemaMaps
import CdsDeclarations.Proofs.Confinement
import CdsDeclarations.Proofs.ArrayLevels
import CdsDeclarations.Proofs.EntityIndex
import CdsDeclarations.Proofs.Stems
import CdsDeclarations.Proofs.CollisionReports
import CdsDeclarations.Proofs.Sanitizing
import CdsDeclarations.Proofs.EnumLiterals
import CdsDeclarations.Proofs.NumberTexts
