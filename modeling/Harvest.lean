import Harvest.Assoc
import Harvest.Call
import Harvest.Catalog.Basic
import Harvest.Catalog.Entry
import Harvest.Catalog.Read
import Harvest.Catalog.Render
import Harvest.ClassRecord
import Harvest.CommandLine
import Harvest.Create.Arguments
import Harvest.Create.Run
import Harvest.Extractor
import Harvest.Failure
import Harvest.Files.Change
import Harvest.Files.Path
import Harvest.Files.Search
import Harvest.Files.Tree
import Harvest.Keyword
import Harvest.Lint
import Harvest.Main
import Harvest.Message
import Harvest.Message.Format
import Harvest.Message.Remark
import Harvest.Moment
import Harvest.Options
import Harvest.Plugin
import Harvest.Proofs.Announcements
import Harvest.Proofs.Announcing
import Harvest.Proofs.Assoc
import Harvest.Proofs.Catalog.Charset
import Harvest.Proofs.Catalog.Comments
import Harvest.Proofs.Catalog.Compare
import Harvest.Proofs.Catalog.EntryReading
import Harvest.Proofs.Catalog.Fields
import Harvest.Proofs.Catalog.LineReading
import Harvest.Proofs.Catalog.Merge
import Harvest.Proofs.Catalog.Occurrences
import Harvest.Proofs.Catalog.PlaceOrder
import Harvest.Proofs.Catalog.Plurals
import Harvest.Proofs.Catalog.Recognition
import Harvest.Proofs.Catalog.Rereading
import Harvest.Proofs.Conversions
import Harvest.Proofs.Create.Delivery
import Harvest.Proofs.Create.Replacement
import Harvest.Proofs.Create.Rerun
import Harvest.Proofs.Distinct
import Harvest.Proofs.ElementDomains
import Harvest.Proofs.EmptyTexts
import Harvest.Proofs.Files.Search
import Harvest.Proofs.Files.Writing
import Harvest.Proofs.History
import Harvest.Proofs.Jobs
import Harvest.Proofs.KeywordSpecs
import Harvest.Proofs.Keywords
import Harvest.Proofs.Lint
import Harvest.Proofs.Outcomes
import Harvest.Proofs.PluginCalls
import Harvest.Proofs.Registry
import Harvest.Proofs.Remarks
import Harvest.Proofs.Source.ArgumentGrammar
import Harvest.Proofs.Source.BracketDepth
import Harvest.Proofs.Source.Breaks
import Harvest.Proofs.Source.ByteLines
import Harvest.Proofs.Source.CallSites
import Harvest.Proofs.Source.CommentBlocks
import Harvest.Proofs.Source.CommentPolicies
import Harvest.Proofs.Source.Displaced
import Harvest.Proofs.Source.Domains
import Harvest.Proofs.Source.LineOffset
import Harvest.Proofs.Source.LiteralValues
import Harvest.Proofs.Source.Lookahead
import Harvest.Proofs.Source.MessageOrder
import Harvest.Proofs.Source.MovedTokens
import Harvest.Proofs.Source.NumberLength
import Harvest.Proofs.Source.Quoting
import Harvest.Proofs.Source.ReaderRuns
import Harvest.Proofs.Source.ReaderSteps
import Harvest.Proofs.Source.Refusals
import Harvest.Proofs.Source.RowOrder
import Harvest.Proofs.Source.ScannedSymbols
import Harvest.Proofs.Source.Statements
import Harvest.Proofs.Source.StrayBrace
import Harvest.Proofs.Source.StringEnds
import Harvest.Proofs.Source.Succession
import Harvest.Proofs.Source.SymbolLexemes
import Harvest.Proofs.Source.SymbolOrder
import Harvest.Proofs.Source.SymbolTokens
import Harvest.Proofs.Template.Alternatives
import Harvest.Proofs.Template.CodeLines
import Harvest.Proofs.Template.CodePaths
import Harvest.Proofs.Template.CodeSites
import Harvest.Proofs.Template.Comments
import Harvest.Proofs.Template.Domains
import Harvest.Proofs.Template.Growth
import Harvest.Proofs.Template.HandedCode
import Harvest.Proofs.Template.Interpolations
import Harvest.Proofs.Template.Messages
import Harvest.Proofs.Template.Neighbours
import Harvest.Proofs.Template.OwnText
import Harvest.Proofs.Template.Passage
import Harvest.Proofs.Template.Reading
import Harvest.Proofs.Template.Respacing
import Harvest.Proofs.Template.Steps
import Harvest.Proofs.Template.Success
import Harvest.Proofs.Template.Survey
import Harvest.Proofs.Template.Visit
import Harvest.Proofs.Template.Written
import Harvest.Proofs.Text.Decimal
import Harvest.Proofs.Text.Fill
import Harvest.Proofs.Text.Lines
import Harvest.Proofs.Text.Utf8
import Harvest.Proofs.Text.Words
import Harvest.Registry
import Harvest.Session
import Harvest.Settings.Basic
import Harvest.Settings.Read
import Harvest.Settings.Value
import Harvest.Source.Constant
import Harvest.Source.Expression
import Harvest.Source.Extract
import Harvest.Source.Formatted
import Harvest.Source.Grammar
import Harvest.Source.Lexeme
import Harvest.Source.Literal
import Harvest.Source.Reader
import Harvest.Source.Scan
import Harvest.Source.Stream
import Harvest.Source.Symbol
import Harvest.Source.Token
import Harvest.Template.Code
import Harvest.Template.Define
import Harvest.Template.Engine
import Harvest.Template.Entity
import Harvest.Template.Extract
import Harvest.Template.Interpolation
import Harvest.Template.Node
import Harvest.Template.Passage
import Harvest.Template.PassageSet
import Harvest.Template.Piece
import Harvest.Template.Reference
import Harvest.Template.Tag
import Harvest.Template.Walk
import Harvest.Text.Basic
import Harvest.Text.Blank
import Harvest.Text.Cased
import Harvest.Text.CharacterName
import Harvest.Text.Codec
import Harvest.Text.Digit
import Harvest.Text.Fill
import Harvest.Text.Identifier
import Harvest.Text.Integer
import Harvest.Text.Line
import Harvest.Text.Lowercase
import Harvest.Text.NameTable
import Harvest.Text.Packed
import Harvest.Text.Printable
import Harvest.Text.Quoted
import Harvest.Text.Ranges
import Harvest.Text.Similar
import Harvest.Text.Utf8
import Harvest.Text.Word
import Harvest.Xml.Declaration
import Harvest.Xml.Doctype
import Harvest.Xml.Document
import Harvest.Xml.Encoding
import Harvest.Xml.Fault
import Harvest.Xml.Name
import Harvest.Xml.Scan
import Harvest.Xml.Value
import Harvest.Zcml
