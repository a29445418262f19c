import StyledMarkup.Command.Arguments
import StyledMarkup.Command.Run
import StyledMarkup.Command.Source
import StyledMarkup.Decimal.Double
import StyledMarkup.Decimal.Shortest
import StyledMarkup.Json.Number
import StyledMarkup.Json.Path
import StyledMarkup.Json.Printer
import StyledMarkup.Json.Reader
import StyledMarkup.Json.Value
import StyledMarkup.Lookup.Basic
import StyledMarkup.Lookup.Standard
import StyledMarkup.Lookup.Styled
import StyledMarkup.Lookup.Variables
import StyledMarkup.Main
import StyledMarkup.Markup.Call
import StyledMarkup.Markup.Mark
import StyledMarkup.Markup.Piece
import StyledMarkup.Markup.Scan
import StyledMarkup.Markup.Token
import StyledMarkup.Markup.Tokenizer
import StyledMarkup.Output.Component
import StyledMarkup.Output.Section
import StyledMarkup.Output.Terminal
import StyledMarkup.Proofs.Command.Agreement
import StyledMarkup.Proofs.Command.AllOrNothing
import StyledMarkup.Proofs.Command.Reading
import StyledMarkup.Proofs.Command.VariablesFile
import StyledMarkup.Proofs.Json.Following
import StyledMarkup.Proofs.Json.Recorded
import StyledMarkup.Proofs.Lookup.Contract
import StyledMarkup.Proofs.Lookup.Documents
import StyledMarkup.Proofs.Lookup.Effects
import StyledMarkup.Proofs.Lookup.Histories
import StyledMarkup.Proofs.Lookup.LastBinding
import StyledMarkup.Proofs.Lookup.Tables
import StyledMarkup.Proofs.Markup.CallPlaces
import StyledMarkup.Proofs.Markup.CallSpelling
import StyledMarkup.Proofs.Markup.Coverage
import StyledMarkup.Proofs.Markup.Handout
import StyledMarkup.Proofs.Markup.Matching
import StyledMarkup.Proofs.Markup.OnePass
import StyledMarkup.Proofs.Markup.Rescan
import StyledMarkup.Proofs.Markup.Rows
import StyledMarkup.Proofs.Markup.Seam
import StyledMarkup.Proofs.Markup.Shape
import StyledMarkup.Proofs.Markup.WellFormed
import StyledMarkup.Proofs.Markup.Written
import StyledMarkup.Proofs.Output.ComponentReader
import StyledMarkup.Proofs.Output.SectionReader
import StyledMarkup.Proofs.Output.TerminalReader
import StyledMarkup.Proofs.Style.Formats
import StyledMarkup.Proofs.Style.Hex
import StyledMarkup.Proofs.Style.Palette
import StyledMarkup.Proofs.Style.Spelling
import StyledMarkup.Proofs.Template.Answers
import StyledMarkup.Proofs.Template.Classification
import StyledMarkup.Proofs.Template.Cues
import StyledMarkup.Proofs.Template.InPlace
import StyledMarkup.Proofs.Template.Minimal
import StyledMarkup.Proofs.Template.Nesting
import StyledMarkup.Proofs.Template.Nodes
import StyledMarkup.Proofs.Template.PlainText
import StyledMarkup.Proofs.Template.Reading
import StyledMarkup.Proofs.Template.Renders
import StyledMarkup.Proofs.Template.Repetition
import StyledMarkup.Proofs.Template.Resolving
import StyledMarkup.Proofs.Template.Seam
import StyledMarkup.Proofs.Template.WrittenCall
import StyledMarkup.Proofs.Text.Count
import StyledMarkup.Style.Basic
import StyledMarkup.Style.Code
import StyledMarkup.Style.Color
import StyledMarkup.Style.Rgb
import StyledMarkup.Style.Segment
import StyledMarkup.Table
import StyledMarkup.Template.Context
import StyledMarkup.Template.Flat
import StyledMarkup.Template.Node
import StyledMarkup.Template.Styled
import StyledMarkup.Text.Basic
import StyledMarkup.Text.Case
import StyledMarkup.Text.Digit
import StyledMarkup.Text.Quoted
import StyledMarkup.Text.Unicode.CaseMap
import StyledMarkup.Text.Unicode.Cased
import StyledMarkup.Text.Unicode.Extender
import StyledMarkup.Text.Unicode.Invisible
import StyledMarkup.Yaml.Cursor
import StyledMarkup.Yaml.Layout
import StyledMarkup.Yaml.Node
import StyledMarkup.Yaml.ScalarText
import StyledMarkup.Yaml.TagName
import StyledMarkup.Yaml.Token
import StyledMarkup.Yaml.Value
