import BareStrings.Calendar.Date
import BareStrings.Calendar.Moment
import BareStrings.Command.Arguments
import BareStrings.Command.Log
import BareStrings.Command.Run
import BareStrings.Command.Scan
import BareStrings.Config.Error
import BareStrings.Config.Key
import BareStrings.Config.Options
import BareStrings.Config.Shown
import BareStrings.Config.Source
import BareStrings.Config.Term
import BareStrings.Config.Value
import BareStrings.Expression.Basic
import BareStrings.Expression.NumberLiteral
import BareStrings.Expression.Parentheses
import BareStrings.Expression.StringLiteral
import BareStrings.Files.Content
import BareStrings.Files.Path
import BareStrings.Files.Templates
import BareStrings.Files.Tree
import BareStrings.Main
import BareStrings.Markup.Builder
import BareStrings.Markup.CharRef
import BareStrings.Markup.CharRef.Names
import BareStrings.Markup.DirectiveKey
import BareStrings.Markup.Error
import BareStrings.Markup.Lexeme.Basic
import BareStrings.Markup.Lexeme.Section
import BareStrings.Markup.Lexeme.StartTag
import BareStrings.Markup.Mustache
import BareStrings.Markup.Node
import BareStrings.Markup.Reader
import BareStrings.Markup.StartTag
import BareStrings.Markup.Walk
import BareStrings.Number.Arithmetic
import BareStrings.Number.Binary64
import BareStrings.Number.Decimal
import BareStrings.Number.Integer
import BareStrings.Number.Line
import BareStrings.Number.Shortest
import BareStrings.Proofs.Command.Scan
import BareStrings.Proofs.Config.Accepted
import BareStrings.Proofs.Except
import BareStrings.Proofs.Config.Options
import BareStrings.Proofs.Expression.StringLiteral
import BareStrings.Proofs.Markup.Bracket
import BareStrings.Proofs.Markup.CharRef
import BareStrings.Proofs.Markup.Chunks
import BareStrings.Proofs.Markup.Code
import BareStrings.Proofs.Markup.CodeBlock
import BareStrings.Proofs.Markup.Decoded
import BareStrings.Proofs.Markup.EndTag
import BareStrings.Proofs.Markup.Escape
import BareStrings.Proofs.Markup.Faithful
import BareStrings.Proofs.Markup.Growth
import BareStrings.Proofs.Markup.Nesting
import BareStrings.Proofs.Markup.Parts
import BareStrings.Proofs.Markup.Passage
import BareStrings.Proofs.Markup.Place
import BareStrings.Proofs.Markup.Refusal
import BareStrings.Proofs.Markup.Shift
import BareStrings.Proofs.Markup.Slice
import BareStrings.Proofs.Markup.Spine
import BareStrings.Proofs.Markup.Stable
import BareStrings.Proofs.Markup.TagName
import BareStrings.Proofs.Markup.TagSpan
import BareStrings.Proofs.Markup.Template
import BareStrings.Proofs.Markup.Template.Parse
import BareStrings.Proofs.Markup.Template.StartTag
import BareStrings.Proofs.Markup.Template.Text
import BareStrings.Proofs.Markup.Unclosed
import BareStrings.Proofs.Regex.Capture
import BareStrings.Proofs.Regex.Choice
import BareStrings.Proofs.Regex.Literal
import BareStrings.Proofs.Rule.Answer
import BareStrings.Proofs.Rule.Bare
import BareStrings.Proofs.Rule.Callback
import BareStrings.Proofs.Rule.Findings
import BareStrings.Proofs.Rule.Owner
import BareStrings.Proofs.Rule.Resolver
import BareStrings.Proofs.Rule.Scan
import BareStrings.Proofs.Rule.TagName
import BareStrings.Proofs.Rule.Targets
import BareStrings.Proofs.Rule.Walk
import BareStrings.Proofs.Rule.Whitelist
import BareStrings.Proofs.Text.Ascii
import BareStrings.Proofs.Text.Position
import BareStrings.Proofs.Text.Split
import BareStrings.Proofs.Unicode.Case
import BareStrings.Regex.Basic
import BareStrings.Regex.Branches
import BareStrings.Regex.Defect
import BareStrings.Regex.Error
import BareStrings.Regex.Escape
import BareStrings.Regex.Letter
import BareStrings.Regex.Match
import BareStrings.Regex.Parse
import BareStrings.Regex.Place
import BareStrings.Regex.Search
import BareStrings.Regex.Source
import BareStrings.Report.Basic
import BareStrings.Report.Finding
import BareStrings.Report.Json
import BareStrings.Report.Table
import BareStrings.Rule.Analyzer
import BareStrings.Rule.Callback
import BareStrings.Rule.Findings
import BareStrings.Rule.Options
import BareStrings.Rule.Scan
import BareStrings.Rule.Selector
import BareStrings.Rule.TagName
import BareStrings.Rule.Targets
import BareStrings.Rule.Whitelist
import BareStrings.Text.Base64
import BareStrings.Text.Blank
import BareStrings.Text.CodePoint
import BareStrings.Text.Numeral
import BareStrings.Text.Order
import BareStrings.Text.Position
import BareStrings.Text.Quoted
import BareStrings.Text.Split
import BareStrings.Unicode.Case
import BareStrings.Unicode.Digit
import BareStrings.Unicode.Identifier
import BareStrings.Unicode.Name
import BareStrings.Unicode.Name.Aliases
import BareStrings.Unicode.Name.Historic
import BareStrings.Unicode.Name.Letters
import BareStrings.Unicode.Name.Pictures
import BareStrings.Unicode.Name.Symbols
import BareStrings.Unicode.Printable
import BareStrings.Unicode.Span
import BareStrings.Unicode.Word
import BareStrings.Yaml.Atom
import BareStrings.Yaml.Character
import BareStrings.Yaml.Document
import BareStrings.Yaml.Error
import BareStrings.Yaml.Load
import BareStrings.Yaml.Node
import BareStrings.Yaml.Numeral
import BareStrings.Yaml.Scalar.Block
import BareStrings.Yaml.Scalar.Gap
import BareStrings.Yaml.Scalar.Plain
import BareStrings.Yaml.Scalar.Quoted
import BareStrings.Yaml.Tag
import BareStrings.Yaml.Timestamp
import BareStrings.Yaml.Token
import BareStrings.Yaml.Token.Name
import BareStrings.Yaml.Token.Scan
import BareStrings.Proofs.Expression.Parentheses
import BareStrings.Proofs.Markup.DirectiveKey
import BareStrings.Proofs.Number.Rounding
import BareStrings.Proofs.Expression.Item
import BareStrings.Proofs.Expression.Continuation
import BareStrings.Proofs.Expression.Refusal
import BareStrings.Proofs.Markup.Mustache
import BareStrings.Proofs.Markup.ValueToken
import BareStrings.Proofs.Markup.SpelledTag
import BareStrings.Proofs.Regex.Enclosed.Scan
import BareStrings.Proofs.Regex.Enclosed.Item
import BareStrings.Proofs.Regex.Enclosed.Flags
import BareStrings.Proofs.Regex.Enclosed.Group
import BareStrings.Proofs.Regex.Enclosed.Step
import BareStrings.Proofs.Regex.Enclosed.Parse
import BareStrings.Proofs.Rule.Sticky
import BareStrings.Proofs.Regex.Start
import BareStrings.Proofs.Rule.Slashed
import BareStrings.Proofs.Rule.ExactName
import BareStrings.Proofs.Config.Content
import BareStrings.Proofs.Files.Templates
import BareStrings.Proofs.Report.Verdict
import BareStrings.Proofs.Report.Ranking
import BareStrings.Proofs.Rule.Hyphenated
import BareStrings.Text.LineTable
import BareStrings.Markup.Reading
import BareStrings.Proofs.Markup.Offset
import BareStrings.Proofs.Text.LineTable
