import Replay.Action
import Replay.Action.Performance
import Replay.Action.Reader
import Replay.Call
import Replay.Channel
import Replay.Clock
import Replay.CommandLine
import Replay.CommandLine.Arguments
import Replay.CommandLine.Usage
import Replay.Configuration
import Replay.Configuration.File
import Replay.Cookie
import Replay.Document
import Replay.Failure
import Replay.FileTree
import Replay.Jar
import Replay.Jar.Netscape
import Replay.Json.Reader
import Replay.Json.Writer
import Replay.Locator
import Replay.Main
import Replay.Number.Arithmetic
import Replay.Number.Binary64
import Replay.Number.Radix
import Replay.Number.Reader
import Replay.Number.Shortest
import Replay.Page
import Replay.Path
import Replay.Pattern
import Replay.Pattern.Beginning
import Replay.Pattern.Match
import Replay.Pattern.Membership
import Replay.Pattern.Reader
import Replay.Pattern.Repetition
import Replay.Pattern.Spot
import Replay.Pattern.Syntax
import Replay.Proofs.Cookie
import Replay.Proofs.FileTree
import Replay.Proofs.History
import Replay.Proofs.Jar.Line
import Replay.Proofs.Jar.Netscape
import Replay.Proofs.Json.Number
import Replay.Proofs.Json.Plain
import Replay.Proofs.Json.RoundTrip
import Replay.Proofs.Json.Text
import Replay.Proofs.Json.Value
import Replay.Proofs.Number.Binary64
import Replay.Proofs.Number.Digit
import Replay.Proofs.Number.Integer
import Replay.Proofs.Number.Reader
import Replay.Proofs.Number.Shortest
import Replay.Proofs.Number.Truncation
import Replay.Proofs.Path
import Replay.Proofs.Performance
import Replay.Proofs.Play
import Replay.Proofs.Run
import Replay.Proofs.Session
import Replay.Proofs.Store
import Replay.Proofs.Text.Pieces
import Replay.Proofs.Validation
import Replay.Proofs.Window
import Replay.Run
import Replay.Session
import Replay.Settings
import Replay.Store
import Replay.Subject
import Replay.Text.Alphanumeric
import Replay.Text.Base64
import Replay.Text.Blank
import Replay.Text.CharacterName
import Replay.Text.CharacterName.African
import Replay.Text.CharacterName.Alias
import Replay.Text.CharacterName.Ancient
import Replay.Text.CharacterName.Arrow
import Replay.Text.CharacterName.Brahmic
import Replay.Text.CharacterName.Cuneiform
import Replay.Text.CharacterName.Desert
import Replay.Text.CharacterName.EastAsian
import Replay.Text.CharacterName.Emoticon
import Replay.Text.CharacterName.European
import Replay.Text.CharacterName.Form
import Replay.Text.CharacterName.Gesture
import Replay.Text.CharacterName.Hangul
import Replay.Text.CharacterName.Hieroglyph
import Replay.Text.CharacterName.Ideograph
import Replay.Text.CharacterName.Insular
import Replay.Text.CharacterName.Mathematical
import Replay.Text.CharacterName.MiddleEastern
import Replay.Text.CharacterName.Minor
import Replay.Text.CharacterName.Modern
import Replay.Text.CharacterName.Notation
import Replay.Text.CharacterName.Phonetic
import Replay.Text.CharacterName.Picture
import Replay.Text.CharacterName.Punctuation
import Replay.Text.CharacterName.Run
import Replay.Text.CharacterName.Shorthand
import Replay.Text.CharacterName.SouthAsian
import Replay.Text.CharacterName.SoutheastAsian
import Replay.Text.CharacterName.Syllable
import Replay.Text.CharacterName.Technical
import Replay.Text.CharacterSet
import Replay.Text.Digit
import Replay.Text.Identifier
import Replay.Text.LetterCase
import Replay.Text.LowerCase
import Replay.Text.Newline
import Replay.Text.Printable
import Replay.Text.Quoted
import Replay.Text.CodePoint
import Replay.Text.UpperCase
import Replay.Text.Utf8
import Replay.Validation
import Replay.Watch
import Replay.Window
import Replay.World
import Replay.XPath
import Replay.Yaml
import Replay.Yaml.Cursor
import Replay.Yaml.Graph
import Replay.Yaml.Graph.Merge
import Replay.Yaml.Graph.Reader
import Replay.Yaml.Graph.Value
import Replay.Yaml.Moment
import Replay.Yaml.Refusal
import Replay.Yaml.Scalar.Block
import Replay.Yaml.Scalar.Plain
import Replay.Yaml.Scalar.Quoted
import Replay.Yaml.Scalar.Value
import Replay.Yaml.Tag
import Replay.Yaml.Token
import Replay.Yaml.Token.Directive
import Replay.Yaml.Token.Lexer
import Replay.Yaml.Token.Property
import Replay.Proofs.Json.Document
import Replay.Proofs.Action.Grammar
import Replay.Proofs.Action.Reader
import Replay.Proofs.Performance.Contract
import Replay.Proofs.Clock
import Replay.Proofs.Run.Completion
import Replay.Proofs.Validation.Overrun
import Replay.Proofs.Pattern.Reading
import Replay.Proofs.Pattern.Parts
import Replay.Proofs.Pattern.Rounds
import Replay.Proofs.Action.Overrun
import Replay.Proofs.Json.Digits
import Replay.Proofs.Jar.Refusal
import Replay.Proofs.Jar.Expiry
import Replay.Proofs.Configuration.Reference
import Replay.Proofs.CommandLine.Check
import Replay.Proofs.Configuration.Reading
import Replay.Proofs.Configuration.Records
import Replay.Proofs.Configuration.Loading
import Replay.Proofs.Performance.Twins
import Replay.Proofs.Run.FirstMatch
import Replay.Proofs.CommandLine.Lifecycle
import Replay.Proofs.FileTree.Below
import Replay.Proofs.Run.Composition
import Replay.Proofs.Run.Time
import Replay.Proofs.Store.Layout
import Replay.Proofs.Store.Maps
import Replay.Proofs.Store.Containment
import Replay.Proofs.Performance.Calls
import Replay.Proofs.Performance.Reports
import Replay.Proofs.Text.Utf8
import Replay.Proofs.Channel
import Replay.Proofs.Channel.Scenes
import Replay.Proofs.Channel.Requests
import Replay.Proofs.Channel.Messages
import Replay.Proofs.Channel.Frame
import Replay.Proofs.Watch
import Replay.Proofs.Performance.Submission
import Replay.Proofs.Run.BrokenClock
import Replay.Proofs.Watch.Loop
import Replay.Proofs.Watch.Calls
import Replay.Proofs.XPath.Token
import Replay.Proofs.XPath.Expression
import Replay.Proofs.XPath.Quotation
import Replay.Proofs.Jar.Locality
import Replay.Proofs.Pattern.Plain
import Replay.Proofs.Performance.Expectation
import Replay.Proofs.Run.Dependence
