import Polyglot.Binary64
import Polyglot.Block
import Polyglot.Builtin.All
import Polyglot.Builtin.C
import Polyglot.Builtin.CSharp
import Polyglot.Builtin.Cpp
import Polyglot.Builtin.Css
import Polyglot.Builtin.Go
import Polyglot.Builtin.Html
import Polyglot.Builtin.Java
import Polyglot.Builtin.JavaScript
import Polyglot.Builtin.JsonData
import Polyglot.Builtin.Kotlin
import Polyglot.Builtin.Markdown
import Polyglot.Builtin.Php
import Polyglot.Builtin.Python
import Polyglot.Builtin.Ruby
import Polyglot.Builtin.Rust
import Polyglot.Builtin.Scss
import Polyglot.Builtin.Shell
import Polyglot.Builtin.Sql
import Polyglot.Builtin.Swift
import Polyglot.Builtin.Toml
import Polyglot.Builtin.TypeScript
import Polyglot.Builtin.Xml
import Polyglot.Builtin.Yaml
import Polyglot.CharClass.Basic
import Polyglot.CharClass.Spec
import Polyglot.Engine
import Polyglot.Error
import Polyglot.Fold
import Polyglot.Json.Basic
import Polyglot.Json.Decode
import Polyglot.Json.Lexeme
import Polyglot.Json.Parser
import Polyglot.Json.Printer
import Polyglot.Lexer.Basic
import Polyglot.Lexer.Cache
import Polyglot.Lexer.Config
import Polyglot.Lexer.StateStack
import Polyglot.Matcher.Basic
import Polyglot.Matcher.Delimited
import Polyglot.Matcher.Literal
import Polyglot.Matcher.Number
import Polyglot.Matcher.Spec
import Polyglot.Profile.Basic
import Polyglot.Profile.Inherit
import Polyglot.Profile.Read
import Polyglot.Profile.Write
import Polyglot.Proofs.Block.Balanced
import Polyglot.Proofs.Block.Nesting
import Polyglot.Proofs.Engine.Caching
import Polyglot.Proofs.Engine.Uncached
import Polyglot.Proofs.Lexer.Interpreter
import Polyglot.Proofs.Lexer.Locality
import Polyglot.Proofs.Lexer.Refinement
import Polyglot.Proofs.Lexer.Tiling
import Polyglot.Proofs.Matcher.Digits
import Polyglot.Proofs.Matcher.Length
import Polyglot.Proofs.Matcher.Longest
import Polyglot.Proofs.Matcher.Numeral
import Polyglot.Proofs.Profile.Inheritance
import Polyglot.Proofs.Registry.History
import Polyglot.Proofs.Registry.Keys
import Polyglot.Proofs.Registry.PathLookup
import Polyglot.Proofs.Support.Except
import Polyglot.Proofs.Table
import Polyglot.Proofs.Text.Cursor
import Polyglot.Proofs.Text.Shift
import Polyglot.Proofs.Unicode.Lowercase
import Polyglot.Regex.Automaton
import Polyglot.Regex.Basic
import Polyglot.Regex.CharSet
import Polyglot.Regex.Parser
import Polyglot.Regex.Program
import Polyglot.Regex.Property.Age
import Polyglot.Regex.Property.Binary
import Polyglot.Regex.Property.Category
import Polyglot.Regex.Property.Folding
import Polyglot.Regex.Property.Query
import Polyglot.Regex.Property.Script
import Polyglot.Regex.Property.Segmentation
import Polyglot.Regex.Property.Word
import Polyglot.Regex.Search
import Polyglot.Regex.Utf8
import Polyglot.Registry
import Polyglot.Symbol.Detect
import Polyglot.Symbol.Extent
import Polyglot.Symbol.Pattern
import Polyglot.Symbol.Rule
import Polyglot.Table
import Polyglot.Text.Cursor
import Polyglot.Text.Position
import Polyglot.Token
import Polyglot.Unicode.Alphabetic
import Polyglot.Unicode.Blank
import Polyglot.Unicode.Case
import Polyglot.Unicode.Numeric
import Polyglot.Unicode.Ranges
import Polyglot.Proofs.Lexer.Recency
import Polyglot.Proofs.Text.Moves
import Polyglot.Proofs.Engine.Agreement
import Polyglot.Proofs.Json.Lexing
import Polyglot.Proofs.Json.Parsing
import Polyglot.Proofs.Json.Stating
import Polyglot.Proofs.Profile.Fields
import Polyglot.Proofs.Profile.Surviving
import Polyglot.Proofs.Profile.Matchers
import Polyglot.Proofs.Profile.RoundTrip
import Polyglot.Proofs.Registry.Identity
import Polyglot.Proofs.Profile.Ancestry
import Polyglot.Proofs.Registry.Cycles
import Polyglot.Proofs.Symbol.Search
import Polyglot.Proofs.Symbol.Skipping
import Polyglot.Proofs.Symbol.Hits
import Polyglot.Proofs.Symbol.Claims
import Polyglot.Proofs.Support.Sort
import Polyglot.Proofs.Lexer.Places
import Polyglot.Proofs.Symbol.Extents
import Polyglot.Proofs.Symbol.WellFormed
import Polyglot.Proofs.Symbol.Inherited
import Polyglot.Proofs.Matcher.Words
import Polyglot.Proofs.CharClass.References
import Polyglot.Proofs.Matcher.Regions
import Polyglot.Proofs.Regex.Matching
import Polyglot.Proofs.Regex.Soundness
import Polyglot.Proofs.Regex.Reading
import Polyglot.Proofs.Regex.Parts
import Polyglot.Proofs.Regex.Closing
import Polyglot.Proofs.Regex.Anchoring
import Polyglot.Proofs.Matcher.Patterns
import Polyglot.Proofs.Support.Bisection
import Polyglot.Proofs.CharClass.Denotation
import Polyglot.Proofs.Registry.Lookup
import Polyglot.Proofs.Profile.Resolution
import Polyglot.Proofs.Profile.Merging
import Polyglot.Proofs.Profile.Lineage
import Polyglot.Proofs.Fold
import Polyglot.Proofs.Symbol.Scan
import Polyglot.Proofs.Symbol.Statements
import Polyglot.Proofs.Symbol.Indentation
import Polyglot.Proofs.Symbol.Lines
import Polyglot.Proofs.Symbol.Widths
import Polyglot.Proofs.Registry.StableKeys
