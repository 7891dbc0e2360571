import ScopedStyles.Alias
import ScopedStyles.Except
import ScopedStyles.ExportKey
import ScopedStyles.Import.Bindings
import ScopedStyles.Import.Scan
import ScopedStyles.Import.Specifier
import ScopedStyles.Import.ByteScan
import ScopedStyles.Text.Printable
import ScopedStyles.Text.Slice
import ScopedStyles.Path
import ScopedStyles.FileSystem
import ScopedStyles.FileSystem.Tree
import ScopedStyles.Resolver
import ScopedStyles.Resolver.FileSearch
import ScopedStyles.Json.Fault
import ScopedStyles.Json.Literal
import ScopedStyles.Decimal.Shortest
import ScopedStyles.Json.Number
import ScopedStyles.Config
import ScopedStyles.Config.Json
import ScopedStyles.Diagnostic
import ScopedStyles.Engine
import ScopedStyles.Module
import ScopedStyles.Module.Binding
import ScopedStyles.Module.Resolve
import ScopedStyles.Module.Transform
import ScopedStyles.Pipeline
import ScopedStyles.Digest
import ScopedStyles.Css.Name
import ScopedStyles.Css.Token
import ScopedStyles.Css.Fault
import ScopedStyles.Css.Node
import ScopedStyles.Css.Selector
import ScopedStyles.Css.Pattern
import ScopedStyles.Css.Scope
import ScopedStyles.Css.Sheet
import ScopedStyles.Css.Write
import ScopedStyles.Css.Exports
import ScopedStyles.Css.Minify
import ScopedStyles.Engine.BuiltIn
import ScopedStyles.Css.Numeral
import ScopedStyles.Css.Color
import ScopedStyles.Css.Value
import ScopedStyles.Css.Quantity
import ScopedStyles.Css.Rgba
import ScopedStyles.Proofs.Text.Bytes
import ScopedStyles.Proofs.Import.Lexemes
import ScopedStyles.Proofs.Import.Grammar
import ScopedStyles.Proofs.Import.ByteScan.Statement
import ScopedStyles.Proofs.Import.ByteScan.Agreement
import ScopedStyles.Proofs.Text.Split
import ScopedStyles.Proofs.Import.Spans
import ScopedStyles.Proofs.Import.Lines
import ScopedStyles.Proofs.Import.Pieces
import ScopedStyles.Proofs.Pipeline.Process
import ScopedStyles.Proofs.Text.Utf8
import ScopedStyles.Proofs.Pipeline.Outcomes
import ScopedStyles.Proofs.Resolver.Search
import ScopedStyles.Proofs.Pipeline.FoundFile
import ScopedStyles.Proofs.Text.Parts
import ScopedStyles.Proofs.Import.Clauses
import ScopedStyles.Proofs.Import.Fillers
import ScopedStyles.Proofs.Import.Importless
import ScopedStyles.Proofs.Import.Layout
import ScopedStyles.Proofs.NameMap
import ScopedStyles.Proofs.Import.Comments
import ScopedStyles.Proofs.Pipeline.Policies
import ScopedStyles.Proofs.Pipeline.Queries
import ScopedStyles.Proofs.Text.Order
import ScopedStyles.Proofs.Json.Strings
import ScopedStyles.Proofs.Json.Objects
import ScopedStyles.Proofs.Module.Binding
import ScopedStyles.Proofs.Import.Standalone
import ScopedStyles.Proofs.Module.Script
import ScopedStyles.Proofs.Text.LetterCase
import ScopedStyles.Proofs.Module.Exports
import ScopedStyles.Proofs.ExportKey.Words
import ScopedStyles.Proofs.ExportKey.Boundaries
import ScopedStyles.Proofs.ExportKey.Raising
import ScopedStyles.Proofs.ExportKey.Spellings
import ScopedStyles.Proofs.Json.Numbers
import ScopedStyles.Proofs.Json.Values
import ScopedStyles.Proofs.Json.Entries
import ScopedStyles.Proofs.Config.Settings
import ScopedStyles.Proofs.Config.Members
import ScopedStyles.Proofs.Import.Reading
import ScopedStyles.Proofs.Import.Places
import ScopedStyles.Proofs.Import.Acceptance
import ScopedStyles.Proofs.Import.Excerpts
import ScopedStyles.Proofs.Import.NamedImports
import ScopedStyles.Proofs.Import.BindingClauses
import ScopedStyles.Proofs.Import.Printing
import ScopedStyles.Proofs.Text.CaseTables
import ScopedStyles.Proofs.ExportKey.Windows
import ScopedStyles.Proofs.ExportKey.Keys
import ScopedStyles.Proofs.ExportKey.Settled
import ScopedStyles.Proofs.ExportKey.Letters
import ScopedStyles.Proofs.ExportKey.Separators
import ScopedStyles.Proofs.Alias
import ScopedStyles.Proofs.Json.Readers
import ScopedStyles.Proofs.Config.Declarations
import ScopedStyles.Proofs.Config.ListedAliases
import ScopedStyles.Proofs.Pipeline.Expansion
import ScopedStyles.Proofs.Path.Parents
import ScopedStyles.Proofs.FileSystem.Places
import ScopedStyles.Proofs.Resolver.Ancestors
