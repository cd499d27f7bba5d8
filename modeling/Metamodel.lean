import Metamodel.Batch.Output
import Metamodel.Batch.Run
import Metamodel.Class.Decl
import Metamodel.Class.Kind
import Metamodel.Code.Ident
import Metamodel.Code.Item
import Metamodel.Command.Error
import Metamodel.Command.Help
import Metamodel.Command.Parse
import Metamodel.Command.Spec
import Metamodel.Decimal.Shortest
import Metamodel.DeclaredType
import Metamodel.Derive.Expansion
import Metamodel.Derive.Mapped
import Metamodel.Diagnostic
import Metamodel.Disk.Path
import Metamodel.Disk.Snapshot
import Metamodel.Disk.Tree
import Metamodel.Generator.Discovery
import Metamodel.Generator.Error
import Metamodel.Generator.Output
import Metamodel.Generator.Run
import Metamodel.Generator.Settings
import Metamodel.Json.Decode
import Metamodel.Json.Forms
import Metamodel.Json.Parse
import Metamodel.Json.Print
import Metamodel.Json.Value
import Metamodel.Layout.Printer
import Metamodel.Layout.Source
import Metamodel.Model.Attribute
import Metamodel.Model.Build
import Metamodel.Model.Error
import Metamodel.Model.Set
import Metamodel.Name
import Metamodel.Navigation.Decode
import Metamodel.Navigation.Path
import Metamodel.Query.Condition
import Metamodel.Query.Decode
import Metamodel.Query.Pattern
import Metamodel.Query.Predicate
import Metamodel.Resolve.Member
import Metamodel.Resolve.Universe
import Metamodel.Scan.Attributes
import Metamodel.Scan.Source
import Metamodel.Source.File
import Metamodel.Source.Lexer
import Metamodel.Source.Literal
import Metamodel.Source.Parse.Core
import Metamodel.Source.Parse.Grammar
import Metamodel.Source.PathHeads
import Metamodel.Source.Syntax
import Metamodel.Source.Token
import Metamodel.Source.Tokens
import Metamodel.SourcePath
import Metamodel.Terminal.Style
import Metamodel.Terminal.Table
import Metamodel.Text.Case
import Metamodel.Text.CaseTable
import Metamodel.Text.IdentTable
import Metamodel.Text.Quote
import Metamodel.Text.Similarity
import Metamodel.Text.Split
import Metamodel.Text.Utf8
import Metamodel.Text.Width
import Metamodel.Toml.Decode
import Metamodel.Toml.Document
import Metamodel.Toml.Error
import Metamodel.Toml.Read
import Metamodel.Toml.Value
import Metamodel.Tool.Console
import Metamodel.Tool.Definition
import Metamodel.Tool.Generate
import Metamodel.Tool.Inspect
import Metamodel.Tool.Project
import Metamodel.Tool.Run
import Metamodel.Tool.Session
import Metamodel.Unit.Accessor
import Metamodel.Unit.Index
import Metamodel.Unit.Naming
import Metamodel.Main
import Metamodel.Decimal.Nearest
import Metamodel.Proofs.Lookup
import Metamodel.Proofs.Members
import Metamodel.Proofs.Merge
import Metamodel.Proofs.Supertypes
import Metamodel.Proofs.Build
import Metamodel.Proofs.Batch
import Metamodel.Proofs.Congruence
import Metamodel.Proofs.Order
import Metamodel.Proofs.Failure
import Metamodel.Proofs.Identifiers
import Metamodel.Proofs.Generation
import Metamodel.Proofs.Unnamable
import Metamodel.Proofs.Naming
import Metamodel.Proofs.Associations
import Metamodel.Proofs.Units
import Metamodel.Proofs.Lexing
import Metamodel.Proofs.Reading
import Metamodel.Proofs.Attributes
import Metamodel.Proofs.Derives
import Metamodel.Proofs.Methods
import Metamodel.Proofs.Binding
import Metamodel.Proofs.Memory
import Metamodel.Proofs.Disk
import Metamodel.Proofs.Directory
import Metamodel.Proofs.FileNames
import Metamodel.Proofs.Writing
import Metamodel.Proofs.Cycles
import Metamodel.Proofs.Descendants
import Metamodel.Proofs.Conditions
import Metamodel.Proofs.Termination
import Metamodel.Proofs.Transient
import Metamodel.Proofs.Imports
import Metamodel.Proofs.JsonText
import Metamodel.Proofs.Serialization
import Metamodel.Proofs.Embeddings
import Metamodel.Proofs.UseTrees
