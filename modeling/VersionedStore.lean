import VersionedStore.Crud.Action
import VersionedStore.Crud.Answer
import VersionedStore.Crud.Event
import VersionedStore.Crud.Operation
import VersionedStore.Declaration.Arguments
import VersionedStore.Declaration.Derive
import VersionedStore.Declaration.Expansion
import VersionedStore.Declaration.Fields
import VersionedStore.Declaration.Grammar
import VersionedStore.Declaration.Grammar.Bounds
import VersionedStore.Declaration.Grammar.Expressions
import VersionedStore.Declaration.Grammar.Items
import VersionedStore.Declaration.Grammar.Operators
import VersionedStore.Declaration.Grammar.Patterns
import VersionedStore.Declaration.Grammar.Rule
import VersionedStore.Declaration.Grammar.Statements
import VersionedStore.Declaration.Grammar.Types
import VersionedStore.Declaration.Item
import VersionedStore.Declaration.Lexer
import VersionedStore.Declaration.Literal
import VersionedStore.Declaration.Phrase
import VersionedStore.Declaration.Refusal
import VersionedStore.Declaration.SnakeCase
import VersionedStore.Declaration.Source
import VersionedStore.Declaration.Struct
import VersionedStore.Declaration.Token
import VersionedStore.Dictionary
import VersionedStore.Failure
import VersionedStore.Http.Response
import VersionedStore.Instant.Basic
import VersionedStore.Instant.Rfc3339
import VersionedStore.Instant.Unix
import VersionedStore.Json.Basic
import VersionedStore.Json.Double
import VersionedStore.Json.Fault
import VersionedStore.Json.Printer
import VersionedStore.Json.Scanner
import VersionedStore.Json.Strings
import VersionedStore.Log.Entry
import VersionedStore.Log.Filter
import VersionedStore.Log.Pattern
import VersionedStore.Main
import VersionedStore.Model.Basic
import VersionedStore.Model.Catalogue
import VersionedStore.Model.Object
import VersionedStore.Model.Oid
import VersionedStore.Outcome
import VersionedStore.Proofs.Declaration.ArgumentLists
import VersionedStore.Proofs.Declaration.ArgumentSpellings
import VersionedStore.Proofs.Declaration.Booleans
import VersionedStore.Proofs.Declaration.DefaultTags
import VersionedStore.Proofs.Declaration.Defaults
import VersionedStore.Proofs.Declaration.Derives
import VersionedStore.Proofs.Declaration.Heads
import VersionedStore.Proofs.Declaration.LeadingFields
import VersionedStore.Proofs.Declaration.Phrases
import VersionedStore.Proofs.Declaration.Rounds
import VersionedStore.Proofs.Http.ReadBack
import VersionedStore.Proofs.Http.Unmodified
import VersionedStore.Proofs.Instant.Text
import VersionedStore.Proofs.Json.Order
import VersionedStore.Proofs.Json.Text
import VersionedStore.Proofs.Json.Tokens
import VersionedStore.Proofs.Memory.Commuting
import VersionedStore.Proofs.Memory.Content
import VersionedStore.Proofs.Memory.Invariant
import VersionedStore.Proofs.Memory.Life
import VersionedStore.Proofs.Memory.Snapshot
import VersionedStore.Proofs.Memory.Tidy
import VersionedStore.Proofs.Memory.Transition
import VersionedStore.Proofs.Registry.Addresses
import VersionedStore.Proofs.Registry.FirstWins
import VersionedStore.Proofs.Registry.Isolation
import VersionedStore.Proofs.Registry.Message
import VersionedStore.Proofs.Registry.ReadOnly
import VersionedStore.Proofs.Registry.Requested
import VersionedStore.Proofs.Registry.Run
import VersionedStore.Proofs.Registry.SaveBack
import VersionedStore.Proofs.Registry.Tags
import VersionedStore.Proofs.Relational.Addresses
import VersionedStore.Proofs.Relational.Calls
import VersionedStore.Proofs.Relational.Failing
import VersionedStore.Proofs.Relational.Refinement
import VersionedStore.Proofs.Relational.Rows
import VersionedStore.Proofs.Relational.Serving
import VersionedStore.Proofs.Schema.Document
import VersionedStore.Proofs.Schema.Elements
import VersionedStore.Proofs.Schema.Members
import VersionedStore.Proofs.Schema.Text
import VersionedStore.Proofs.Schema.Zeros
import VersionedStore.Proofs.Service.Addresses
import VersionedStore.Proofs.Service.Counterparts
import VersionedStore.Proofs.Service.Dialogue
import VersionedStore.Proofs.Service.Effect
import VersionedStore.Proofs.Service.Lives
import VersionedStore.Proofs.Service.Log
import VersionedStore.Proofs.Service.Logged
import VersionedStore.Proofs.Service.Rules
import VersionedStore.Proofs.Service.Sound
import VersionedStore.Proofs.Service.Transition
import VersionedStore.Proofs.Service.Updatable
import VersionedStore.Proofs.Service.Verdict
import VersionedStore.Proofs.Service.Visits
import VersionedStore.Proofs.Service.WriteLog
import VersionedStore.Proofs.Settings.Overrides
import VersionedStore.Proofs.Specification.Occurrences
import VersionedStore.Proofs.Store.Addresses
import VersionedStore.Proofs.Store.Family
import VersionedStore.Proofs.Store.Record
import VersionedStore.Proofs.Store.Run
import VersionedStore.Proofs.Text.Numerals
import VersionedStore.Proofs.Text.Spellings
import VersionedStore.Registry
import VersionedStore.Schema.Basic
import VersionedStore.Schema.Coded
import VersionedStore.Schema.Decode
import VersionedStore.Schema.Encode
import VersionedStore.Schema.Faithful
import VersionedStore.Schema.Read
import VersionedStore.Service.Basic
import VersionedStore.Service.Error
import VersionedStore.Settings.Basic
import VersionedStore.Settings.File
import VersionedStore.Showcase.Script
import VersionedStore.Showcase.Shop
import VersionedStore.Showcase.Showing
import VersionedStore.Specification.Basic
import VersionedStore.Specification.Criterion
import VersionedStore.Specification.Postfix
import VersionedStore.Store.Basic
import VersionedStore.Store.Disturbed
import VersionedStore.Store.Faulty
import VersionedStore.Store.Memory
import VersionedStore.Store.Relational
import VersionedStore.Store.Table
import VersionedStore.Text.Alphanumeric
import VersionedStore.Text.Blank
import VersionedStore.Text.Capital
import VersionedStore.Text.CodePoint
import VersionedStore.Text.Decimal
import VersionedStore.Text.Hexadecimal
import VersionedStore.Text.Identifier
import VersionedStore.Text.Part
import VersionedStore.Text.Printable
import VersionedStore.Text.Quoted
import VersionedStore.Toml.Reader
import VersionedStore.Toml.Scalar
import VersionedStore.Toml.Scope
import VersionedStore.Tracking
import VersionedStore.Uuid
import VersionedStore.Validation
import VersionedStore.Version
