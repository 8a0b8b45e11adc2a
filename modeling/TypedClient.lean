import TypedClient.Entries
import TypedClient.Text.Blank
import TypedClient.Text.Utf8
import TypedClient.Text.Percent
import TypedClient.Number.Binary64
import TypedClient.Number.Shortest
import TypedClient.Json.Basic
import TypedClient.Json.Printer
import TypedClient.Json.Reader
import TypedClient.Schema.Basic
import TypedClient.Schema.OfJson
import TypedClient.Schema.Pointer
import TypedClient.Schema.Order
import TypedClient.Fault
import TypedClient.Validator.Basic
import TypedClient.Validator.Issue
import TypedClient.Validator.Parse
import TypedClient.Validator.OfSchema
import TypedClient.Validator.Declaration
import TypedClient.Yaml.Cursor
import TypedClient.Yaml.Token
import TypedClient.Yaml.Token.Block
import TypedClient.Yaml.Token.Flow
import TypedClient.Yaml.Token.Lexer
import TypedClient.Yaml.Event
import TypedClient.Yaml.Scalar
import TypedClient.Yaml.Value.OfEvents
import TypedClient.Yaml.Value.ToJson
import TypedClient.Text.Case
import TypedClient.Text.Quoted
import TypedClient.Document
import TypedClient.Document.OfJson
import TypedClient.Document.Read
import TypedClient.Blueprint
import TypedClient.Layout
import TypedClient.Layout.Tidy
import TypedClient.TypeScript.Client
import TypedClient.TypeScript.Module
import TypedClient.Url.Basic
import TypedClient.Url.Form
import TypedClient.Text.CharTable
import TypedClient.Text.Composition
import TypedClient.Url.Absolute
import TypedClient.Call.Config
import TypedClient.Call.Exchange
import TypedClient.Files
import TypedClient.Filter.Escape
import TypedClient.Filter.Outcome
import TypedClient.Filter.Tools
import TypedClient.Filter.Translate
import TypedClient.Filter
import TypedClient.Filter.StandIns
import TypedClient.Machine
import TypedClient.Command
import TypedClient.Main
import TypedClient.Proofs.Entries
import TypedClient.Proofs.Outcome
import TypedClient.Proofs.Induction
import TypedClient.Proofs.Naming.FirstFree
import TypedClient.Proofs.Schema.Order
import TypedClient.Proofs.Schema.Meaning
import TypedClient.Proofs.Validator.References
import TypedClient.Proofs.Validator.Declaration
import TypedClient.Proofs.Validator.Occurrence
import TypedClient.Proofs.Validator.Parse
import TypedClient.Proofs.Validator.Acceptance
import TypedClient.Proofs.Route.Inline
import TypedClient.Proofs.TypeScript.Identifiers
import TypedClient.Proofs.TypeScript.Constants
import TypedClient.Proofs.Blueprint.Basic
import TypedClient.Proofs.Blueprint.Initialisation
import TypedClient.Proofs.Blueprint.Acceptance
import TypedClient.Proofs.Blueprint.Strictness
import TypedClient.Proofs.Route.Collisions
import TypedClient.Proofs.Route.OfDocument
import TypedClient.Proofs.Document.Read
import TypedClient.Proofs.Blueprint.Ownership
import TypedClient.Proofs.Route.Placement
import TypedClient.Proofs.Blueprint.Termination
import TypedClient.Proofs.Schema.Uniform
import TypedClient.Proofs.Document.Schemas
import TypedClient.Proofs.Validator.Stability
import TypedClient.Proofs.Blueprint.Stability
import TypedClient.Proofs.Text.Lines
import TypedClient.Proofs.Route.Listing
import TypedClient.Proofs.TypeScript.Template
import TypedClient.Proofs.TypeScript.Findings
import TypedClient.Proofs.TypeScript.Comments
import TypedClient.Proofs.Layout
import TypedClient.Proofs.TypeScript.Distinct
import TypedClient.Proofs.TypeScript.Declared
import TypedClient.Proofs.TypeScript.Names
import TypedClient.Proofs.Call.Reference
import TypedClient.Proofs.Validator.Extension
import TypedClient.Proofs.Validator.Agreement
import TypedClient.Proofs.Validator.Relabel
import TypedClient.Proofs.Validator.Permutation
import TypedClient.Proofs.Text.Utf8
import TypedClient.Proofs.Text.Percent
import TypedClient.Proofs.Url.Form
import TypedClient.Proofs.Call.Query
import TypedClient.Proofs.Json.Quote
import TypedClient.Proofs.TypeScript.Tokens
import TypedClient.Proofs.TypeScript.Unambiguous
import TypedClient.Proofs.Files
import TypedClient.Proofs.Command.Job
import TypedClient.Proofs.Json.Unique
import TypedClient.Proofs.Validator.Choice
import TypedClient.Proofs.Validator.Trim
import TypedClient.Proofs.Validator.Address
import TypedClient.Proofs.Route.Resolution
import TypedClient.Proofs.Schema.Pointer
import TypedClient.Proofs.Call.Pairs
import TypedClient.Proofs.Entries.Merge
import TypedClient.Proofs.Validator.Accepts
import TypedClient.Proofs.Validator.TypeNames
import TypedClient.Proofs.Route.QuerySchema
import TypedClient.Proofs.Blueprint.Requirement
import TypedClient.Proofs.TypeScript.Unfit
import TypedClient.Proofs.Url.Parts
import TypedClient.Proofs.Url.Opening
import TypedClient.Proofs.Call.Address
import TypedClient.Proofs.TypeScript.Configuration
import TypedClient.Proofs.Route.Insertion
import TypedClient.Proofs.Layout.Tidy
import TypedClient.Proofs.Layout.Passes
import TypedClient.Proofs.Route.Aliases
import TypedClient.Proofs.Route.Methods
import TypedClient.Proofs.Layout.Level
import TypedClient.Proofs.TypeScript.Indentation
import TypedClient.Proofs.Route.Claims
import TypedClient.Proofs.Validator.Dependencies
import TypedClient.Proofs.Naming.Stable
