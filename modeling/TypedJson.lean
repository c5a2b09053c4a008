import TypedJson.Text.Utf8
import TypedJson.Text.Blank
import TypedJson.Text.Ranges
import TypedJson.Text.Word
import TypedJson.Text.GraphemeExtend
import TypedJson.Text.Printable
import TypedJson.Text.Quoted
import TypedJson.Syntax.Node
import TypedJson.Syntax.Scanner
import TypedJson.Syntax.Parser.Basic
import TypedJson.Syntax.Parser.Grammar
import TypedJson.Syntax.Parse
import TypedJson.Error
import TypedJson.Declaration
import TypedJson.Text.Affix
import TypedJson.Config
import TypedJson.Tag
import TypedJson.Naming
import TypedJson.Naming.Relation
import TypedJson.Json.Value
import TypedJson.Json.Float
import TypedJson.Json.Reader
import TypedJson.Json.Decode
import TypedJson.Schema
import TypedJson.Catalog
import TypedJson.Retype.Classify
import TypedJson.Edit.Patch
import TypedJson.Retype.Blob
import TypedJson.Retype.Payload
import TypedJson.Retype.Pass
import TypedJson.Edit.Writer
import TypedJson.Files.Basic
import TypedJson.Files.Store
import TypedJson.Edit.File
import TypedJson.Generate
import TypedJson.Config.File
import TypedJson.Toml.Document
import TypedJson.Binary64
import TypedJson.Toml.Error
import TypedJson.Toml.Reader
import TypedJson.Toml.Values
import TypedJson.Toml.Tables
import TypedJson.Config.Decode
import TypedJson.Cli.Options
import TypedJson.Cli.Report
import TypedJson.Cli.Run
import TypedJson.Main
import TypedJson.Proofs.Catalog
import TypedJson.Proofs.Spans
import TypedJson.Proofs.Placement
import TypedJson.Proofs.Splice
import TypedJson.Proofs.Schedule
import TypedJson.Proofs.Blob
import TypedJson.Proofs.Payload
import TypedJson.Proofs.Walk
import TypedJson.Proofs.Rollback
import TypedJson.Proofs.Safety
import TypedJson.Proofs.Rerun
import TypedJson.Proofs.Replaced
import TypedJson.Proofs.Generated
import TypedJson.Proofs.Buffer
import TypedJson.Proofs.RetypeBuffer
import TypedJson.Proofs.Footprint
import TypedJson.Proofs.Apply
import TypedJson.Proofs.EditOrder
import TypedJson.Proofs.Lookups
import TypedJson.Proofs.CatalogRecords
import TypedJson.Proofs.Dispositions
import TypedJson.Proofs.Templates
import TypedJson.Proofs.Shapes
import TypedJson.Proofs.Counters
import TypedJson.Proofs.TagLines
import TypedJson.Proofs.WordSearch
import TypedJson.Proofs.Scope
import TypedJson.Proofs.Subtrees
import TypedJson.Proofs.PayloadVisits
