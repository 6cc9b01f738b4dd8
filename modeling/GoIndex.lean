import GoIndex.Catalog.Basic
import GoIndex.Catalog.Ranking
import GoIndex.Catalog.Relations
import GoIndex.Catalog.Summary
import GoIndex.Command.Arguments
import GoIndex.Command.Platform
import GoIndex.Command.Run
import GoIndex.Data.Binary64.Basic
import GoIndex.Data.Binary64.Numeral
import GoIndex.Data.Binary64.Shortest
import GoIndex.Data.Json
import GoIndex.Data.Value
import GoIndex.Data.Yaml.Cursor
import GoIndex.Data.Yaml.Defect
import GoIndex.Data.Yaml.Document
import GoIndex.Data.Yaml.Meaning
import GoIndex.Data.Yaml.Scalar
import GoIndex.Data.Yaml.ScalarText
import GoIndex.Data.Yaml.Tag
import GoIndex.Data.Yaml.Timestamp
import GoIndex.Data.Yaml.Token
import GoIndex.Declaration
import GoIndex.Fault
import GoIndex.Index
import GoIndex.Main
import GoIndex.Report
import GoIndex.Session
import GoIndex.Settings.Basic
import GoIndex.Settings.Environment
import GoIndex.Settings.Load
import GoIndex.Settings.Validation
import GoIndex.Source.Block
import GoIndex.Source.Body
import GoIndex.Source.Comment
import GoIndex.Source.Heading
import GoIndex.Source.Imports
import GoIndex.Source.Scan
import GoIndex.Text.Ascending
import GoIndex.Text.Base64
import GoIndex.Text.Blank
import GoIndex.Text.Integer
import GoIndex.Text.Letter
import GoIndex.Text.Lines
import GoIndex.Text.LooseInteger
import GoIndex.Text.Lower
import GoIndex.Text.Markup
import GoIndex.Text.Quoted
import GoIndex.Text.Ranges
import GoIndex.Text.Undecodable
import GoIndex.Text.Utf8
import GoIndex.Text.Word
import GoIndex.Tree.Basic
import GoIndex.Tree.Path
import GoIndex.Tree.SourceFile
import GoIndex.Proofs.Source.Block
import GoIndex.Proofs.Source.Stops
import GoIndex.Proofs.Text.Lines
import GoIndex.Proofs.Source.Places
import GoIndex.Proofs.Source.Composition
import GoIndex.Proofs.Catalog.Order
import GoIndex.Proofs.Index.Order
import GoIndex.Proofs.Session.Snapshot
import GoIndex.Proofs.Catalog.Relations
import GoIndex.Proofs.Index.Dependencies
import GoIndex.Proofs.Session.Dependencies
import GoIndex.Proofs.Source.Group
import GoIndex.Proofs.Text.Brackets
import GoIndex.Proofs.Source.TopLevel
import GoIndex.Proofs.Catalog.Ranking
import GoIndex.Proofs.Data.Json
import GoIndex.Proofs.Report
import GoIndex.Proofs.Command.Arguments
import GoIndex.Proofs.Command.Console
import GoIndex.Proofs.Command.ProjectRoot
import GoIndex.Proofs.Command.Refusal
import GoIndex.Proofs.Source.Reading
import GoIndex.Proofs.Source.Forms
import GoIndex.Proofs.Source.Signature
import GoIndex.Proofs.Source.Names
import GoIndex.Proofs.Source.Body
import GoIndex.Proofs.Source.Comment
import GoIndex.Proofs.Source.Parameters
import GoIndex.Proofs.Source.Fields
import GoIndex.Proofs.Source.Imports
import GoIndex.Proofs.Catalog.Statistics
import GoIndex.Proofs.Index.Walk
import GoIndex.Proofs.Source.Terminator
import GoIndex.Proofs.Command.Limit
import GoIndex.Proofs.Catalog.Lookup
import GoIndex.Proofs.Command.Rendering
import GoIndex.Proofs.Source.LineEnds
import GoIndex.Proofs.Data.Merge
import GoIndex.Proofs.Data.Yaml.Keys
import GoIndex.Proofs.Settings.Layers
import GoIndex.Proofs.Session.Topic
import GoIndex.Proofs.Source.Capture
import GoIndex.Proofs.Source.Methods
