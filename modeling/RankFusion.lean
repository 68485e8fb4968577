import RankFusion.Batch.Basic
import RankFusion.Batch.Merge
import RankFusion.Batch.Slice
import RankFusion.Batch.Sort
import RankFusion.Column.Basic
import RankFusion.Column.Convert
import RankFusion.Column.Type
import RankFusion.Demonstration
import RankFusion.Error
import RankFusion.Error.Issue
import RankFusion.Error.Kind
import RankFusion.Json.Reader
import RankFusion.Log
import RankFusion.Metrics.Basic
import RankFusion.Metrics.History
import RankFusion.Milvus.Call
import RankFusion.Milvus.Distance
import RankFusion.Milvus.Executor
import RankFusion.Milvus.Field
import RankFusion.Milvus.Hit
import RankFusion.Milvus.Result
import RankFusion.Number.Binary
import RankFusion.Number.Decimal
import RankFusion.Number.Numeral
import RankFusion.Number.Rounding
import RankFusion.Number.Scalar
import RankFusion.Number.Text
import RankFusion.Number.Word
import RankFusion.Order.Insertion
import RankFusion.Order.Merge
import RankFusion.Order.Search
import RankFusion.Order.Sort
import RankFusion.Proofs.Batch.Absorption
import RankFusion.Proofs.Batch.Acceptance
import RankFusion.Proofs.Batch.Associativity
import RankFusion.Proofs.Batch.Descending
import RankFusion.Proofs.Batch.Distinct
import RankFusion.Proofs.Batch.Entry
import RankFusion.Proofs.Batch.Lookup
import RankFusion.Proofs.Batch.Merge
import RankFusion.Proofs.Batch.Relabel
import RankFusion.Proofs.Batch.Reorder
import RankFusion.Proofs.Batch.Slice
import RankFusion.Proofs.Batch.Sort
import RankFusion.Proofs.Batch.Soundness
import RankFusion.Proofs.Batch.Symmetry
import RankFusion.Proofs.Column.Admission
import RankFusion.Proofs.Column.Concat
import RankFusion.Proofs.Column.Order
import RankFusion.Proofs.Except
import RankFusion.Proofs.Metrics.History
import RankFusion.Proofs.Milvus.Acceptance
import RankFusion.Proofs.Milvus.Call
import RankFusion.Proofs.Milvus.Contract
import RankFusion.Proofs.Milvus.Conversion
import RankFusion.Proofs.Milvus.Fusion
import RankFusion.Proofs.Milvus.Hit
import RankFusion.Proofs.Milvus.Inference
import RankFusion.Proofs.Milvus.Query
import RankFusion.Proofs.Milvus.Range
import RankFusion.Proofs.Milvus.Ranking
import RankFusion.Proofs.Milvus.Renaming
import RankFusion.Proofs.Milvus.Result
import RankFusion.Proofs.Number.Arithmetic
import RankFusion.Proofs.Number.Interval
import RankFusion.Proofs.Number.Nearest
import RankFusion.Proofs.Number.Order
import RankFusion.Proofs.Number.Rounding
import RankFusion.Proofs.Number.Scalar
import RankFusion.Proofs.Order.Insertion
import RankFusion.Proofs.Order.Merge
import RankFusion.Proofs.Order.Search
import RankFusion.Proofs.Order.Sort
import RankFusion.Proofs.Order.Stable
import RankFusion.Proofs.Query.Calls
import RankFusion.Proofs.Query.Commute
import RankFusion.Proofs.Query.Orchestration
import RankFusion.Proofs.Query.Recording
import RankFusion.Proofs.Query.Report
import RankFusion.Proofs.Query.Rollback
import RankFusion.Proofs.Query.Rules
import RankFusion.Proofs.Query.Schedule
import RankFusion.Proofs.Query.Setting
import RankFusion.Proofs.Query.Window
import RankFusion.Proofs.Request.Assignment
import RankFusion.Proofs.Request.Build
import RankFusion.Proofs.Request.Entries
import RankFusion.Proofs.Request.Fluent
import RankFusion.Proofs.Request.Rules
import RankFusion.Proofs.Request.Strategy
import RankFusion.Proofs.Rerank.Acceptance
import RankFusion.Proofs.Rerank.Candidate
import RankFusion.Proofs.Rerank.Dominance
import RankFusion.Proofs.Rerank.Failure
import RankFusion.Proofs.Rerank.Finite
import RankFusion.Proofs.Rerank.Formula
import RankFusion.Proofs.Rerank.Fuse
import RankFusion.Proofs.Rerank.Independence
import RankFusion.Proofs.Rerank.Monotone
import RankFusion.Proofs.Rerank.Parameter
import RankFusion.Proofs.Rerank.Ranking
import RankFusion.Proofs.Rerank.Relabel
import RankFusion.Proofs.Rerank.Relevance
import RankFusion.Proofs.Rerank.Reorder
import RankFusion.Proofs.Rerank.Score
import RankFusion.Proofs.Rerank.Silence
import RankFusion.Proofs.Rerank.Sturdy
import RankFusion.Proofs.Rerank.Symmetry
import RankFusion.Proofs.Rerank.Table
import RankFusion.Proofs.Settings.Document
import RankFusion.Proofs.Settings.Entries
import RankFusion.Proofs.Settings.Reading
import RankFusion.Proofs.Settings.RoundTrip
import RankFusion.Proofs.Settings.Sections
import RankFusion.Proofs.Settings.Sources
import RankFusion.Proofs.Settings.Strategy
import RankFusion.Proofs.Text.Bytes
import RankFusion.Proofs.Validation.Form
import RankFusion.Proofs.Validation.Reader
import RankFusion.Proofs.Value.Entries
import RankFusion.Proofs.Value.Key
import RankFusion.Proofs.Value.Printable
import RankFusion.Query.Basic
import RankFusion.Query.Builder
import RankFusion.Query.Config
import RankFusion.Query.Distance
import RankFusion.Query.Run
import RankFusion.Query.Tuning
import RankFusion.Request.Attribute
import RankFusion.Request.Basic
import RankFusion.Request.Build
import RankFusion.Rerank.Choice
import RankFusion.Rerank.Fuse
import RankFusion.Rerank.Relevance
import RankFusion.Rerank.Reranker
import RankFusion.Rerank.Table
import RankFusion.Search.Reply
import RankFusion.Search.Request
import RankFusion.Settings.Basic
import RankFusion.Settings.Build
import RankFusion.Settings.Environment
import RankFusion.Settings.File
import RankFusion.Settings.Files
import RankFusion.Settings.Options
import RankFusion.Settings.Section
import RankFusion.Settings.Source
import RankFusion.Settings.VariableFile
import RankFusion.Text.Base64
import RankFusion.Text.Case
import RankFusion.Text.Digit
import RankFusion.Text.Identifier
import RankFusion.Text.Printable
import RankFusion.Text.Quoted
import RankFusion.Text.Range
import RankFusion.Text.Surrogate
import RankFusion.Validation.Basic
import RankFusion.Validation.Form
import RankFusion.Validation.Numeral
import RankFusion.Validation.Reader
import RankFusion.Value
import RankFusion.Value.Array
import RankFusion.Value.Operand
import RankFusion.Yaml.Content
import RankFusion.Yaml.Cursor
import RankFusion.Yaml.Fault
import RankFusion.Yaml.Kind
import RankFusion.Yaml.Lexer
import RankFusion.Yaml.Merge
import RankFusion.Yaml.Moment
import RankFusion.Yaml.Node
import RankFusion.Yaml.Plain
import RankFusion.Yaml.Printer
import RankFusion.Yaml.Scalar
import RankFusion.Yaml.Style
import RankFusion.Yaml.Token
