import Tabular.Text
import Tabular.Integer
import Tabular.Row
import Tabular.Query.Basic
import Tabular.Log.Event
import Tabular.Log.Logged
import Tabular.Log.Settings
import Tabular.Query.Semantics
import Tabular.Delimited
import Tabular.Schema
import Tabular.Table
import Tabular.CommandLine.Arguments
import Tabular.CommandLine.Run
import Tabular.Main
import Tabular.Proofs.Text.Trim
import Tabular.Proofs.Text.Split
import Tabular.Proofs.Text.Utf8
import Tabular.Proofs.Query.Parsing
import Tabular.Proofs.Log.Outcome
import Tabular.Proofs.Query.Printed
import Tabular.Proofs.Query.Printable
import Tabular.Proofs.Query.Outcomes
import Tabular.Proofs.Delimited.Grammar
import Tabular.Proofs.Delimited.Writing
import Tabular.Proofs.Delimited.Reading
import Tabular.Proofs.Integer.Unbounded
import Tabular.Proofs.Integer.Classification
import Tabular.Proofs.Integer.Words
import Tabular.Proofs.Query.Cells
import Tabular.Proofs.Text.EncodedOrder
import Tabular.Proofs.Table.Querying
import Tabular.Proofs.Query.Spelling
import Tabular.Proofs.Query.Surroundings
import Tabular.Proofs.Query.Running
import Tabular.Proofs.Query.Repeating
import Tabular.Proofs.Query.Trail
import Tabular.Proofs.Query.Partition
import Tabular.Proofs.Row
import Tabular.Proofs.Row.Equality
import Tabular.Proofs.Row.Insertion
import Tabular.Proofs.Schema.Collecting
import Tabular.Proofs.Schema.TypedRows
import Tabular.Proofs.Table.Agreement
import Tabular.Proofs.Table.Layout
import Tabular.Proofs.Delimited.Faults
import Tabular.Proofs.Log.Drops
import Tabular.Proofs.Table.Strictness
import Tabular.Proofs.Table.Positions
import Tabular.Proofs.Table.Matching
import Tabular.Proofs.Table.Loading
import Tabular.Proofs.Table.Listing
import Tabular.Proofs.Table.MissingColumns
import Tabular.Proofs.CommandLine.Arguments
import Tabular.Proofs.CommandLine.Log
import Tabular.Proofs.CommandLine.Answers
import Tabular.Proofs.CommandLine.StandardInput
import Tabular.Proofs.Delimited.BlankLines
import Tabular.Proofs.Query.Chaining
import Tabular.Proofs.Text.Lines
import Tabular.Proofs.Delimited.Records
import Tabular.Proofs.Table.Reordering
import Tabular.Proofs.Text.Recovery
import Tabular.Proofs.Json
import Tabular.Proofs.CommandLine.ResultLines
import Tabular.Proofs.Schema.Oversized
