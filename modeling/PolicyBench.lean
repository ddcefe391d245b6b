import PolicyBench.Text.Digit
import PolicyBench.Text.Word
import PolicyBench.Text.Blank
import PolicyBench.Text.Quoted
import PolicyBench.Text.Utf8
import PolicyBench.Text.Lines
import PolicyBench.NameMap
import PolicyBench.Binary64.Arithmetic
import PolicyBench.Count
import PolicyBench.Binary64.Text
import PolicyBench.Metric.Value
import PolicyBench.FileSystem
import PolicyBench.Config.Basic
import PolicyBench.SimLog.Metrics
import PolicyBench.Table.Runs
import PolicyBench.Comparison
import PolicyBench.Summary
import PolicyBench.Csv.Table
import PolicyBench.Analysis
import PolicyBench.Text.OnDemand
import PolicyBench.Json.Number
import PolicyBench.Json.Document
import PolicyBench.Config.Json
import PolicyBench.Cli.World
import PolicyBench.Main
import PolicyBench.Proofs.Binary64.Digits
import PolicyBench.Proofs.Binary64.Exact
import PolicyBench.Proofs.Binary64.Near
import PolicyBench.Proofs.Binary64.Order
import PolicyBench.Proofs.Binary64.Overflow
import PolicyBench.Proofs.Binary64.Positional
import PolicyBench.Proofs.Binary64.Signed
import PolicyBench.Proofs.Binary64.Whole
import PolicyBench.Proofs.Count
import PolicyBench.Proofs.Metric.Text
import PolicyBench.Proofs.Csv.Record
import PolicyBench.Proofs.Csv.Table
import PolicyBench.Proofs.Csv.Export
import PolicyBench.Proofs.Csv.Import
import PolicyBench.Proofs.Csv.Sheet
import PolicyBench.Proofs.Config.Basic
import PolicyBench.Proofs.Table.Runs
import PolicyBench.Proofs.Analysis
import PolicyBench.Proofs.SimLog.Scan
import PolicyBench.Proofs.SimLog.Metrics
import PolicyBench.Proofs.Path
import PolicyBench.Proofs.Config.LogPath
import PolicyBench.Proofs.Config.PolicyName
import PolicyBench.Proofs.Text.Utf8Order
import PolicyBench.Proofs.SimLog.Names
import PolicyBench.Proofs.Table.Schema
import PolicyBench.Proofs.Schema
import PolicyBench.Proofs.Table.Derived
import PolicyBench.Proofs.Table.Collisions
import PolicyBench.Proofs.Table.FirstFault
import PolicyBench.Proofs.Comparison.Justified
import PolicyBench.Proofs.Comparison.Percentages
import PolicyBench.Proofs.Comparison.Ranking
import PolicyBench.Proofs.Comparison.Timing
import PolicyBench.Proofs.Isolation
import PolicyBench.Proofs.Registration
import PolicyBench.Proofs.Logged
import PolicyBench.Proofs.SimLog.Warnings
import PolicyBench.Proofs.SimLog.LineEnds
import PolicyBench.Proofs.Table.Warnings
import PolicyBench.Proofs.Warnings
import PolicyBench.Proofs.Summary.Columns
import PolicyBench.Proofs.Summary.Writing
import PolicyBench.Proofs.FileSystem.Frame
import PolicyBench.Proofs.Cli.Trace
import PolicyBench.Proofs.Cli.Run
import PolicyBench.Proofs.Json.Grammar
import PolicyBench.Proofs.Json.Tokens
import PolicyBench.Proofs.Json.Document
import PolicyBench.Proofs.Json.Number
import PolicyBench.Proofs.Json.Shape
import PolicyBench.Proofs.Json.Scale
import PolicyBench.Proofs.Json.Float
import PolicyBench.Proofs.Json.Writing
import PolicyBench.Proofs.Config.Partial
import PolicyBench.Proofs.Config.Dump
