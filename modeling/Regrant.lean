import Regrant.Binding.Candidate
import Regrant.Binding.Hdfs
import Regrant.Binding.Merge
import Regrant.Binding.Ranger
import Regrant.Command.Build
import Regrant.Command.Expand
import Regrant.Command.Output
import Regrant.CommandLine
import Regrant.Csv
import Regrant.Document
import Regrant.Expr.Basic
import Regrant.Expr.Eval
import Regrant.Expr.Fault
import Regrant.Expr.Formula
import Regrant.Expr.Parse
import Regrant.Expr.Token
import Regrant.Expr.Tokenize
import Regrant.Failure
import Regrant.FileTree
import Regrant.Inclusions
import Regrant.Input
import Regrant.Join
import Regrant.Json.Basic
import Regrant.Json.Reader
import Regrant.Location.Host
import Regrant.Location.Path
import Regrant.Location.Percent
import Regrant.Main
import Regrant.Model.Binding
import Regrant.Model.Hdfs
import Regrant.Model.Principal
import Regrant.Model.Ranger
import Regrant.Model.Ruleset
import Regrant.Model.Table
import Regrant.Model.Target
import Regrant.Notice
import Regrant.Number.Binary64
import Regrant.Number.Decimal
import Regrant.Number.Width
import Regrant.PathPattern
import Regrant.Principal.Index
import Regrant.Principal.Mapper
import Regrant.Principal.Merge
import Regrant.Proofs.Build
import Regrant.Proofs.Command
import Regrant.Proofs.Document
import Regrant.Proofs.Expr.Arity
import Regrant.Proofs.Expr.Complete
import Regrant.Proofs.Expr.Cursor
import Regrant.Proofs.Expr.Equality
import Regrant.Proofs.Expr.Grammar
import Regrant.Proofs.Expr.Integers
import Regrant.Proofs.Expr.Scope
import Regrant.Proofs.Expr.Sound
import Regrant.Proofs.Expr.Spelling
import Regrant.Proofs.Failures
import Regrant.Proofs.FileTree
import Regrant.Proofs.Inclusions
import Regrant.Proofs.Join
import Regrant.Proofs.Location.Path
import Regrant.Proofs.Mapping.Coverage
import Regrant.Proofs.Mapping.Dangling
import Regrant.Proofs.Mapping.Features
import Regrant.Proofs.Mapping.Hdfs
import Regrant.Proofs.Mapping.Judging
import Regrant.Proofs.Mapping.Order
import Regrant.Proofs.Mapping.Overrides
import Regrant.Proofs.Mapping.Ranger
import Regrant.Proofs.Merge.Absorb
import Regrant.Proofs.Merge.Collected
import Regrant.Proofs.Merge.Grants
import Regrant.Proofs.Merge.Log
import Regrant.Proofs.Merge.Records
import Regrant.Proofs.Merge.Roles
import Regrant.Proofs.Merge.Stages
import Regrant.Proofs.Merge.Standing
import Regrant.Proofs.Merge.Systems
import Regrant.Proofs.Model.Models
import Regrant.Proofs.Model.Reread
import Regrant.Proofs.Model.Written
import Regrant.Proofs.Number.Rounding
import Regrant.Proofs.Path.Expression
import Regrant.Proofs.Path.Language
import Regrant.Proofs.Path.Recursion
import Regrant.Proofs.Principal.Decision
import Regrant.Proofs.Principal.Expand
import Regrant.Proofs.Principal.Index
import Regrant.Proofs.Principal.Listed
import Regrant.Proofs.Principal.Lookup
import Regrant.Proofs.Principal.Mapper
import Regrant.Proofs.Principal.Merge
import Regrant.Proofs.Principal.Outcome
import Regrant.Proofs.Principal.Union
import Regrant.Proofs.Regex.Group
import Regrant.Proofs.Regex.Literal
import Regrant.Proofs.Regex.Reach
import Regrant.Proofs.Rules.Compilation
import Regrant.Proofs.Rules.Decision
import Regrant.Proofs.Rules.Evaluation
import Regrant.Proofs.Rules.Layers
import Regrant.Proofs.Rules.Precedence
import Regrant.Proofs.Rules.Scope
import Regrant.Proofs.Saturation
import Regrant.Proofs.SortedMap
import Regrant.Proofs.Targets
import Regrant.Proofs.Text
import Regrant.Regex.Basic
import Regrant.Regex.Charset
import Regrant.Regex.Parse
import Regrant.Rules.Decision
import Regrant.Run
import Regrant.Settings.Basic
import Regrant.Settings.Layer
import Regrant.Settings.Load
import Regrant.SortedMap
import Regrant.Source
import Regrant.Text
import Regrant.Toml.Basic
import Regrant.Toml.Reader
import Regrant.Unicode.Casing
import Regrant.Unicode.Category
import Regrant.Unicode.CodePoints
import Regrant.Unicode.Property
import Regrant.Unicode.Script
import Regrant.Yaml.Cursor
import Regrant.Yaml.Node
import Regrant.Yaml.Scalar
import Regrant.Yaml.Style
import Regrant.Yaml.Token
import Regrant.Yaml.Writer
