import DesignTokens.Character.BreakValue
import DesignTokens.Character.Case
import DesignTokens.Character.Category
import DesignTokens.Character.Class
import DesignTokens.Character.Edition
import DesignTokens.Character.Letter
import DesignTokens.Character.Property
import DesignTokens.Character.RangeTable
import DesignTokens.Character.RangeTable.Algebra
import DesignTokens.Character.Script
import DesignTokens.CommandLine.Command
import DesignTokens.CommandLine.Program
import DesignTokens.CommandLine.Reader
import DesignTokens.Config.Basic
import DesignTokens.Config.Builtin
import DesignTokens.Config.Decode
import DesignTokens.Config.Resolve
import DesignTokens.Disk.Basic
import DesignTokens.Disk.Fault
import DesignTokens.Disk.Replace
import DesignTokens.Disk.Storage
import DesignTokens.Disk.Tree
import DesignTokens.Finding
import DesignTokens.Fix
import DesignTokens.Glob
import DesignTokens.Import.Clause
import DesignTokens.Import.Declaration
import DesignTokens.Import.Edit
import DesignTokens.Import.Outline
import DesignTokens.Import.Statement
import DesignTokens.Main
import DesignTokens.Names
import DesignTokens.Path
import DesignTokens.Pattern.Automaton
import DesignTokens.Pattern.ByteRange
import DesignTokens.Pattern.CharClass
import DesignTokens.Pattern.Expr
import DesignTokens.Pattern.Layout
import DesignTokens.Pattern.Match
import DesignTokens.Pattern.Quote
import DesignTokens.Pattern.Reader
import DesignTokens.Pattern.Template
import DesignTokens.Report.Basic
import DesignTokens.Report.Json
import DesignTokens.Report.Listing
import DesignTokens.Report.Markdown
import DesignTokens.Rule.Canonical
import DesignTokens.Rule.Error
import DesignTokens.Rule.Listing
import DesignTokens.Rule.RuleSet
import DesignTokens.Run
import DesignTokens.Scan
import DesignTokens.Text.Basic
import DesignTokens.Text.Line
import DesignTokens.Text.Search
import DesignTokens.Text.Utf8
import DesignTokens.Text.Word
import DesignTokens.Toml.Document
import DesignTokens.Toml.Quoted
import DesignTokens.Toml.Scalar
import DesignTokens.Toml.Value
import DesignTokens.Walk
import DesignTokens.Proofs.Character.Disjoint
import DesignTokens.Proofs.Text.Parts
import DesignTokens.Proofs.Import.StatementForm
import DesignTokens.Proofs.Import.OutlineEdit
import DesignTokens.Proofs.Import.BlockEdit
import DesignTokens.Proofs.Import.Ensure
import DesignTokens.Proofs.Import.EnsureLaws
import DesignTokens.Proofs.Fix.RulesOnly
import DesignTokens.Proofs.Pattern.Quote
import DesignTokens.Proofs.Pattern.Reading
import DesignTokens.Proofs.Rule.FontWeight
import DesignTokens.Proofs.Rule.Weightless
import DesignTokens.Proofs.Names.Table
import DesignTokens.Proofs.Fix.Requirements
import DesignTokens.Proofs.Fix.Imports
import DesignTokens.Proofs.Disk.Place
import DesignTokens.Proofs.Path
import DesignTokens.Proofs.Disk.Below
import DesignTokens.Proofs.Walk.Files
import DesignTokens.Proofs.Run.Fate
import DesignTokens.Proofs.Run.Effect
import DesignTokens.Proofs.Disk.Replacement
import DesignTokens.Proofs.Run.World
import DesignTokens.Proofs.Run.DryRun
import DesignTokens.Proofs.Text.Lines
import DesignTokens.Proofs.Import.Growth
import DesignTokens.Proofs.Import.Frame
import DesignTokens.Proofs.Fix.Unresolved
import DesignTokens.Proofs.Fix.Bindings
import DesignTokens.Proofs.Names.Convergence
import DesignTokens.Proofs.Names.Rewriting
import DesignTokens.Proofs.Import.Reading
import DesignTokens.Proofs.Fix.Builtin
import DesignTokens.Proofs.Walk.Order
import DesignTokens.Proofs.Pattern.Find
import DesignTokens.Proofs.Scan.Report
import DesignTokens.Proofs.Rule.Faults
import DesignTokens.Proofs.Fix.Uses
import DesignTokens.Proofs.Import.Editable
import DesignTokens.Proofs.Import.Merging
import DesignTokens.Proofs.Fix.Lines
import DesignTokens.Proofs.Report.Accounting
import DesignTokens.Proofs.Rule.Quoted
import DesignTokens.Proofs.Rule.Usage
import DesignTokens.Proofs.Disk.Atomic
import DesignTokens.Proofs.Declaration.Destructuring
import DesignTokens.Proofs.Declaration.Separation
import DesignTokens.Proofs.Import.Spans
import DesignTokens.Proofs.Import.LineEnds
