import SqlNotebook.Main
import SqlNotebook.Proofs.Binding.Segment
import SqlNotebook.Proofs.FanOut.Agreement
import SqlNotebook.Proofs.Macro.Describe
import SqlNotebook.Proofs.Macro.Nesting
import SqlNotebook.Proofs.Notebook.Failure
import SqlNotebook.Proofs.Statement.Comments
import SqlNotebook.Proofs.Binding.Quoting
import SqlNotebook.Proofs.Notebook.Cutoff
import SqlNotebook.Proofs.Notebook.Broken
import SqlNotebook.Proofs.Statement.Folding
import SqlNotebook.Proofs.Notebook.LineAndBody
import SqlNotebook.Proofs.Toml.Quoted
import SqlNotebook.Proofs.Toml.Lines
import SqlNotebook.Proofs.Toml.Integers
import SqlNotebook.Proofs.Settings.File
import SqlNotebook.Proofs.Settings.Options
import SqlNotebook.Proofs.Notebook.Saved
import SqlNotebook.Proofs.Binding.Reference
import SqlNotebook.Proofs.FanOut.Placeholder
import SqlNotebook.Proofs.Binding.Stages
import SqlNotebook.Proofs.FanOut.Cancellation
import SqlNotebook.Proofs.FanOut.Connections
import SqlNotebook.Proofs.Notebook.Reporting
import SqlNotebook.Proofs.Notebook.Ownership
import SqlNotebook.Proofs.Macro.Bounds
import SqlNotebook.Proofs.Macro.Balance
import SqlNotebook.Proofs.Macro.Otherwise
import SqlNotebook.Proofs.Notebook.Reset
import SqlNotebook.Proofs.Statement.Pieces
import SqlNotebook.Proofs.Macro.Flags
import SqlNotebook.Proofs.Macro.ListTables
import SqlNotebook.Proofs.Macro.SetOption
import SqlNotebook.Proofs.Token.Stretches
import SqlNotebook.Proofs.Macro.Rejoin
import SqlNotebook.Proofs.Macro.Operands
import SqlNotebook.Proofs.Placeholder.Parts
import SqlNotebook.Proofs.Placeholder.Settled
import SqlNotebook.Proofs.Placeholder.Joined
import SqlNotebook.Proofs.Sql.Rows
import SqlNotebook.Proofs.Sql.Arguments
import SqlNotebook.Proofs.FanOut.UsingLine
import SqlNotebook.Proofs.Settings.Pairs
import SqlNotebook.Proofs.Shell.Grouping
import SqlNotebook.Proofs.ResultTable.Merging
