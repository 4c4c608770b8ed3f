import SheetCabinet.Text.Bytes
import SheetCabinet.Text.Lines
import SheetCabinet.Text.Numeral
import SheetCabinet.Text.Blank
import SheetCabinet.Text.Escaped
import SheetCabinet.Outcome
import SheetCabinet.Path
import SheetCabinet.Table
import SheetCabinet.Files.Error
import SheetCabinet.Files.ByPath
import SheetCabinet.Naming
import SheetCabinet.Sheet.Reader
import SheetCabinet.Control.Record
import SheetCabinet.Store
import SheetCabinet.Diagnostic
import SheetCabinet.Cabinet
import SheetCabinet.Settings.Startup
import SheetCabinet.Command
import SheetCabinet.CommandLine.Run
import SheetCabinet.Main
import SheetCabinet.Proofs.Sheet.Account
import SheetCabinet.Proofs.Sheet.CutBack
import SheetCabinet.Proofs.Sheet.BeforeTrouble
import SheetCabinet.Proofs.Sheet.Truncation
import SheetCabinet.Proofs.Cabinet.NewSheet
import SheetCabinet.Proofs.Cabinet.Counts
import SheetCabinet.Proofs.Cabinet.Deeds
import SheetCabinet.Proofs.Command.Permanence
import SheetCabinet.Proofs.Cabinet.Making
import SheetCabinet.Proofs.Cabinet.Reopening
import SheetCabinet.Proofs.Store.Locks
import SheetCabinet.Proofs.Cabinet.WriteBack
import SheetCabinet.Proofs.Files.Leading
import SheetCabinet.Proofs.Cabinet.Locking
import SheetCabinet.Proofs.Sheet.Canonical
import SheetCabinet.Proofs.Sheet.Numbering
import SheetCabinet.Proofs.Sheet.Staging
import SheetCabinet.Proofs.Cabinet.Bystanders
import SheetCabinet.Proofs.Cabinet.SideBySide
import SheetCabinet.Proofs.Text.Numeral
import SheetCabinet.Proofs.Sheet.Grammar
import SheetCabinet.Proofs.Control.Grammar
import SheetCabinet.Proofs.Files.Named
import SheetCabinet.Proofs.Store.Atomicity
import SheetCabinet.Proofs.Cabinet.Verdict
import SheetCabinet.Proofs.Settings.RoundTrip
import SheetCabinet.Proofs.Settings.History
import SheetCabinet.Proofs.CommandLine.Entries
import SheetCabinet.Proofs.Cabinet.Listed
