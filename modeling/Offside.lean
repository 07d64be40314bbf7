import Offside.CommandLine.FileTree
import Offside.CommandLine.Run
import Offside.Cursor
import Offside.Main
import Offside.Proofs.Braces.Openers
import Offside.Proofs.Checkpoint.Verification
import Offside.Proofs.Lines.Dedent
import Offside.Proofs.Lines.LeadTable
import Offside.Proofs.Lines.OffsideRule
import Offside.Proofs.Reading.Literal
import Offside.Proofs.Reading.Probes
import Offside.Proofs.Session.BlankLines
import Offside.Proofs.Session.EndMark
import Offside.Proofs.Session.Locality
import Offside.Proofs.Session.Resumption
import Offside.Proofs.Session.Spelling
import Offside.Proofs.Session.Tabs
import Offside.Proofs.Session.Tiling
import Offside.Proofs.Session.Truncation
import Offside.Proofs.Lines.Draining
import Offside.Proofs.Reading.Bookkeeping
import Offside.Proofs.Report.Table
import Offside.Proofs.Session.BraceLevel
import Offside.Proofs.Reading.Skipping
