import TypeCensus.Main
import TypeCensus.Proofs.Console.Transcript
import TypeCensus.Proofs.Java.Preorder
import TypeCensus.Proofs.Java.Members
import TypeCensus.Proofs.Java.Access
import TypeCensus.Proofs.Java.Comments
import TypeCensus.Proofs.Console.Rounds
import TypeCensus.Proofs.Console.Capacity
import TypeCensus.Proofs.Batch.Capacity
import TypeCensus.Proofs.CommandLine.Options
import TypeCensus.Proofs.Console.Texts
import TypeCensus.Proofs.Program.Agreement
import TypeCensus.Proofs.Disk.Entries
import TypeCensus.Proofs.Disk.Paths
import TypeCensus.Proofs.Walk.Places
import TypeCensus.Proofs.Walk.Extension
import TypeCensus.Proofs.Loading.Isolation
import TypeCensus.Proofs.Program.Outcomes
import TypeCensus.Proofs.Report.Views
import TypeCensus.Proofs.Walk.Listing
import TypeCensus.Proofs.Report.Singletons
import TypeCensus.Proofs.Command.RoundTrip
import TypeCensus.Proofs.Command.Refusals
import TypeCensus.Proofs.Syntax.Faults
import TypeCensus.Proofs.Syntax.Marks
import TypeCensus.Proofs.Report.Thresholds
import TypeCensus.Proofs.Report.Decoding
import TypeCensus.Proofs.Report.Layout
import TypeCensus.Proofs.Glob.Lists
import TypeCensus.Proofs.Walk.Patterns
import TypeCensus.Proofs.Glob.Leading
import TypeCensus.Proofs.Disk.Spelling
import TypeCensus.Proofs.Walk.Relocation
import TypeCensus.Proofs.Disk.Ancestors
import TypeCensus.Proofs.Settings.Search
import TypeCensus.Proofs.Settings.Validity
