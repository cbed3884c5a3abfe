import ProgramSupport.EntryPoint
import ProgramSupport.IntArray.WellFormed
import ProgramSupport.Printing.Sink
import ProgramSupport.Session.Report
import ProgramSupport.Proofs.IntArray.Refinement
import ProgramSupport.Proofs.Source.Fills
import ProgramSupport.Proofs.Source.RoundTrip
import ProgramSupport.Proofs.Source.Segmentation
import ProgramSupport.Proofs.Session.Actions
import ProgramSupport.Proofs.Printing.Console
import ProgramSupport.Proofs.Session.Calls
import ProgramSupport.Proofs.Session.Reports
import ProgramSupport.Proofs.Session.Holdings
import ProgramSupport.Proofs.Session.Registers
import ProgramSupport.Proofs.Session.EntryPoints
import ProgramSupport.Proofs.Session.SettingsOnce
import ProgramSupport.Proofs.Session.Forms
import ProgramSupport.Proofs.Session.RandomStream
import ProgramSupport.Proofs.Buffer.Refinement
import ProgramSupport.Proofs.IntArray.Printed
import ProgramSupport.Proofs.Session.Lockstep
import ProgramSupport.Proofs.Session.Entropy
import ProgramSupport.Proofs.Session.Initialization
import ProgramSupport.Proofs.Session.Policies
import ProgramSupport.Proofs.Source.Tokens
import ProgramSupport.Proofs.Source.Lines
import ProgramSupport.Proofs.Session.Logging
import ProgramSupport.Proofs.Printing.Sink
import ProgramSupport.Proofs.Random.Counts
import ProgramSupport.Proofs.Binary64.Printed
import ProgramSupport.Proofs.Text.WholeNumeral
import ProgramSupport.Proofs.Buffer.Pieces
import ProgramSupport.Proofs.IntArray.Growth
import ProgramSupport.Proofs.Buffer.Capacity
import ProgramSupport.Proofs.ByteString.Parts
import ProgramSupport.Proofs.Text.Lossy
