import Quartet.Main
import Quartet.Proofs.CodeWord.Reading
import Quartet.Proofs.CodeWord.Bytes
import Quartet.Proofs.Machine.Bounds
import Quartet.Proofs.Run.Course
import Quartet.Proofs.CodeWord.Trimming
import Quartet.Proofs.Run.Layouts
import Quartet.Proofs.Assembly.Commands
import Quartet.Proofs.Run.Program
import Quartet.Proofs.Assembly.Grammar
import Quartet.Proofs.Assembly.Numbering
import Quartet.Proofs.Assembly.Operands
import Quartet.Proofs.Text.Words
import Quartet.Proofs.Text.Breaks
import Quartet.Proofs.Assembly.Listing
import Quartet.Proofs.CodeWord.RoundTrip
import Quartet.Proofs.CodeWord.Agreement
import Quartet.Proofs.Machine.Effect
import Quartet.Proofs.Run.Bits
import Quartet.Proofs.Run.Reach
import Quartet.Proofs.CodeWord.Cutting
import Quartet.Proofs.Run.Joining
import Quartet.Proofs.Run.Telling
import Quartet.Proofs.Run.Account
import Quartet.Proofs.Run.Faultless
import Quartet.Proofs.Assembly.Joining
import Quartet.Proofs.Assembly.Lines
import Quartet.Proofs.Assembly.Replay
import Quartet.Proofs.Disk.Files
import Quartet.Proofs.Report.Records
import Quartet.Proofs.FileTask.Assembling
import Quartet.Proofs.FileTask.Interpreting
import Quartet.Proofs.Check
import Quartet.Proofs.Machine.Semantics
import Quartet.Proofs.Run.History
import Quartet.Proofs.CodeWord.Exact
import Quartet.Proofs.Assembly.Forms
import Quartet.Proofs.Log.Lines
import Quartet.Proofs.Text.Plain
import Quartet.Proofs.Assembly.Strays
import Quartet.Proofs.Program.Story
import Quartet.Proofs.Report.Faithful
import Quartet.Proofs.Text.Delimiting
import Quartet.Proofs.Machine.Window
import Quartet.Proofs.Run.Trace
import Quartet.Proofs.Text.Grid
import Quartet.Proofs.Machine.Table
import Quartet.Proofs.Assembly.Numerals
import Quartet.Proofs.Disk.Devices
import Quartet.Proofs.FileTask.Refusing
import Quartet.Proofs.Machine.InPlace
import Quartet.Proofs.Report.Lines
import Quartet.Proofs.Assembly.Digits
import Quartet.Proofs.Address
