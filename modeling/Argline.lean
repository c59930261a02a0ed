import Argline.Proofs.Range.Reading
import Argline.Proofs.Run.Accounting
import Argline.Proofs.Run.Respelling
import Argline.Proofs.Run.RoundTrip
import Argline.Run.Program
import Argline.Proofs.Run.Inline
import Argline.Proofs.Schema.Distinct
import Argline.Proofs.CommandLine.Scan
import Argline.Proofs.Value.Misreading
import Argline.Proofs.Run.Separation
import Argline.Proofs.Help.Rendering
import Argline.Proofs.Value.Writing
import Argline.Proofs.Run.Endings
import Argline.Proofs.Schema.Precedence
import Argline.Proofs.Run.Decision
import Argline.Proofs.Run.Boundary
import Argline.Proofs.Value.Front
import Argline.Proofs.Run.Recognition
import Argline.Proofs.Run.HelpPage
import Argline.Proofs.Help.Usage
import Argline.Proofs.Schema.Faults
import Argline.Proofs.Schema.Shadowing
import Argline.Proofs.Value.Normal
import Argline.Proofs.Range.Members
import Argline.Proofs.Range.Consumption
import Argline.Proofs.Value.Unambiguous
import Argline.Proofs.Number.Shortest
import Argline.Proofs.Help.Verbatim
import Argline.Proofs.Value.Progress
import Argline.Proofs.Value.Integers
