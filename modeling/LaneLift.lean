import LaneLift.Backend.Block
import LaneLift.Backend.Text
import LaneLift.Lane.Run
import LaneLift.Stored.Form
import LaneLift.Lifting.Session
import LaneLift.Lifting.Stepping
import LaneLift.Version
import LaneLift.Proofs.Register.Memory
import LaneLift.Proofs.Lane.Progress
import LaneLift.Proofs.Lane.Appending
import LaneLift.Proofs.Lifting.Body
import LaneLift.Proofs.Lifting.Vector
import LaneLift.Proofs.Lifting.Elementwise
import LaneLift.Proofs.Guest.Decode
import LaneLift.Proofs.Lane.Arithmetic
import LaneLift.Proofs.Lifting.Integer
import LaneLift.Proofs.Backend.Semantics
import LaneLift.Proofs.Backend.Stage
import LaneLift.Proofs.Backend.Simulation
import LaneLift.Proofs.Lifting.Scalar
import LaneLift.Proofs.Lifting.Planning
import LaneLift.Proofs.Lifting.Block
import LaneLift.Proofs.Register.Span
import LaneLift.Proofs.Lane.Float
import LaneLift.Proofs.Guest.Table
import LaneLift.Proofs.Lifting.Float
import LaneLift.Proofs.Lifting.Independence
import LaneLift.Proofs.Lane.Typing
import LaneLift.Proofs.Lane.Building
import LaneLift.Proofs.Lifting.Typing
import LaneLift.Proofs.Guest.Checked
import LaneLift.Proofs.Lifting.Safety
import LaneLift.Proofs.Lifting.Assembly
import LaneLift.Proofs.Lifting.FloatVector
import LaneLift.Proofs.Lifting.Overlay
import LaneLift.Proofs.Lifting.Acceptance
import LaneLift.Proofs.Guest.Encoding
import LaneLift.Proofs.Guest.Matching
import LaneLift.Proofs.Guest.Immediate
import LaneLift.Proofs.Lifting.Immediate
import LaneLift.Proofs.Backend.Typing
import LaneLift.Proofs.Backend.Building
import LaneLift.Proofs.Backend.Compiling
import LaneLift.Proofs.Lane.Noninterference
import LaneLift.Proofs.Text.Separation
import LaneLift.Proofs.Lane.Text
import LaneLift.Proofs.Register.Writing
import LaneLift.Proofs.Lane.Pushing
import LaneLift.Proofs.Lane.Bookkeeping
import LaneLift.Proofs.Lane.Stopping
import LaneLift.Proofs.Lane.Concatenation
import LaneLift.Proofs.Lane.Soundness
import LaneLift.Proofs.Lane.Integers
import LaneLift.Proofs.Lane.Numbering
import LaneLift.Proofs.Lane.Inserting
import LaneLift.Proofs.Settings.Changes
import LaneLift.Proofs.Lifting.Filtering
import LaneLift.Proofs.Lifting.Failing
import LaneLift.Proofs.Lifting.Discipline
