import Tapewalk.Main
import Tapewalk.Proofs.Display
import Tapewalk.Proofs.Modes
import Tapewalk.Proofs.Simulation
import Tapewalk.Proofs.Wire
import Tapewalk.Proofs.Schema
import Tapewalk.Proofs.Reporting
import Tapewalk.Proofs.Fatality
import Tapewalk.Proofs.Stripping
import Tapewalk.Proofs.Comments
import Tapewalk.Proofs.Partners
import Tapewalk.Proofs.Handles
import Tapewalk.Proofs.Deadlines
import Tapewalk.Proofs.Ticking
import Tapewalk.Proofs.Serving
import Tapewalk.Proofs.Storage
import Tapewalk.Proofs.Pacing
import Tapewalk.Proofs.Feeding
import Tapewalk.Proofs.Unbalanced
import Tapewalk.Proofs.Fields
import Tapewalk.Proofs.Interval
import Tapewalk.Proofs.Cursor
import Tapewalk.Proofs.Dump
import Tapewalk.Proofs.Transcript
