import Reckon.Main
import Reckon.Proofs.Literals
import Reckon.Proofs.Running
import Reckon.Proofs.RoundTrip
import Reckon.Proofs.Joining
import Reckon.Proofs.Stripping
import Reckon.Workbench.Render
import Reckon.Proofs.Pruning
import Reckon.Proofs.Bounds
import Reckon.Proofs.Lines
import Reckon.Proofs.Recall
import Reckon.Proofs.Editing
import Reckon.Proofs.Retention
import Reckon.Proofs.Sessions
import Reckon.Proofs.FirstFailure
import Reckon.Proofs.Provenance
import Reckon.Proofs.EarliestFault
import Reckon.Proofs.Spans
import Reckon.Proofs.Rounding
import Reckon.Proofs.Numerals
import Reckon.Proofs.Display
import Reckon.Proofs.Log
import Reckon.Proofs.Stages
import Reckon.Proofs.Highlighting
import Reckon.Proofs.Outlines
import Reckon.Proofs.Scrolling
import Reckon.Proofs.Scanning
import Reckon.Proofs.Walking
import Reckon.Proofs.InputCursor
