import Resubmit.Demo.BatchGet
import Resubmit.Demo.ThrottledPut
import Resubmit.Demo.Transcript
import Resubmit.Flow.Poll
import Resubmit.Flow.Text
import Resubmit.Main
import Resubmit.Policy.Delay
import Resubmit.Policy.Encoding
import Resubmit.Proofs.Faults
import Resubmit.Proofs.Standstill
import Resubmit.Script
import Resubmit.Simulation.Consumer
import Resubmit.Workbench
import Resubmit.Proofs.Lineage
import Resubmit.Proofs.Buffering
import Resubmit.Proofs.Tally
import Resubmit.Proofs.Census
import Resubmit.Proofs.Resubmission
import Resubmit.Proofs.Timing
import Resubmit.Proofs.Admission
import Resubmit.Proofs.Ending
import Resubmit.Proofs.Waitlist
import Resubmit.Proofs.Heap
import Resubmit.Proofs.Chains
import Resubmit.Proofs.Batches
import Resubmit.Proofs.Literals
import Resubmit.Proofs.Decimals
import Resubmit.Proofs.Scanning
import Resubmit.Proofs.Reading
import Resubmit.Proofs.Spelling
import Resubmit.Proofs.Rounding
import Resubmit.Proofs.Bits
import Resubmit.Proofs.Conversion
import Resubmit.Proofs.Shortest
import Resubmit.Proofs.Alarm
import Resubmit.Proofs.Spread
import Resubmit.Proofs.Reseeding
import Resubmit.Proofs.Draws
import Resubmit.Proofs.Horizon
import Resubmit.Proofs.Descent
import Resubmit.Proofs.Breadth
import Resubmit.Proofs.Gate
import Resubmit.Proofs.Playing
