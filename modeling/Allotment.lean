import Allotment.Audit.LeakChecker
import Allotment.Backend.Built
import Allotment.Block.Distinct
import Allotment.Block.Ledger
import Allotment.Boundary.Session
import Allotment.Churn.Replay
import Allotment.Pool.ItemPool
import Allotment.Proofs.Arena.Carving
import Allotment.Proofs.Arena.Storing
import Allotment.Proofs.Arena.Counting
import Allotment.Proofs.Lending.History
import Allotment.Proofs.Lending.Verdict
import Allotment.Proofs.Lending.Tally
import Allotment.Proofs.Segregated.Run
import Allotment.Proofs.Lending.Books
import Allotment.Proofs.Segregated.Soundness
import Allotment.Proofs.Segregated.Disjointness
import Allotment.Proofs.Segregated.Crowding
import Allotment.Proofs.Segregated.ReleaseCheck
import Allotment.Proofs.Segregated.CheckedCalls
import Allotment.Proofs.Lending.Ledger
import Allotment.Proofs.Lending.Demand
import Allotment.Proofs.Segregated.Carvings
import Allotment.Proofs.Segregated.Census
import Allotment.Proofs.Segregated.Conservation
import Allotment.Proofs.Segregated.PeakDemand
import Allotment.Proofs.Lending.Resets
import Allotment.Proofs.Segregated.Resolution
import Allotment.Proofs.Lending.Waiting
import Allotment.Proofs.Segregated.ReuseOrder
import Allotment.Proofs.Lending.Custody
import Allotment.Proofs.Segregated.Lender
import Allotment.Proofs.System.Soundness
import Allotment.Proofs.Audit.Index
import Allotment.Proofs.Audit.Lender
import Allotment.Proofs.Audit.Agreement
import Allotment.Proofs.Audit.Stranded
import Allotment.Proofs.Audit.Record
import Allotment.Proofs.System.Lender
import Allotment.Proofs.System.ReleaseCheck
import Allotment.Proofs.System.SlotTable
import Allotment.Proofs.Audit.Places
import Allotment.Proofs.Threading
import Allotment.Proofs.Boundary.Encodings
import Allotment.Proofs.Boundary.Keys
import Allotment.Proofs.Boundary.KeyHistory
import Allotment.Proofs.Boundary.Serving
import Allotment.Proofs.Boundary.Lives
import Allotment.Proofs.Boundary.Crowding
import Allotment.Proofs.Lending.Contents
import Allotment.Proofs.Boundary.Isolation
import Allotment.Proofs.Boundary.Courses
import Allotment.Proofs.Boundary.Failures
import Allotment.Proofs.Boundary.Writing
import Allotment.Proofs.Pool.Cells
import Allotment.Proofs.Pool.Machine
import Allotment.Proofs.Pool.Growth
import Allotment.Proofs.Pool.Thread
import Allotment.Proofs.Renaming
import Allotment.Proofs.Lending.Epochs
import Allotment.Proofs.Segregated.Epochs
import Allotment.Proofs.Pool.Epochs
import Allotment.Proofs.Resetting
import Allotment.Proofs.Churn.Drive
import Allotment.Proofs.Churn.Odds
import Allotment.Proofs.Churn.Drawing
import Allotment.Proofs.Churn.Keeping
import Allotment.Proofs.Churn.WordStores
import Allotment.Proofs.Churn.ItemStores
import Allotment.Proofs.Churn.Survivors
import Allotment.Proofs.Churn.Cleanup
import Allotment.Proofs.Segregated.Fragmentation
import Allotment.Proofs.Segregated.Supply
import Allotment.Proofs.Segregated.Placement
import Allotment.Proofs.Unchecked
import Allotment.Proofs.Arena.Filling
