import PageTxn.Lock.Script
import PageTxn.Proofs.Canonical
import PageTxn.Proofs.Contents
import PageTxn.Proofs.Counters
import PageTxn.Proofs.Course
import PageTxn.Proofs.Deadlock
import PageTxn.Proofs.Deference
import PageTxn.Proofs.Deletion
import PageTxn.Proofs.Departure
import PageTxn.Proofs.Eviction
import PageTxn.Proofs.Exploration
import PageTxn.Proofs.Faultless
import PageTxn.Proofs.FirstFit
import PageTxn.Proofs.FlushOrder
import PageTxn.Proofs.Footprint
import PageTxn.Proofs.Geometry
import PageTxn.Proofs.Insertion
import PageTxn.Proofs.LockRun
import PageTxn.Proofs.PageArray
import PageTxn.Proofs.Placement
import PageTxn.Proofs.Reliance
import PageTxn.Proofs.Replacement
import PageTxn.Proofs.Rescan
import PageTxn.Proofs.Restoration
import PageTxn.Proofs.Search
import PageTxn.Proofs.Tenure
import PageTxn.Proofs.Truthful
import PageTxn.Proofs.Underway
import PageTxn.Proofs.View
import PageTxn.Proofs.Workload
import PageTxn.Script.Observation
import PageTxn.Text.Digest
