import SqlText.Assembly
import SqlText.Log.Line
import SqlText.Session.Basic
import SqlText.Store.Held
import SqlText.Store.Basic
import SqlText.Store.Workspace
import SqlText.Proofs.Collecting
import SqlText.Proofs.Calls
import SqlText.Proofs.Embedding
import SqlText.Proofs.Invariant
import SqlText.Proofs.Reachable
import SqlText.Proofs.Stored
import SqlText.Proofs.Canonical
import SqlText.Proofs.Writing
import SqlText.Proofs.Refusal
import SqlText.Proofs.Correspondence.Basic
import SqlText.Proofs.Correspondence.Part
import SqlText.Proofs.Correspondence.Statement
import SqlText.Proofs.Agreement
import SqlText.Proofs.Nesting
import SqlText.Proofs.Combining
import SqlText.Proofs.Ending
import SqlText.Proofs.Omission
import SqlText.Proofs.Occurrence.Basic
import SqlText.Proofs.Occurrence.Part
import SqlText.Proofs.Occurrence.SetOperations
import SqlText.Proofs.Occurrence.Statement
import SqlText.Proofs.Balance
import SqlText.Proofs.Slots.Basic
import SqlText.Proofs.Slots.Calls
import SqlText.Proofs.CallOrder
import SqlText.Proofs.Gating.Basic
import SqlText.Proofs.Gating.Widening
import SqlText.Proofs.Gating.Clearing
import SqlText.Proofs.Isolation.Basic
import SqlText.Proofs.Registration
import SqlText.Proofs.Parameters
import SqlText.Proofs.History
import SqlText.Proofs.Listing
import SqlText.Proofs.Respelling
import SqlText.Proofs.Script
import SqlText.Proofs.Splitting
import SqlText.Proofs.Atomicity
import SqlText.Proofs.Opening
import SqlText.Proofs.Isolation.Calls
import SqlText.Proofs.Isolation.Putting
import SqlText.Proofs.Isolation.Reading
import SqlText.Proofs.Isolation.Copying
import SqlText.Proofs.Isolation.Changing
import SqlText.Proofs.Isolation.Steps
import SqlText.Proofs.Isolation.Simulation
import SqlText.Proofs.Isolation.Workspace
import SqlText.Proofs.Blanking
import SqlText.Proofs.Regrouping
import SqlText.Proofs.Taken
import SqlText.Proofs.Transactions
import SqlText.Proofs.Dropping
import SqlText.Proofs.Rows
import SqlText.Proofs.Leading
import SqlText.Proofs.Recording
import SqlText.Proofs.Emptiness.Part
import SqlText.Proofs.Emptiness.Outline
import SqlText.Proofs.Emptiness.Statement
import SqlText.Proofs.Origin
import SqlText.Proofs.Tidiness.Part
import SqlText.Proofs.Tidiness.Statement
import SqlText.Proofs.Drafts
import SqlText.Proofs.Factories
