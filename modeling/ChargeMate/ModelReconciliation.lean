import ChargeMate.ModelSystem

/-! `reconcile_pending_refunds` of `maintenance/service.py` as one call, with the fetcher it is
given. A job of the system is this call cut into its transactions. -/

namespace ChargeMate

/-- What the fetcher returns of the refund of a snapshot, or raises. -/
abbrev RefundFetcher := RefundSnapshot → Except Raised RazorpayRefund

structure ReconciliationCounts where
  checked : Nat
  processed : Nat
  failed : Nat
  errors : Nat
  deriving DecidableEq

/-- `counts[outcome] += 1`, or an error if the fetcher has raised. -/
def ReconciliationCounts.add (counts : ReconciliationCounts) :
    Option ReconciliationOutcome → ReconciliationCounts
  | none => { counts with errors := counts.errors + 1 }
  | some (.provider .processed) => { counts with processed := counts.processed + 1 }
  | some (.provider .failed) => { counts with failed := counts.failed + 1 }
  | some _ => counts

/-- A call: the snapshots it has passed to the fetcher, what it has counted, the exception that has
left it, and the database. -/
structure ReconciliationCall where
  fetched : List RefundSnapshot
  counts : ReconciliationCounts
  raised : Option Raised
  db : Database

/-- What the loop does with what the fetcher has returned or raised. -/
def reconcileFetched (refundId : Uuid) (fetched : Except Raised RazorpayRefund) (now : Timestamp)
    (db : Database) : Except Raised (Option ReconciliationOutcome) × Database :=
  match fetched with
  | .error .razorpayRefundError => (.ok none, db)
  | .error e => (.error e, db)
  | .ok providerRefund =>
      let outcome := applyReconciledRefund refundId providerRefund now db
      (outcome.1.map some, outcome.2)

section

variable (fetcher : RefundFetcher) (clock : RefundSnapshot → Timestamp)

def reconcileLoop : List RefundSnapshot → ReconciliationCall → ReconciliationCall
  | [], call => call
  | snapshot :: rest, call =>
      let outcome := reconcileFetched snapshot.refundId (fetcher snapshot) (clock snapshot) call.db
      let call := {
        call with
        fetched := call.fetched ++ [snapshot]
        counts := { call.counts with checked := call.counts.checked + 1 }
        db := outcome.2 }
      match outcome.1 with
      | .error e => { call with raised := some e }
      | .ok result => reconcileLoop rest { call with counts := call.counts.add result }

/-- Fetch pending refund states without holding locks during HTTP calls. -/
def reconcilePendingRefunds (batchSize : Nat) (db : Database) : ReconciliationCall :=
  reconcileLoop fetcher clock (pendingRefundSnapshots batchSize db) {
    fetched := []
    counts := ⟨0, 0, 0, 0⟩
    raised := none
    db }

end

section

variable (fetchers : Nat → RefundFetcher) (clocks : Nat → RefundSnapshot → Timestamp)
  (batchSize : Nat) (db : Database)

/-- The database after some calls with nothing between them. -/
def afterReconciliations : Nat → Database
  | 0 => db
  | k + 1 => (reconcilePendingRefunds (fetchers k) (clocks k) batchSize (afterReconciliations k)).db

/-- The call number `k`. -/
def reconciliationCall (k : Nat) : ReconciliationCall :=
  reconcilePendingRefunds (fetchers k) (clocks k) batchSize
    (afterReconciliations fetchers clocks batchSize db k)

end

end ChargeMate
