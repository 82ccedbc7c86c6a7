import ChargeMate.FoundationRounds
import ChargeMate.ModelReconciliation
import ChargeMate.SafetyAnswers

/-! Which refunds the reconciliation reaches. Consecutive calls are rounds over the queue of pending
refunds: a refund whose answer is neither processed nor failed stands in front of the next batch
again. -/

namespace ChargeMate

open Relational

/-- The refunds PENDING with provider identifiers, in the order of the job. -/
def pendingRefunds (db : Database) : List RefundSnapshot :=
  (db.refunds.rows.insertionSort fun a b => refundOrder a b).filterMap (refundSnapshot db)

theorem pendingRefundSnapshots_eq (batchSize : Nat) (db : Database) :
    pendingRefundSnapshots batchSize db = (pendingRefunds db).take batchSize := rfl

theorem refundSnapshot_eq_some {db : Database} {r : Refund} {snapshot : RefundSnapshot}
    (h : refundSnapshot db r = some snapshot) :
    snapshot.refundId = r.id ∧ r.status = .pending ∧
      ∃ p, db.payments.find r.paymentId = some p := by
  simp only [refundSnapshot, Option.bind_eq_bind, Option.bind_eq_some_iff] at h
  obtain ⟨p, hp, providerRefundId, -, providerPaymentId, -, hsnapshot⟩ := h
  rw [Option.ite_none_right_eq_some] at hsnapshot
  obtain ⟨hpending, hsnapshot⟩ := hsnapshot
  cases hsnapshot
  exact ⟨rfl, hpending, p, hp⟩

theorem refundSnapshot_of_not_pending {db : Database} {r : Refund} (h : r.status ≠ .pending) :
    refundSnapshot db r = none := by
  rw [Option.eq_none_iff_forall_ne_some]
  exact fun snapshot hsnapshot => h (refundSnapshot_eq_some hsnapshot).2.1

/-- A snapshot reads one column of the payment. -/
theorem refundSnapshot_congr {db db' : Database} {r : Refund}
    (h : (db'.payments.find r.paymentId).map Payment.providerPaymentId =
      (db.payments.find r.paymentId).map Payment.providerPaymentId) :
    refundSnapshot db' r = refundSnapshot db r := by
  unfold refundSnapshot
  cases hp : db.payments.find r.paymentId with
  | none =>
      rw [hp, Option.map_none, Option.map_eq_none_iff] at h
      rw [h]
  | some p =>
      rw [hp, Option.map_some, Option.map_eq_some_iff] at h
      obtain ⟨p', hp', hprovider⟩ := h
      rw [hp']
      simp only [Option.bind_eq_bind, Option.bind_some, hprovider]

theorem mem_pendingRefunds {db : Database} {snapshot : RefundSnapshot} :
    snapshot ∈ pendingRefunds db ↔ ∃ r ∈ db.refunds, refundSnapshot db r = some snapshot := by
  simp only [pendingRefunds, List.mem_filterMap, List.mem_insertionSort, Table.mem_def]

theorem nodup_pendingRefunds (db : Database) : (pendingRefunds db).Nodup := by
  have hids : (db.refunds.rows.insertionSort fun a b => refundOrder a b).Pairwise
      fun r s => r.id ≠ s.id := by
    have hperm := List.perm_insertionSort (fun a b => refundOrder a b = true) db.refunds.rows
    exact List.pairwise_map.mp ((hperm.map Refund.id).nodup_iff.mpr db.refunds.nodup_keys)
  refine List.Pairwise.filterMap (refundSnapshot db) ?_ hids
  intro r s hne snapshot hr snapshot' hs hsame
  rw [hsame] at hr
  exact hne ((refundSnapshot_eq_some hr).1.symm.trans (refundSnapshot_eq_some hs).1)

/-- A refund that leaves the state PENDING leaves the queue, and the others keep their order. -/
theorem pendingRefunds_set {db db' : Database} {r r' : Refund} {snapshot : RefundSnapshot}
    (hr : r ∈ db.refunds) (hsnapshot : refundSnapshot db r = some snapshot)
    (hrefunds : db'.refunds = db.refunds.set r') (hid : r'.id = r.id)
    (hcreated : r'.createdAt = r.createdAt) (hstatus : r'.status ≠ .pending)
    (hpayments : ∀ k, (db'.payments.find k).map Payment.providerPaymentId =
      (db.payments.find k).map Payment.providerPaymentId) :
    pendingRefunds db' = (pendingRefunds db).filter fun s => decide (s ≠ snapshot) := by
  let put : Refund → Refund := fun s => if key s = key r' then r' else s
  have hsame : ∀ s ∈ db.refunds.rows, key s = key r' → s = r := fun s hs hk =>
    Table.eq_of_key_eq hs hr (hk.trans hid)
  have hput : ∀ s ∈ db.refunds.rows, (put s).id = s.id ∧ (put s).createdAt = s.createdAt := by
    intro s hs
    by_cases hk : key s = key r'
    · simp only [put, if_pos hk]
      rw [hsame s hs hk]
      exact ⟨hid, hcreated⟩
    · simp only [put, if_neg hk, and_self]
  have hsort : (db.refunds.rows.map put).insertionSort (fun a b => refundOrder a b) =
      (db.refunds.rows.insertionSort fun a b => refundOrder a b).map put := by
    symm
    apply List.map_insertionSort
    intro a ha b hb
    simp only [refundOrder, hput a ha, hput b hb]
  have hrows : db'.refunds.rows = db.refunds.rows.map put := by
    rw [hrefunds]
    rfl
  rw [pendingRefunds, hrows, hsort, pendingRefunds, List.filterMap_map, List.filter_filterMap]
  apply List.filterMap_congr
  intro s hs
  have hmem : s ∈ db.refunds.rows := (List.mem_insertionSort _).mp hs
  by_cases hk : key s = key r'
  · obtain rfl := hsame s hmem hk
    simp only [Function.comp_apply, put, if_pos hk]
    rw [refundSnapshot_of_not_pending hstatus, hsnapshot, Option.filter_some]
    simp
  · simp only [Function.comp_apply, put, if_neg hk]
    rw [refundSnapshot_congr (hpayments s.paymentId)]
    cases ht : refundSnapshot db s with
    | none => rfl
    | some t =>
        symm
        apply Option.filter_some_pos
        apply decide_eq_true
        rintro rfl
        have hsid := (refundSnapshot_eq_some ht).1.symm.trans (refundSnapshot_eq_some hsnapshot).1
        exact hk (hsid.trans hid.symm)

theorem uniqueColumn_of_map {R V : Type} [Keyed R Uuid] [DecidableEq V] {t t' : Table R}
    (column : R → Option V)
    (h : t'.rows.map (fun r => (key r, column r)) = t.rows.map fun r => (key r, column r))
    (hunique : ∀ r ∈ t, uniqueColumn t column r = true) :
    ∀ r ∈ t', uniqueColumn t' column r = true := by
  have hstored : ∀ r' ∈ t', ∃ r ∈ t, key r = key r' ∧ column r = column r' := by
    intro r' hr'
    have hmem : (key r', column r') ∈ t.rows.map fun r => (key r, column r) :=
      h ▸ List.mem_map.mpr ⟨r', hr', rfl⟩
    obtain ⟨r, hr, heq⟩ := List.mem_map.mp hmem
    exact ⟨r, hr, Prod.mk.inj heq⟩
  intro r' hr'
  obtain ⟨r, hr, hkey, hcolumn⟩ := hstored r' hr'
  rw [uniqueColumn_eq_true]
  intro v hv s' hs' hsv
  obtain ⟨s, hs, hkey', hcolumn'⟩ := hstored s' hs'
  rw [← hkey, ← hkey']
  exact uniqueColumn_eq_true.mp (hunique r hr) v (hcolumn.trans hv) s hs (hcolumn'.trans hsv)

section

variable {db : Database} {r : Refund} {p : Payment} {now : Timestamp}
  {verdict : RazorpayRefundStatus}

theorem Refund.reconciled_columns (r : Refund) (now : Timestamp) (verdict : RazorpayRefundStatus) :
    (r.reconciled now verdict).id = r.id ∧ (r.reconciled now verdict).createdAt = r.createdAt ∧
      (r.reconciled now verdict).providerRefundId = r.providerRefundId := by
  cases verdict <;> exact ⟨rfl, rfl, rfl⟩

theorem Payment.reconciled_columns (p : Payment) (verdict : RazorpayRefundStatus) :
    (p.reconciled verdict).id = p.id ∧ (p.reconciled verdict).providerOrderId = p.providerOrderId ∧
      (p.reconciled verdict).providerPaymentId = p.providerPaymentId := by
  cases verdict <;> exact ⟨rfl, rfl, rfl⟩

/-- A verdict leaves the provider's identifiers of every payment. -/
theorem map_payments_reconciled {C : Type} (r : Refund) (now : Timestamp) (hp : p ∈ db.payments)
    (column : Payment → C) (h : column (p.reconciled verdict) = column p) :
    (db.reconciled r p now verdict).payments.rows.map column = db.payments.rows.map column := by
  apply db.payments.map_set column
  intro q hq hkey
  rw [h, Table.eq_of_key_eq hq hp (hkey.trans (p.reconciled_columns verdict).1)]

theorem Database.Updatable.reconciled (h : db.Updatable) (hr : r ∈ db.refunds)
    (hp : p ∈ db.payments) : (db.reconciled r p now verdict).Updatable := by
  obtain ⟨hid, horder, hpayment⟩ := p.reconciled_columns verdict
  obtain ⟨hrid, -, hprovider⟩ := r.reconciled_columns now verdict
  have hput : db.updateRefund (r.reconciled now verdict) =
      .ok { db with refunds := db.refunds.set (r.reconciled now verdict) } :=
    Database.updateRefund_eq_ok.mpr ⟨(h.fits.refunds r hr).congr hrid hprovider, rfl⟩
  have hpay : ({ db with refunds := db.refunds.set (r.reconciled now verdict) } :
      Database).updatePayment (p.reconciled verdict) = .ok (db.reconciled r p now verdict) :=
    Database.updatePayment_eq_ok.mpr ⟨(h.payments p hp).congr rfl hid horder hpayment, rfl⟩
  have hfits : (db.reconciled r p now verdict).Fits := (h.fits.updateRefund hput).updatePayment hpay
  have horders := uniqueColumn_of_map Payment.providerOrderId
    (map_payments_reconciled r now hp _ (by rw [Payment.key_eq, hid, horder]; rfl))
    fun q hq => (h.payments q hq).order
  have hpins := uniqueColumn_of_map Payment.providerPaymentId
    (map_payments_reconciled r now hp _ (by rw [Payment.key_eq, hid, hpayment]; rfl))
    fun q hq => (h.payments q hq).payment
  refine ⟨hfits, fun q hq => ?_⟩
  exact ⟨(hfits.payments q hq).1, (hfits.payments q hq).2, horders q hq, hpins q hq⟩

theorem pendingRefunds_reconciled {snapshot : RefundSnapshot} (hr : r ∈ db.refunds)
    (hp : db.payments.find r.paymentId = some p) (hsnapshot : refundSnapshot db r = some snapshot)
    (now : Timestamp) (hfinal : verdict ≠ .pending) :
    pendingRefunds (db.reconciled r p now verdict) =
      (pendingRefunds db).filter fun s => decide (s ≠ snapshot) := by
  obtain ⟨hid, hcreated, -⟩ := r.reconciled_columns now verdict
  apply pendingRefunds_set hr hsnapshot rfl hid hcreated
  · cases verdict with
    | processed | failed => exact RefundStatus.noConfusion
    | pending => exact absurd rfl hfinal
  · intro k
    have hkey : key (p.reconciled verdict) = r.paymentId :=
      (p.reconciled_columns verdict).1.trans (Table.key_of_find hp)
    have hold : db.payments.find (key (p.reconciled verdict)) = some p := hkey ▸ hp
    have hfind := Table.find_set hold k
    rw [Database.reconciled, hfind]
    split
    · next hk =>
      rw [← hk, hold, Option.map_some, Option.map_some, (p.reconciled_columns verdict).2.2]
    · rfl

end

/-! ### One call -/

/-- The provider's answer settles the refund. -/
def RefundFetcher.settles (fetcher : RefundFetcher) (snapshot : RefundSnapshot) : Bool :=
  match fetcher snapshot with
  | .ok providerRefund => providerRefund.status ≠ .pending
  | .error _ => false

/-- The fetcher returns an answer or raises `RazorpayRefundError`. -/
def RefundFetcher.Answers (fetcher : RefundFetcher) : Prop :=
  ∀ snapshot e, fetcher snapshot = .error e → e = .razorpayRefundError

section

variable {fetcher : RefundFetcher}

/-- One turn of the loop, for a refund of the queue. -/
theorem reconcileFetched_spec (hfetcher : fetcher.Answers) {db : Database} (h : db.Updatable)
    {snapshot : RefundSnapshot} (hs : snapshot ∈ pendingRefunds db) (now : Timestamp) :
    ∃ result db', reconcileFetched snapshot.refundId (fetcher snapshot) now db = (.ok result, db') ∧
      db'.Updatable ∧ pendingRefunds db' =
        (pendingRefunds db).filter fun s => !(decide (s = snapshot) && fetcher.settles s) := by
  have hkept : fetcher.settles snapshot = false → pendingRefunds db =
      (pendingRefunds db).filter fun s => !(decide (s = snapshot) && fetcher.settles s) := by
    intro hsettles
    symm
    apply List.filter_eq_self.mpr
    intro s _
    by_cases hs : s = snapshot
    · rw [hs, hsettles, Bool.and_false, Bool.not_false]
    · rw [decide_eq_false hs, Bool.false_and, Bool.not_false]
  cases hfetch : fetcher snapshot with
  | error e =>
      obtain rfl := hfetcher snapshot e hfetch
      exact ⟨none, db, rfl, h, hkept (by rw [RefundFetcher.settles, hfetch])⟩
  | ok providerRefund =>
      obtain ⟨r, hr, hsnapshot⟩ := mem_pendingRefunds.mp hs
      obtain ⟨hid, hpending, p, hp⟩ := refundSnapshot_eq_some hsnapshot
      have hfind : db.refunds.find snapshot.refundId = some r := by
        rw [hid]
        exact Table.find_key hr
      have happly := h.applyReconciledRefund_eq hfind hpending hp providerRefund now
      refine ⟨some (.provider providerRefund.status),
        db.reconciled r p now providerRefund.status, ?_, h.reconciled hr (Table.mem_of_find hp), ?_⟩
      · simp only [reconcileFetched, happly]
        rfl
      · by_cases hfinal : providerRefund.status = .pending
        · rw [hfinal, Database.reconciled_pending hr (Table.mem_of_find hp)]
          apply hkept
          simp [RefundFetcher.settles, hfetch, hfinal]
        · rw [pendingRefunds_reconciled hr hp hsnapshot now hfinal]
          have hsettles : fetcher.settles snapshot = true := by
            simp [RefundFetcher.settles, hfetch, hfinal]
          apply List.filter_congr
          intro s _
          by_cases hs : s = snapshot
          · simp [hs, hsettles]
          · simp [hs]

theorem reconcileLoop_spec (hfetcher : fetcher.Answers) (clock : RefundSnapshot → Timestamp)
    {snapshots : List RefundSnapshot} (hnodup : snapshots.Nodup) (call : ReconciliationCall)
    (h : call.db.Updatable) (hsub : snapshots ⊆ pendingRefunds call.db) :
    let call' := reconcileLoop fetcher clock snapshots call
    call'.fetched = call.fetched ++ snapshots ∧ call'.raised = call.raised ∧ call'.db.Updatable ∧
      pendingRefunds call'.db = (pendingRefunds call.db).filter fun s =>
        !(decide (s ∈ snapshots) && fetcher.settles s) := by
  induction snapshots generalizing call with
  | nil =>
      refine ⟨(List.append_nil _).symm, rfl, h, ?_⟩
      exact (List.filter_eq_self.mpr fun s _ => by simp).symm
  | cons snapshot rest ih =>
      obtain ⟨hnew, hrest⟩ := List.nodup_cons.mp hnodup
      obtain ⟨result, db', hfetched, hupdatable, hqueue⟩ :=
        reconcileFetched_spec hfetcher h (hsub List.mem_cons_self) (clock snapshot)
      have hsub' : rest ⊆ pendingRefunds db' := by
        intro s hs
        rw [hqueue, List.mem_filter]
        have hne : s ≠ snapshot := fun heq => hnew (heq ▸ hs)
        exact ⟨hsub (List.mem_cons_of_mem _ hs), by simp [hne]⟩
      let next : ReconciliationCall := {
        fetched := call.fetched ++ [snapshot]
        counts := { call.counts with checked := call.counts.checked + 1 }.add result
        raised := call.raised
        db := db' }
      have hloop : reconcileLoop fetcher clock (snapshot :: rest) call =
          reconcileLoop fetcher clock rest next := by
        simp only [reconcileLoop, hfetched, next]
      obtain ⟨hcalls, hraised, hdone, hleft⟩ := ih hrest next hupdatable hsub'
      rw [hloop]
      refine ⟨?_, hraised, hdone, ?_⟩
      · rw [hcalls, List.append_assoc, List.singleton_append]
      · rw [hleft]
        simp only [next, hqueue, List.filter_filter]
        apply List.filter_congr
        intro s _
        by_cases hs : s = snapshot
        · simp [hs, hnew]
        · simp [hs]

end

/-! ### Consecutive calls -/

section

/-- One call fetches the first of the queue and takes out those that it settles. -/
theorem reconcilePendingRefunds_spec {fetcher : RefundFetcher} (hfetcher : fetcher.Answers)
    (clock : RefundSnapshot → Timestamp) (batchSize : Nat) {db : Database} (h : db.Updatable) :
    let call := reconcilePendingRefunds fetcher clock batchSize db
    call.fetched = (pendingRefunds db).take batchSize ∧ call.raised = none ∧ call.db.Updatable ∧
      pendingRefunds call.db = (pendingRefunds db).filter fun s =>
        !(decide (s ∈ (pendingRefunds db).take batchSize) && fetcher.settles s) := by
  unfold reconcilePendingRefunds
  rw [pendingRefundSnapshots_eq]
  have hnodup := (nodup_pendingRefunds db).sublist (List.take_sublist batchSize _)
  exact reconcileLoop_spec hfetcher clock hnodup ⟨[], ⟨0, 0, 0, 0⟩, none, db⟩ h
    (List.take_subset _ _)

variable {fetchers : Nat → RefundFetcher} (clocks : Nat → RefundSnapshot → Timestamp)
  {db : Database}

/-- Calls with nothing between them are rounds over the queue. -/
theorem afterReconciliations_spec (hfetchers : ∀ k, (fetchers k).Answers) (h : db.Updatable)
    (batchSize k : Nat) :
    (afterReconciliations fetchers clocks batchSize db k).Updatable ∧
      pendingRefunds (afterReconciliations fetchers clocks batchSize db k) =
        Rounds.remaining batchSize (fun k => (fetchers k).settles) (pendingRefunds db) k := by
  induction k with
  | zero => exact ⟨h, rfl⟩
  | succ k ih =>
      obtain ⟨hupdatable, hqueue⟩ := ih
      obtain ⟨-, -, hdone, hleft⟩ :=
        reconcilePendingRefunds_spec (hfetchers k) (clocks k) batchSize hupdatable
      refine ⟨hdone, ?_⟩
      rw [Rounds.remaining, ← hqueue]
      exact hleft

theorem reconciliationCall_spec (hfetchers : ∀ k, (fetchers k).Answers) (h : db.Updatable)
    (batchSize k : Nat) :
    (reconciliationCall fetchers clocks batchSize db k).fetched =
        Rounds.taken batchSize (fun k => (fetchers k).settles) (pendingRefunds db) k ∧
      (reconciliationCall fetchers clocks batchSize db k).raised = none := by
  obtain ⟨hupdatable, hqueue⟩ := afterReconciliations_spec clocks hfetchers h batchSize k
  obtain ⟨hfetched, hraised, -, -⟩ :=
    reconcilePendingRefunds_spec (hfetchers k) (clocks k) batchSize hupdatable
  refine ⟨?_, hraised⟩
  rw [Rounds.taken, ← hqueue]
  exact hfetched

end

section

variable {Body : Type}

def ReconciliationRun.counts (job : ReconciliationRun) : ReconciliationCounts :=
  ⟨job.checked, job.processed, job.failed, job.errors⟩

theorem ReconciliationRun.counts_after (job : ReconciliationRun) (rest : List RefundSnapshot)
    (result : Option ReconciliationOutcome) :
    (job.after rest (.ok result)).counts =
        { job.counts with checked := job.counts.checked + 1 }.add result ∧
      (job.after rest (.ok result)).remaining = rest ∧
      (job.after rest (.ok result)).raised = job.raised := by
  cases result with
  | none => exact ⟨rfl, rfl, rfl⟩
  | some outcome =>
      cases outcome with
      | unchanged => exact ⟨rfl, rfl, rfl⟩
      | provider status => cases status <;> exact ⟨rfl, rfl, rfl⟩

/-- `fetch_razorpay_refund` with what the provider answers. -/
def fetchAnswer (answers : RefundSnapshot → ProviderAnswer) : RefundFetcher := fun snapshot =>
  fetchRazorpayRefund snapshot.providerRefundId snapshot.providerPaymentId snapshot.amountSubunits
    snapshot.currency (answers snapshot)

theorem reconcileSnapshot_eq (answers : RefundSnapshot → ProviderAnswer) (snapshot : RefundSnapshot)
    (now : Timestamp) (db : Database) :
    reconcileSnapshot snapshot (answers snapshot) now db =
      reconcileFetched snapshot.refundId (fetchAnswer answers snapshot) now db := by
  unfold reconcileSnapshot reconcileFetched fetchAnswer
  rfl

/-- A job over is left alone. -/
theorem World.run_reconcileNext_done (env : Env Body) {w : World} {runId : Uuid}
    {job : ReconciliationRun} (hjob : w.reconciliations.find runId = some job)
    (hdone : job.remaining = []) (answers : RefundSnapshot → ProviderAnswer)
    (clock : RefundSnapshot → Timestamp) (snapshots : List RefundSnapshot) :
    w.run env (snapshots.map fun s => .reconcileNext runId (answers s) (clock s)) = w := by
  induction snapshots with
  | nil => rfl
  | cons snapshot rest ih =>
      have hstep : w.step env (.reconcileNext runId (answers snapshot) (clock snapshot)) = w := by
        simp only [World.step, World.reconcileNext, hjob, hdone]
      rw [List.map_cons, World.run, Transition.run_cons, hstep]
      exact ih

/-- The steps of a job, with nothing between them, are the call: they leave its database, and the
job ends with its counts. -/
theorem World.run_reconcileNext (env : Env Body) {w : World} {runId : Uuid}
    {job : ReconciliationRun} (hjob : w.reconciliations.find runId = some job)
    {snapshots : List RefundSnapshot} (hremaining : job.remaining = snapshots)
    (answers : RefundSnapshot → ProviderAnswer) (clock : RefundSnapshot → Timestamp)
    (fetched : List RefundSnapshot) :
    let w' := w.run env (snapshots.map fun s => .reconcileNext runId (answers s) (clock s))
    let call := reconcileLoop (fetchAnswer answers) clock snapshots
      ⟨fetched, job.counts, job.raised, w.db⟩
    w'.db = call.db ∧ ∃ job', w'.reconciliations.find runId = some job' ∧ job'.remaining = [] ∧
      job'.counts = call.counts ∧ job'.raised = call.raised := by
  induction snapshots generalizing w job fetched with
  | nil => exact ⟨rfl, job, hjob, hremaining, rfl, rfl⟩
  | cons snapshot rest ih =>
      obtain ⟨hdb, hfind⟩ := w.reconcileNext_eq hjob hremaining (answers snapshot) (clock snapshot)
      rw [reconcileSnapshot_eq] at hdb hfind
      simp only [List.map_cons, World.run, Transition.run_cons, reconcileLoop, World.step]
      cases hresult : (reconcileFetched snapshot.refundId (fetchAnswer answers snapshot)
          (clock snapshot) w.db).1 with
      | error e =>
          rw [hresult] at hfind
          have hstop := World.run_reconcileNext_done env hfind rfl answers clock rest
          simp only [World.run] at hstop
          rw [hstop]
          exact ⟨hdb, _, hfind, rfl, rfl, rfl⟩
      | ok result =>
          rw [hresult] at hfind
          obtain ⟨hcounts, hleft, hraised⟩ := job.counts_after rest result
          have hrest := ih hfind hleft (fetched ++ [snapshot])
          rw [hcounts, hraised, hdb] at hrest
          exact hrest

end

/-- `math.ceil(total / batch_size)`. -/
def batches (total batchSize : Nat) : Nat := (total + batchSize - 1) / batchSize

/-- As many calls as there are batches fetch every refund exactly if the answers to all calls but
the last settle all refunds but one batch. -/
theorem reconciliation_starves_none {Body : Type} (env : Env Body) {w : World}
    (h : w.Reachable env) {batchSize : Nat} (hsize : 1 ≤ batchSize) {fetchers : Nat → RefundFetcher}
    (hfetchers : ∀ k, (fetchers k).Answers) (clocks : Nat → RefundSnapshot → Timestamp) :
    let queue := pendingRefunds w.db
    let calls := batches queue.length batchSize
    (∀ snapshot ∈ queue, ∃ k < calls,
      snapshot ∈ (reconciliationCall fetchers clocks batchSize w.db k).fetched) ↔
    queue.length ≤ batchSize +
      (Rounds.settled batchSize (fun k => (fetchers k).settles) queue (calls - 1)).length := by
  intro queue calls
  have hcall : ∀ k, (reconciliationCall fetchers clocks batchSize w.db k).fetched =
      Rounds.taken batchSize (fun k => (fetchers k).settles) queue k := fun k =>
    (reconciliationCall_spec clocks hfetchers h.updatable batchSize k).1
  simp only [hcall]
  cases hcalls : calls with
  | zero =>
      have hempty : queue.length = 0 := by
        have hfew := (Nat.div_eq_zero_iff_lt (Nat.lt_of_succ_le hsize)).mp hcalls
        omega
      rw [List.length_eq_zero_iff] at hempty
      rw [hempty]
      exact iff_of_true (fun _ h => absurd h List.not_mem_nil) (Nat.zero_le _)
  | succ k =>
      exact Rounds.forall_taken_iff batchSize _ (nodup_pendingRefunds w.db) k

/-- The provider answers with a status. -/
def answerAll (status : RazorpayRefundStatus) : RefundFetcher := fun snapshot =>
  .ok ⟨snapshot.providerRefundId, snapshot.providerPaymentId, .int snapshot.amountSubunits,
    snapshot.currency, status⟩

theorem answerAll_answers (status : RazorpayRefundStatus) : (answerAll status).Answers := by
  intro snapshot e h
  cases h

/-- The older of two refunds stays pending, and calls for one refund each never come to the
other. -/
theorem reconciliation_starves_none_counterexample :
    let w := sampleWorld.run sampleEnv samplePendingRefunds
    w.Reachable sampleEnv ∧ (answerAll .pending).Answers ∧
      batches (pendingRefunds w.db).length 1 = 2 ∧
      ∃ snapshot ∈ pendingRefunds w.db, ¬∃ k < 2,
        snapshot ∈ (reconciliationCall (fun _ => answerAll .pending) (fun _ _ => 0) 1 w.db
          k).fetched :=
  ⟨sampleWorld_reachable _, answerAll_answers _, by decide +kernel, by decide +kernel⟩

/-- Once each answer is final, two calls fetch both. -/
theorem reconciliation_starves_none_sample :
    let w := sampleWorld.run sampleEnv samplePendingRefunds
    ∀ snapshot ∈ pendingRefunds w.db, ∃ k < batches (pendingRefunds w.db).length 1, snapshot ∈
      (reconciliationCall (fun _ => answerAll .processed) (fun _ _ => 0) 1 w.db k).fetched :=
  (reconciliation_starves_none sampleEnv (sampleWorld_reachable samplePendingRefunds) (by decide)
    (fun _ => answerAll_answers .processed) fun _ _ => 0).mpr (by decide +kernel)

end ChargeMate
