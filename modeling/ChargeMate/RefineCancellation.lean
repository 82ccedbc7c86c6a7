import ChargeMate.RefineWebhooks

/-! The transactions of cancellation, refund settlement and reconciliation are moves. -/

namespace ChargeMate

open Relational

theorem mem_capturedPayments {db : Database} {bookingId : Uuid} {p : Payment} :
    p ∈ capturedPayments db bookingId ↔
      p ∈ db.payments ∧ p.bookingId = bookingId ∧ p.status = .captured := by
  simp [capturedPayments, Table.mem_def]

theorem mem_of_firstReturned {R : Type} {choice : Nat} {rows : List R} {r : R}
    (h : firstReturned choice rows = some r) : r ∈ rows :=
  List.mem_of_getElem? h

/-- The snapshot of the refund that a cancellation prepares. -/
def newSnapshot (b : Booking) (p : Payment) (refundId : Uuid) (providerPaymentId : String) :
    RefundRequestSnapshot where
  refundId := refundId
  bookingId := b.id
  paymentId := p.id
  providerPaymentId := providerPaymentId
  amountSubunits := p.amountSubunits
  currency := p.currency
  receipt := refundReceipt refundId

/-- What `_prepare_cancellation` commits: nothing, the refund of an earlier cancellation answered
again, a cancellation without a refund, or one with the refund of a captured payment. -/
theorem prepareCancellation_cases (userId bookingId : Uuid) (expectedVersion : Nat)
    (refundId : Uuid) (choice : Nat) (now createdAt : Timestamp) (db : Database) :
    (∃ e, prepareCancellation userId bookingId expectedVersion refundId choice now createdAt db =
      (.error e, db)) ∨
    (∃ b, db.bookings.find bookingId = some b ∧ b.userId = userId ∧ b.status = .cancelled ∧
      (existingCancellation b db).refund ≠ none ∧
      prepareCancellation userId bookingId expectedVersion refundId choice now createdAt db =
        (.ok (.inl (existingCancellation b db)), db)) ∨
    (∃ b, db.bookings.find bookingId = some b ∧ b.userId = userId ∧ b.version = expectedVersion ∧
      (b.status = .held ∨ b.status = .paymentPending) ∧
      prepareCancellation userId bookingId expectedVersion refundId choice now createdAt db =
        (.ok (.inl {
          booking := (db.updateBooking (b.cancel now)).bookings.find bookingId
          refund := none
          providerError := false }), db.updateBooking (b.cancel now))) ∨
    ∃ b p providerPaymentId db', db.bookings.find bookingId = some b ∧ b.userId = userId ∧
      b.version = expectedVersion ∧ b.status = .confirmed ∧
      firstReturned choice (capturedPayments db b.id) = some p ∧
      p.providerPaymentId = some providerPaymentId ∧
      (db.updateBooking (b.cancel now)).insertRefund (newRefund p refundId createdAt) = .ok db' ∧
      prepareCancellation userId bookingId expectedVersion refundId choice now createdAt db =
        (.ok (.inr (newSnapshot b p refundId providerPaymentId)), db') := by
  unfold prepareCancellation
  rcases transaction_cases .bookingStateConflictError _ db with ⟨e, he⟩ | ⟨a, db', hblock, ht⟩
  · exact Or.inl ⟨e, he⟩
  refine Or.inr ?_
  rw [ht]
  simp only [bind_eq_ok, orRaise_eq_ok, Option.filter_eq_some_iff, decide_eq_true_eq] at hblock
  obtain ⟨b, ⟨hb, huser⟩, hblock⟩ := hblock
  have hid : b.id = bookingId := Table.key_of_find hb
  split at hblock
  · next hcancelled =>
    simp only [bind_eq_ok, ensure_eq_ok, pure_eq_ok, Prod.mk.injEq] at hblock
    obtain ⟨_, hrefund, rfl, rfl⟩ := hblock
    exact Or.inl ⟨b, hb, huser, hcancelled, hrefund, rfl⟩
  · simp only [bind_eq_ok, ensure_eq_ok] at hblock
    obtain ⟨_, hversion, hblock⟩ := hblock
    split at hblock
    · next hdirect =>
      simp only [bind_eq_ok, ensure_eq_ok, pure_eq_ok, Prod.mk.injEq] at hblock
      obtain ⟨_, _, rfl, rfl⟩ := hblock
      refine Or.inr (Or.inl ⟨b, hb, huser, hversion, ?_, rfl⟩)
      simpa [directCancellationStatuses] using hdirect
    · simp only [bind_eq_ok, ensure_eq_ok, orRaise_eq_ok, pure_eq_ok, Prod.mk.injEq] at hblock
      obtain ⟨_, hconfirmed, p, hp, providerPaymentId, hpid, db₁, hins, rfl, rfl⟩ := hblock
      refine Or.inr (Or.inr ⟨b, p, providerPaymentId, db₁, hb, huser, hversion, hconfirmed, hp, hpid,
        hins, ?_⟩)
      simp only [newSnapshot, hid]
      rfl

theorem newRefund_opens (p : Payment) (refundId : Uuid) (createdAt : Timestamp) :
    (newRefund p refundId createdAt).Opens p :=
  ⟨⟨rfl, rfl, rfl, rfl⟩, rfl, rfl, rfl⟩

theorem prepareCancellation_move (userId bookingId : Uuid) (expectedVersion : Nat)
    (refundId : Uuid) (choice : Nat) (now createdAt : Timestamp) (db : Database) :
    ∃ c, (c = .other ∨
        (c = .cancel bookingId ∧ ∀ b, db.bookings.find bookingId = some b → b.status ≠ .confirmed) ∨
        ∃ b p, db.confirmedBooking userId bookingId expectedVersion = some b ∧
          firstReturned choice (capturedPayments db bookingId) = some p ∧
          c = .refund bookingId p.id) ∧
      Move db.ledger c (prepareCancellation userId bookingId expectedVersion refundId choice now
        createdAt db).2.ledger := by
  rcases prepareCancellation_cases userId bookingId expectedVersion refundId choice now createdAt db
    with ⟨e, h⟩ | ⟨b, _, _, _, _, h⟩ | ⟨b, hb, _, _, hstatus, h⟩ |
      ⟨b, p, providerPaymentId, db', hb, huser, hversion, hconfirmed, hp, _, hins, h⟩
  · rw [h]
    exact ⟨.other, Or.inl rfl, Move.stay⟩
  · rw [h]
    exact ⟨.other, Or.inl rfl, Move.stay⟩
  · have hid := Database.find_booking_id hb
    have hbid : b.id = bookingId := Table.key_of_find hb
    rw [h, Database.ledger_updateBooking (b := b.cancel now) hid, ← hbid]
    refine ⟨.cancel b.id, Or.inr (Or.inl ⟨rfl, fun d hd => ?_⟩), Move.cancel b now hid ?_⟩
    · rw [hbid, hb] at hd
      cases hd
      rcases hstatus with hs | hs <;> simp [hs]
    · rcases hstatus with hs | hs <;> simp [hs, cancellableBookingStatuses]
  · have hid := Database.find_booking_id hb
    have hbid : b.id = bookingId := Table.key_of_find hb
    obtain ⟨hmem, hbooking, hcaptured⟩ := mem_capturedPayments.mp (mem_of_firstReturned hp)
    obtain ⟨hnew, hfirst, hledger⟩ := Database.ledger_insertRefund hins
    rw [h, hledger, Database.ledger_updateBooking (b := b.cancel now) hid, ← hbid]
    have hguards := Database.confirmedBooking_eq_some.mpr ⟨hid, huser, hversion, hconfirmed⟩
    exact ⟨.refund b.id p.id, Or.inr (Or.inr ⟨b, p, hguards, hp, rfl⟩), Move.cancelRefund b p _ now
      hid hconfirmed (Table.find_key hmem) hbooking hcaptured hnew
      (newRefund_opens p refundId createdAt) hfirst⟩

/-! ### Settlement -/

theorem recordRefundFailure_move (prepared : RefundRequestSnapshot) (errorCode : String)
    (db : Database) : Move db.ledger .other (recordRefundFailure prepared errorCode db).2.ledger := by
  unfold recordRefundFailure
  refine transaction_move fun a db' h => ?_
  simp only [bind_eq_ok, orRaise_eq_ok] at h
  obtain ⟨r, hr, h⟩ := h
  have hrid := Database.find_refund_id hr
  unfold failLockedRefund at h
  split at h
  · next hrequested =>
    simp only [bind_eq_ok, pure_eq_ok, Prod.mk.injEq] at h
    obtain ⟨db₁, hupd, _, rfl⟩ := h
    rw [Database.ledger_updateRefund hupd hrid]
    refine Move.refundChange r _ hrid ⟨rfl, rfl, rfl, rfl, rfl, rfl, rfl, ?_⟩ ?_ rfl
    · rw [hrequested]
      exact Nat.zero_le _
    · simp [hrequested]
  · simp only [bind_eq_ok, pure_eq_ok, Prod.mk.injEq, Except.ok.injEq, exists_eq_left'] at h
    rw [← h.2]
    exact Move.stay

theorem Refund.continues_answered {r : Refund} (providerRefundId : String)
    (status : RazorpayRefundStatus) (now : Timestamp) (hrequested : r.status = .requested) :
    r.Continues (r.answered providerRefundId status now) := by
  unfold Refund.answered
  cases status <;>
    exact ⟨rfl, rfl, rfl, rfl, rfl, rfl, rfl, by rw [hrequested]; exact Nat.zero_le _⟩

/-- The snapshot names the payment of its refund. -/
def RefundRequestSnapshot.Names (prepared : RefundRequestSnapshot) (db : Database) : Prop :=
  ∀ r, db.refunds.find prepared.refundId = some r → r.paymentId = prepared.paymentId

theorem finalizeRefund_move {prepared : RefundRequestSnapshot} (providerRefund : RazorpayRefund)
    (now : Timestamp) {db : Database} (hnames : prepared.Names db) :
    Move db.ledger .other (finalizeRefund prepared providerRefund now db).2.ledger := by
  unfold finalizeRefund
  refine transaction_move fun a db' h => ?_
  simp only [bind_eq_ok, orRaise_eq_ok] at h
  obtain ⟨r, hr, p, hp, h⟩ := h
  have hrid := Database.find_refund_id hr
  have hpid := Database.find_payment_id hp
  unfold finalizeLockedRefund at h
  split at h
  · simp only [pure_eq_ok, Prod.mk.injEq] at h
    rw [← h.2]
    exact Move.stay
  next hrequested =>
  replace hrequested := not_not.mp hrequested
  simp only [bind_eq_ok, PyStr.encoded_eq_ok] at h
  obtain ⟨providerRefundId, _, db₁, hrefund, h⟩ := h
  have hcont := Refund.continues_answered providerRefundId providerRefund.status now hrequested
  have hledger₁ := Database.ledger_updateRefund hrefund (hcont.id ▸ hrid)
  -- an answer that is not final leaves the payment alone
  have hchange : providerRefund.status ≠ .processed → Move db.ledger .other db₁.ledger := by
    intro hstatus
    rw [hledger₁]
    refine Move.refundChange r _ hrid hcont ?_ ?_
    · cases hs : providerRefund.status <;> simp_all [Refund.answered]
    · cases hs : providerRefund.status <;> simp_all [Refund.answered]
  cases hs : providerRefund.status <;> rw [hs] at h <;>
    simp only [bind_eq_ok, pure_eq_ok, Prod.mk.injEq, Except.ok.injEq, exists_eq_left'] at h
  · rw [← h.2]
    exact hchange (by simp [hs])
  · obtain ⟨db₂, hpayment, _, rfl⟩ := h
    have hp₁ : db₁.payments.find p.id = some p := by
      rw [← Database.payments_ledger, hledger₁]
      exact hpid
    obtain ⟨_, hledger⟩ := Database.ledger_updatePayment hpayment hp₁
    rw [hledger, hledger₁]
    have hreturns : r.paymentId = p.id := (hnames r hr).trans (Table.key_of_find hp).symm
    refine Move.refundProcess r _ p hrid hpid hreturns hcont ?_ ?_ <;> simp [Refund.answered, hs]
  · rw [← h.2]
    exact hchange (by simp [hs])

theorem settleRefund_move {prepared : RefundRequestSnapshot} (answer : ProviderAnswer)
    (now : Timestamp) {db : Database} (hnames : prepared.Names db) :
    Move db.ledger .other (settleRefund prepared answer now db).2.ledger := by
  unfold settleRefund
  split
  · exact recordRefundFailure_move prepared _ db
  · exact Move.stay
  · exact finalizeRefund_move _ now hnames

/-! ### Reconciliation -/

theorem applyReconciledRefund_move (refundId : Uuid) (providerRefund : RazorpayRefund)
    (now : Timestamp) (db : Database) :
    Move db.ledger .other (applyReconciledRefund refundId providerRefund now db).2.ledger := by
  unfold applyReconciledRefund
  refine transaction_move fun a db' h => ?_
  split at h
  · simp only [pure_eq_ok, Prod.mk.injEq] at h
    rw [← h.2]
    exact Move.stay
  next r hr =>
  simp only [Option.filter_eq_some_iff, decide_eq_true_eq] at hr
  obtain ⟨hr, hpending⟩ := hr
  have hrid := Database.find_refund_id hr
  simp only [bind_eq_ok, orRaise_eq_ok] at h
  obtain ⟨p, hp, h⟩ := h
  have hpid := Database.find_payment_id hp
  unfold reconcileLockedRefund at h
  cases hs : providerRefund.status <;> rw [hs] at h <;>
    simp only [bind_eq_ok, pure_eq_ok, Prod.mk.injEq, Except.ok.injEq, exists_eq_left'] at h
  · rw [← h.2]
    exact Move.stay
  · obtain ⟨db₁, hrefund, db₂, hpayment, _, rfl⟩ := h
    have hledger₁ := Database.ledger_updateRefund hrefund hrid
    have hp₁ : db₁.payments.find p.id = some p := by
      rw [← Database.payments_ledger, hledger₁]
      exact hpid
    obtain ⟨_, hledger⟩ := Database.ledger_updatePayment hpayment hp₁
    rw [hledger, hledger₁]
    exact Move.refundProcess r _ p hrid hpid (Table.key_of_find hp).symm
      ⟨rfl, rfl, rfl, rfl, rfl, rfl, rfl, RefundStatus.rank_le_processed _⟩ rfl
      (Option.some_ne_none now)
  · obtain ⟨db₁, hupd, _, rfl⟩ := h
    rw [Database.ledger_updateRefund hupd hrid]
    refine Move.refundChange r _ hrid ⟨rfl, rfl, rfl, rfl, rfl, rfl, rfl, ?_⟩ ?_ rfl
    · exact RefundStatus.rank_le_failed (by simp [hpending])
    · simp [hpending]

theorem reconcileSnapshot_move (snapshot : RefundSnapshot) (answer : ProviderAnswer)
    (now : Timestamp) (db : Database) :
    Move db.ledger .other (reconcileSnapshot snapshot answer now db).2.ledger := by
  unfold reconcileSnapshot
  split
  · exact Move.stay
  · exact Move.stay
  · exact applyReconciledRefund_move _ _ now db

end ChargeMate
