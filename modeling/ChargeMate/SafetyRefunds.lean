import ChargeMate.SafetyPayments

/-! Refunds and cancellations in every run: the refund ledger, and the one cancellation of a
booking. -/

namespace ChargeMate

open Relational

section

variable {Body : Type} {env : Env Body}

theorem World.Reachable.refund_run {w : World} (h : w.Reachable env) (actions : List (Action Body))
    {id : Uuid} {r : Refund} (hr : w.db.refunds.find id = some r) :
    ∃ r', (w.run env actions).db.refunds.find id = some r' ∧ r.Continues r' := by
  refine h.run_part (f := fun s : World => s.db.refunds.find id) Refund.Continues.refl
    Refund.Continues.trans ?_ actions hr
  intro s a r hs hr
  obtain ⟨c, _, hmove⟩ := World.Reachable.move hs a
  exact hmove.refund_next hr

end

/-- The refund ledger in every reachable state, and the direction of a refund's status from
there. -/
theorem refund_ledger {Body : Type} (env : Env Body) {w : World} (h : w.Reachable env) :
    (∀ r ∈ w.db.refunds, ∀ s ∈ w.db.refunds, r.paymentId = s.paymentId → r = s) ∧
    (∀ r ∈ w.db.refunds, ∃ p ∈ w.db.payments, ∃ b ∈ w.db.bookings, r.paymentId = p.id ∧
      p.bookingId = b.id ∧ r.amount = p.amount ∧ r.amountSubunits = p.amountSubunits ∧
      r.currency = p.currency ∧ b.status = .cancelled ∧
      (p.status = .captured ∨ p.status = .refunded) ∧
      (r.status = .processed ↔ p.status = .refunded) ∧
      (r.status = .processed ↔ r.processedAt ≠ none)) ∧
    ∀ (actions : List (Action Body)) id r, w.db.refunds.find id = some r →
      ∃ r', (w.run env actions).db.refunds.find id = some r' ∧
        r.status.rank ≤ r'.status.rank := by
  have hsound := h.sound.ledger.refunds
  refine ⟨?_, ?_, ?_⟩
  · intro r hr s hs hpayment
    exact Table.eq_of_key_eq hr hs (hsound.single r.id s.id r s s.paymentId (Table.find_key hr)
      (Table.find_key hs) (congrArg some hpayment) rfl)
  · intro r hr
    obtain ⟨p, b, hp, hb, hsettles⟩ := hsound.settles r.id r (Table.find_key hr)
    exact ⟨p, Table.mem_of_find hp, b, Table.mem_of_find hb, hsettles.paymentId,
      hsettles.bookingId, hsettles.amount, hsettles.amountSubunits, hsettles.currency,
      hsettles.cancelled, hsettles.captured, hsettles.refunded, hsettles.processed⟩
  · intro actions id r hr
    obtain ⟨r', hr', hcont⟩ := h.refund_run actions hr
    exact ⟨r', hr', hcont.rank⟩

/-- An authentic payment event of 100.00 INR. -/
def sampleRequest (eventId event orderId paymentId : String) : WebhookRequest Json where
  rawBody := .obj [("event", .str event), ("payload", .obj [("payment", .obj [("entity", .obj
    [("order_id", .str orderId), ("id", .str paymentId), ("amount", .int 10000),
      ("currency", .str "INR")])])])]
  suppliedSignature := some sampleDigest
  providerEventId := some eventId

/-- A payment event that is received and stored under one identifier. -/
def sampleDelivery (id : Uuid) (eventId event orderId paymentId : String) : List (Action Json) :=
  [.receiveDelivery id (sampleRequest eventId event orderId paymentId), .storeDelivery id id 0]

/-- A booking that has been paid for. -/
def sampleConfirmed : List (Action Json) :=
  sampleHold 20 1 :: (sampleOrder 30 1 "order_A" ++
    sampleDelivery 40 "evt_1" "payment.captured" "order_A" "pay_1")

/-- The booking is cancelled, and its refund has been asked for. -/
def sampleCancellation : List (Action Json) :=
  sampleConfirmed ++ [.requestCancellation 50 10 20 3 60 0 0 0, .callRefund 50]

theorem refund_ledger_sample :
    (sampleWorld.run sampleEnv sampleCancellation).db.refunds.rows.map Refund.amountSubunits =
        [10000] ∧
      ∀ r ∈ (sampleWorld.run sampleEnv sampleCancellation).db.refunds,
        ∃ p ∈ (sampleWorld.run sampleEnv sampleCancellation).db.payments, r.paymentId = p.id := by
  refine ⟨by decide +kernel, fun r hr => ?_⟩
  obtain ⟨p, hp, _, _, hpayment, _⟩ :=
    (refund_ledger sampleEnv (sampleWorld_reachable sampleCancellation)).2.1 r hr
  exact ⟨p, hp, hpayment⟩

/-! ### One cancellation -/

/-- The refund of a booking is the one whose payment belongs to it. -/
def Ledger.RefundOf (L : Ledger) (bookingId : Uuid) (r : Refund) : Prop :=
  L.refunds r.id = some r ∧ ∃ p, L.payments r.paymentId = some p ∧ p.bookingId = bookingId

theorem refundOfBooking_eq_true {db : Database} {bookingId : Uuid} {r : Refund} (hr : r ∈ db.refunds) :
    refundOfBooking db bookingId r = true ↔ db.ledger.RefundOf bookingId r := by
  simp only [refundOfBooking, Ledger.RefundOf, Option.any_eq_true, decide_eq_true_eq]
  exact ⟨fun hp => ⟨Table.find_key hr, hp⟩, fun hr => hr.2⟩

/-- A cancelled booking without a refund never gets one. -/
theorem Move.refundless {c : Cause} {L L' : Ledger} (h : Move L c L') (hL : L.Sound)
    {id : Uuid} {b : Booking} (hb : L.bookings id = some b) (hcancelled : b.status = .cancelled)
    (hnone : ∀ r, ¬L.RefundOf id r) (r : Refund) : ¬L'.RefundOf id r := by
  rintro ⟨hr, p, hp, hbooking⟩
  rcases h.refund_cases hr with ⟨r₀, hr₀, hcont⟩ |
    ⟨_, hsame, q, d, hq, hd, hqd, hconfirmed, _, hopens⟩
  · obtain ⟨p₀, d, hp₀, hd, hsettles⟩ := hL.refunds.settles _ r₀ hr₀
    obtain ⟨p', hp', hpcont⟩ := h.payment_next hL.payments hL.refunds hp₀
    rw [hcont.paymentId, hsettles.paymentId, hp'] at hp
    cases hp
    refine hnone r₀ ⟨by rwa [← hcont.id], p₀, ?_, hpcont.bookingId.symm.trans hbooking⟩
    rw [hsettles.paymentId]
    exact hp₀
  · rw [hsame, hopens.paymentId, hq] at hp
    cases hp
    rw [← hqd, hbooking, hb] at hd
    cases hd
    rw [hcancelled] at hconfirmed
    cases hconfirmed

/-- Two refunds of one booking are one refund. -/
theorem Ledger.RefundOf.id_eq {L : Ledger} (hL : L.Sound) {bookingId : Uuid} {r s : Refund}
    (hr : L.RefundOf bookingId r) (hs : L.RefundOf bookingId s) : r.id = s.id := by
  obtain ⟨hr, p, hp, hpb⟩ := hr
  obtain ⟨hs, q, hq, hqb⟩ := hs
  exact hL.refunds.singleBooking r.id s.id r s p q hr hs hp hq (hpb.trans hqb.symm)

/-- What `_existing_cancellation` finds in a sound database. -/
theorem existingCancellation_refund {db : Database} (hL : db.ledger.Sound) {b : Booking}
    {r : Refund} (hr : db.ledger.RefundOf b.id r) :
    existingCancellation b db = { booking := some b, refund := some r, providerError := false } := by
  have hmem : r ∈ db.refunds := Table.mem_of_find hr.1
  have hscalar : db.refunds.scalar (refundOfBooking db b.id) = some r := by
    refine Table.scalar_eq_some_of_unique hmem ((refundOfBooking_eq_true hmem).mpr hr) ?_
    intro s hs hsb
    exact Table.eq_of_key_eq hs hmem
      (Ledger.RefundOf.id_eq hL ((refundOfBooking_eq_true hs).mp hsb) hr)
  simp [existingCancellation, hscalar]

theorem existingCancellation_none {db : Database} {b : Booking}
    (hnone : ∀ r, ¬db.ledger.RefundOf b.id r) : (existingCancellation b db).refund = none := by
  simp only [existingCancellation, Table.scalar_eq_none]
  intro r hr
  rw [Bool.eq_false_iff]
  intro htrue
  exact hnone r ((refundOfBooking_eq_true hr).mp htrue)

/-- A request for a cancelled booking: the owner is answered with the refund, if there is one. -/
theorem prepareCancellation_of_cancelled {db : Database} {bookingId : Uuid} {b : Booking}
    (hb : db.bookings.find bookingId = some b) (hcancelled : b.status = .cancelled)
    (userId : Uuid) (expectedVersion : Nat) (refundId : Uuid) (choice : Nat)
    (now createdAt : Timestamp) :
    prepareCancellation userId bookingId expectedVersion refundId choice now createdAt db =
      if b.userId = userId ∧ (existingCancellation b db).refund ≠ none then
        (.ok (.inl (existingCancellation b db)), db)
      else (.error .bookingStateConflictError, db) := by
  unfold prepareCancellation transaction
  by_cases huser : b.userId = userId
  · by_cases hrefund : (existingCancellation b db).refund = none
    · simp [hb, huser, hcancelled, hrefund, orRaise, ensure, bind, Except.bind, Option.filter]
    · simp [hb, huser, hcancelled, hrefund, orRaise, ensure, bind, Except.bind, Option.filter, pure,
        Except.pure]
  · simp [hb, huser, orRaise, bind, Except.bind, Option.filter]

def World.statusOf (w : World) (bookingId : Uuid) : Option BookingStatus :=
  (w.db.bookings.find bookingId).map Booking.status

/-- The action takes the booking to `CANCELLED`. -/
def cancels {Body : Type} (env : Env Body) (bookingId : Uuid) (w : World) (a : Action Body) : Bool :=
  w.statusOf bookingId ≠ some .cancelled ∧ (w.step env a).statusOf bookingId = some .cancelled

section

variable {Body : Type} {env : Env Body}

theorem World.statusOf_eq_cancelled {w : World} {bookingId : Uuid} :
    w.statusOf bookingId = some .cancelled ↔
      ∃ b, w.db.bookings.find bookingId = some b ∧ b.status = .cancelled := by
  simp [World.statusOf]

/-- A cancelled booking stays as it is. -/
theorem World.Reachable.cancelled_run {w : World} (h : w.Reachable env) {bookingId : Uuid}
    {b : Booking} (hb : w.db.bookings.find bookingId = some b) (hcancelled : b.status = .cancelled)
    (actions : List (Action Body)) : (w.run env actions).db.bookings.find bookingId = some b := by
  obtain ⟨b', hb', hfollows⟩ := h.booking_run actions hb
  rcases hfollows.later with rfl | ⟨_, hopen⟩
  · exact hb'
  · exact absurd (by rw [hcancelled]; rfl) hopen

theorem World.Reachable.refundless_run {w : World} (h : w.Reachable env) {bookingId : Uuid}
    {b : Booking} (hb : w.db.bookings.find bookingId = some b) (hcancelled : b.status = .cancelled)
    (hnone : ∀ r, ¬w.db.ledger.RefundOf bookingId r) (actions : List (Action Body)) :
    ∀ r, ¬(w.run env actions).db.ledger.RefundOf bookingId r := by
  have hstable := h.stable (P := fun s => s.db.bookings.find bookingId = some b ∧
      ∀ r, ¬s.db.ledger.RefundOf bookingId r)
    (by
      rintro s a hs ⟨hsb, hsnone⟩
      obtain ⟨c, _, hmove⟩ := World.Reachable.move hs a
      exact ⟨hmove.cancelled_kept hsb (by rw [hcancelled]; rfl),
        hmove.refundless (World.Reachable.sound hs).ledger hsb hcancelled hsnone⟩)
    ⟨hb, hnone⟩ actions
  exact hstable.2

/-- A request for a cancelled booking is answered at once and changes no row. -/
theorem World.requestCancellation_of_cancelled {w : World} {bookingId : Uuid} {b : Booking}
    (hb : w.db.bookings.find bookingId = some b) (hcancelled : b.status = .cancelled)
    {requestId : Uuid} (hfree : w.cancellationRequests.find requestId = none) (userId : Uuid)
    (expectedVersion : Nat) (refundId : Uuid) (choice : Nat) (now createdAt : Timestamp) :
    (w.requestCancellation requestId userId bookingId expectedVersion refundId choice now
        createdAt).db = w.db ∧
      (w.requestCancellation requestId userId bookingId expectedVersion refundId choice now
        createdAt).cancellationRequests.find requestId =
        some ⟨requestId, userId, bookingId, expectedVersion, .answered
          (if b.userId = userId ∧ (existingCancellation b w.db).refund ≠ none then
            .ok (existingCancellation b w.db) else .error .bookingStateConflictError)⟩ := by
  have hprep := prepareCancellation_of_cancelled hb hcancelled userId expectedVersion refundId choice
    now createdAt
  by_cases hrefund : b.userId = userId ∧ (existingCancellation b w.db).refund ≠ none
  · rw [if_pos hrefund] at hprep ⊢
    obtain ⟨requests, hins⟩ := Table.exists_insert (r := (⟨requestId, userId, bookingId,
      expectedVersion, .answered (.ok (existingCancellation b w.db))⟩ : CancellationRequest)) hfree
    simp only [World.requestCancellation, hprep, hins, true_and]
    exact Table.find_insert_self hins
  · rw [if_neg hrefund] at hprep ⊢
    obtain ⟨requests, hins⟩ := Table.exists_insert (r := (⟨requestId, userId, bookingId,
      expectedVersion, .answered (.error .bookingStateConflictError)⟩ : CancellationRequest)) hfree
    simp only [World.requestCancellation, hprep, hins, true_and]
    exact Table.find_insert_self hins

end

/-- Cancellation is exactly-once: one action at most takes a booking to `CANCELLED`, one call at
most asks the provider for its refund, and every later request is answered with that refund, or
refused, and changes no row. -/
theorem cancellation_exactly_once {Body : Type} (env : Env Body) {w : World} (h : w.Reachable env) :
    (∀ bookingId (actions : List (Action Body)),
      Transition.firings (World.step env) (cancels env bookingId) w actions ≤ 1) ∧
    (w.refundCalls.map fun call => call.snapshot.bookingId).Nodup ∧
    (∀ bookingId b r, w.db.bookings.find bookingId = some b → b.status = .cancelled →
      w.db.ledger.RefundOf bookingId r → ∀ (actions : List (Action Body)) requestId,
      (w.run env actions).cancellationRequests.find requestId = none →
      ∀ expectedVersion refundId choice now createdAt, ∃ r',
      (w.run env actions).db.refunds.find r.id = some r' ∧
      ((w.run env actions).step env (.requestCancellation requestId b.userId bookingId
        expectedVersion refundId choice now createdAt)).db = (w.run env actions).db ∧
      ((w.run env actions).step env (.requestCancellation requestId b.userId bookingId
        expectedVersion refundId choice now createdAt)).cancellationRequests.find requestId =
        some ⟨requestId, b.userId, bookingId, expectedVersion, .answered (.ok {
          booking := some b
          refund := some r'
          providerError := false })⟩) ∧
    ∀ bookingId b, w.db.bookings.find bookingId = some b → b.status = .cancelled →
      (∀ r, ¬w.db.ledger.RefundOf bookingId r) → ∀ (actions : List (Action Body)) requestId,
      (w.run env actions).cancellationRequests.find requestId = none →
      ∀ userId expectedVersion refundId choice now createdAt,
      ((w.run env actions).step env (.requestCancellation requestId userId bookingId
        expectedVersion refundId choice now createdAt)).db = (w.run env actions).db ∧
      ((w.run env actions).step env (.requestCancellation requestId userId bookingId
        expectedVersion refundId choice now createdAt)).cancellationRequests.find requestId =
        some ⟨requestId, userId, bookingId, expectedVersion,
          .answered (.error .bookingStateConflictError)⟩ := by
  refine ⟨?_, ?_, ?_, ?_⟩
  · intro bookingId actions
    refine Transition.firings_le_one (D := fun s : World => s.statusOf bookingId = some .cancelled)
      ?_ ?_ ?_ h actions
    · intro s a _ hfires
      simp only [cancels, decide_eq_true_eq] at hfires
      exact hfires.2
    · intro s a hs hcancelled
      obtain ⟨b, hb, hstatus⟩ := World.statusOf_eq_cancelled.mp hcancelled
      exact World.statusOf_eq_cancelled.mpr
        ⟨b, World.Reachable.cancelled_run hs hb hstatus [a], hstatus⟩
    · intro s a _ hcancelled
      simp [cancels, hcancelled]
  · have hcancels := h.sound.cancellations
    refine Ticket.nodup_map_of_determines hcancels.tickets.nodup ?_
    intro a ha b hb hab
    obtain ⟨r, p, hr, hp, hrp⟩ := hcancels.calls a ha
    obtain ⟨s, q, hs, hq, hsq⟩ := hcancels.calls b hb
    refine h.sound.ledger.refunds.singleBooking _ _ r s p q hr hs ?_ ?_ ?_
    · rw [hrp.paymentId]
      exact hp
    · rw [hsq.paymentId]
      exact hq
    · exact (hrp.bookingId.trans hab).trans hsq.bookingId.symm
  · intro bookingId b r hb hcancelled hrefund actions requestId hfree expectedVersion refundId choice
      now createdAt
    have hreach : (w.run env actions).Reachable env := h.run actions
    have hb' := h.cancelled_run hb hcancelled actions
    have hbid : b.id = bookingId := Table.key_of_find hb
    obtain ⟨r', hr', hcont⟩ := h.refund_run actions hrefund.1
    obtain ⟨_, p, hp, hpb⟩ := hrefund
    obtain ⟨p', hp', hpcont⟩ := h.payment_run actions hp
    have hrefund' : (w.run env actions).db.ledger.RefundOf b.id r' :=
      ⟨hcont.id ▸ hr', p', by rw [hcont.paymentId]; exact hp',
        (hpcont.bookingId.trans hpb).trans hbid.symm⟩
    have hexisting := existingCancellation_refund hreach.sound.ledger hrefund'
    have hanswer := World.requestCancellation_of_cancelled hb' hcancelled hfree b.userId
      expectedVersion refundId choice now createdAt
    rw [hexisting] at hanswer
    simp only [ne_eq, reduceCtorEq, not_false_eq_true, and_self, if_true] at hanswer
    exact ⟨r', hr', hanswer⟩
  · intro bookingId b hb hcancelled hnone actions requestId hfree userId expectedVersion refundId
      choice now createdAt
    have hb' := h.cancelled_run hb hcancelled actions
    have hbid : b.id = bookingId := Table.key_of_find hb
    have hnone' := h.refundless_run hb hcancelled hnone actions
    have hexisting : (existingCancellation b (w.run env actions).db).refund = none :=
      existingCancellation_none (hbid ▸ hnone')
    have hanswer := World.requestCancellation_of_cancelled hb' hcancelled hfree userId
      expectedVersion refundId choice now createdAt
    rw [hexisting] at hanswer
    simp only [ne_eq, not_true_eq_false, and_false, if_false] at hanswer
    exact hanswer

/-- The refund of the sample booking is asked for once, and a second request to cancel it is
answered with that refund. -/
theorem cancellation_exactly_once_sample :
    ((sampleWorld.run sampleEnv sampleCancellation).refundCalls.length = 1 ∧
      ((sampleWorld.run sampleEnv sampleCancellation).refundCalls.map
        fun call => call.snapshot.bookingId).Nodup) ∧
    ∃ b r, (sampleWorld.run sampleEnv sampleCancellation).db.refunds.find 60 = some r ∧
      ((sampleWorld.run sampleEnv sampleCancellation).step sampleEnv
        (.requestCancellation 51 10 20 4 61 0 0 0)).cancellationRequests.find 51 =
        some ⟨51, 10, 20, 4, .answered (.ok {
          booking := some b
          refund := some r
          providerError := false })⟩ := by
  have honce := cancellation_exactly_once sampleEnv (sampleWorld_reachable sampleCancellation)
  refine ⟨⟨by decide +kernel, honce.2.1⟩, ?_⟩
  have hfound : ((sampleWorld.run sampleEnv sampleCancellation).db.bookings.find 20).map
      (fun b => (b.userId, b.status)) = some (10, .cancelled) := by decide +kernel
  have hrefunded : ((sampleWorld.run sampleEnv sampleCancellation).db.refunds.find 60).map
      Refund.paymentId = some 30 := by decide +kernel
  have hpaid : ((sampleWorld.run sampleEnv sampleCancellation).db.payments.find 30).map
      Payment.bookingId = some 20 := by decide +kernel
  obtain ⟨b, hb, hbooking⟩ := Option.map_eq_some_iff.mp hfound
  obtain ⟨r, hr, hpayment⟩ := Option.map_eq_some_iff.mp hrefunded
  obtain ⟨p, hp, hpb⟩ := Option.map_eq_some_iff.mp hpaid
  obtain ⟨huser, hcancelled⟩ := Prod.mk.inj hbooking
  have hid : r.id = 60 := Table.key_of_find hr
  obtain ⟨r', hr', _, hanswer⟩ := honce.2.2.1 20 b r hb hcancelled
    ⟨hid ▸ hr, p, hpayment ▸ hp, hpb⟩ [] 51 (by decide +kernel) 4 61 0 0 0
  rw [hid] at hr'
  rw [huser] at hanswer
  exact ⟨b, r', hr', hanswer⟩

end ChargeMate
