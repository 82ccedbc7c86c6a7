import ChargeMate.RefineOrders
import ChargeMate.RefineCancellation

/-! Cancellations in flight. The refund that a cancellation has prepared is a ticket for one
provider call, held by one request. -/

namespace ChargeMate

open Relational

/-- The request has prepared a refund and has not settled it. -/
def CancellationRequest.InFlight (r : CancellationRequest) (snapshot : RefundRequestSnapshot) :
    Prop :=
  r.phase = .prepared snapshot ∨ r.phase = .called snapshot

/-- The request works with a refund that it has prepared. -/
def CancellationRequest.Carries (r : CancellationRequest) (snapshot : RefundRequestSnapshot) :
    Prop :=
  match r.phase with
  | .prepared held | .called held | .committed held _ | .bookingRead held _ _ => held = snapshot
  | .answered _ => False

/-- The refund of a request as a ticket for the provider call. -/
def CancellationRequest.ticket (r : CancellationRequest) : Option (Uuid × Bool) :=
  match r.phase with
  | .prepared snapshot => some (snapshot.refundId, false)
  | .called snapshot => some (snapshot.refundId, true)
  | .committed _ _ | .bookingRead _ _ _ | .answered _ => none

def cancellationHolder (requests : Table CancellationRequest) (id : Uuid) : Option (Uuid × Bool) :=
  (requests.find id).bind CancellationRequest.ticket

structure RefundRequestSnapshot.Describes (snapshot : RefundRequestSnapshot) (r : Refund)
    (p : Payment) : Prop where
  paymentId : r.paymentId = snapshot.paymentId
  bookingId : p.bookingId = snapshot.bookingId
  providerPaymentId : p.providerPaymentId = some snapshot.providerPaymentId
  amountSubunits : p.amountSubunits = snapshot.amountSubunits
  currency : p.currency = snapshot.currency
  receipt : r.receipt = snapshot.receipt

/-- The rows that a snapshot was taken from, or later versions of them. -/
def RefundRequestSnapshot.Held (snapshot : RefundRequestSnapshot) (L : Ledger) : Prop :=
  ∃ r p, L.refunds snapshot.refundId = some r ∧ L.payments snapshot.paymentId = some p ∧
    snapshot.Describes r p

structure CancellationsSound (L : Ledger) (requests : Table CancellationRequest)
    (calls : List RefundCall) : Prop where
  tickets : Ticket.Sound (fun x => L.refunds x ≠ none) (cancellationHolder requests)
    (calls.map fun call => call.snapshot.refundId)
  requests : ∀ id r snapshot, requests.find id = some r → r.Carries snapshot →
    snapshot.bookingId = r.bookingId ∧ snapshot.Held L
  calls : ∀ call ∈ calls, call.snapshot.Held L

theorem CancellationRequest.InFlight.ticket {r : CancellationRequest}
    {snapshot : RefundRequestSnapshot} (h : r.InFlight snapshot) :
    ∃ u, r.ticket = some (snapshot.refundId, u) := by
  unfold CancellationRequest.ticket
  rcases h with h | h
  · exact ⟨false, by rw [h]⟩
  · exact ⟨true, by rw [h]⟩

theorem CancellationRequest.InFlight.carries {r : CancellationRequest}
    {snapshot : RefundRequestSnapshot} (h : r.InFlight snapshot) : r.Carries snapshot := by
  unfold CancellationRequest.Carries
  rcases h with h | h <;> rw [h]

theorem RefundRequestSnapshot.Held.move {snapshot : RefundRequestSnapshot} {c : Cause}
    {L L' : Ledger} (h : snapshot.Held L) (hL : L.Sound) (hmove : Move L c L') :
    snapshot.Held L' := by
  obtain ⟨r, p, hr, hp, hdesc⟩ := h
  obtain ⟨r', hr', hrcont⟩ := hmove.refund_next hr
  obtain ⟨p', hp', hpcont⟩ := hmove.payment_next hL.payments hL.refunds hp
  exact ⟨r', p', hr', hp', hrcont.paymentId.trans hdesc.paymentId,
    hpcont.bookingId.trans hdesc.bookingId, hpcont.pinned _ hdesc.providerPaymentId,
    hpcont.amountSubunits.trans hdesc.amountSubunits, hpcont.currency.trans hdesc.currency,
    hrcont.receipt.trans hdesc.receipt⟩

theorem RefundRequestSnapshot.Held.names {snapshot : RefundRequestSnapshot} {db : Database}
    (h : snapshot.Held db.ledger) : snapshot.Names db := by
  intro r hr
  obtain ⟨r₀, p, hr₀, _, hdesc⟩ := h
  rw [Database.refunds_ledger, hr] at hr₀
  cases hr₀
  exact hdesc.paymentId

theorem Move.refund_known {c : Cause} {L L' : Ledger} (h : Move L c L') (x : Uuid)
    (hx : L.refunds x ≠ none) : L'.refunds x ≠ none := by
  obtain ⟨r, hr⟩ := Option.ne_none_iff_exists'.mp hx
  obtain ⟨r', hr', _⟩ := h.refund_next hr
  simp [hr']

/-- A step of the system keeps the cancellations sound if it keeps the tickets, and gives what is
due to the requests and calls that are new. -/
theorem CancellationsSound.next {c : Cause} {L L' : Ledger}
    {requests requests' : Table CancellationRequest} {calls calls' : List RefundCall}
    (h : CancellationsSound L requests calls) (hL : L.Sound) (hmove : Move L c L')
    (htickets : Ticket.Sound (fun x => L'.refunds x ≠ none) (cancellationHolder requests')
      (calls'.map fun call => call.snapshot.refundId))
    (hrequests : ∀ k r snapshot, requests'.find k = some r → r.Carries snapshot →
      requests.find k = some r ∨ snapshot.bookingId = r.bookingId ∧ snapshot.Held L')
    (hcalls : ∀ call ∈ calls', call ∈ calls ∨ call.snapshot.Held L') :
    CancellationsSound L' requests' calls' where
  tickets := htickets
  requests := by
    intro k r snapshot hr hcarries
    rcases hrequests k r snapshot hr hcarries with hold | hnew
    · obtain ⟨hbooking, hheld⟩ := h.requests k r snapshot hold hcarries
      exact ⟨hbooking, hheld.move hL hmove⟩
    · exact hnew
  calls := by
    intro call hcall
    rcases hcalls call hcall with hold | hnew
    · exact (h.calls call hold).move hL hmove
    · exact hnew

/-- A move leaves the cancellations as they are. -/
theorem CancellationsSound.move {c : Cause} {L L' : Ledger}
    {requests : Table CancellationRequest} {calls : List RefundCall}
    (h : CancellationsSound L requests calls) (hL : L.Sound) (hmove : Move L c L') :
    CancellationsSound L' requests calls :=
  h.next hL hmove (h.tickets.drop hmove.refund_known fun _ _ ht => ht)
    (fun _ _ _ hr _ => Or.inl hr) fun _ hcall => Or.inl hcall

/-- The holders after a request has been written. -/
theorem cancellationHolder_set {requests : Table CancellationRequest} {r old : CancellationRequest}
    (hold : requests.find r.id = some old) (k : Uuid) :
    cancellationHolder (requests.set r) k =
      if k = r.id then r.ticket else cancellationHolder requests k := by
  unfold cancellationHolder
  rw [Table.find_set (r := r) hold]
  simp only [CancellationRequest.key_eq, eq_comm (a := r.id)]
  split <;> rfl

/-- A request gives its ticket back, and carries what it has carried. -/
theorem CancellationsSound.settle {c : Cause} {L L' : Ledger}
    {requests : Table CancellationRequest} {calls : List RefundCall} {r old : CancellationRequest}
    (h : CancellationsSound L requests calls) (hL : L.Sound) (hmove : Move L c L')
    (hold : requests.find r.id = some old) (hticket : r.ticket = none)
    (hbooking : r.bookingId = old.bookingId)
    (hcarries : ∀ snapshot, r.Carries snapshot → old.Carries snapshot) :
    CancellationsSound L' (requests.set r) calls := by
  refine h.next hL hmove (h.tickets.drop hmove.refund_known fun k t ht => ?_) ?_
    fun call hcall => Or.inl hcall
  · rw [cancellationHolder_set hold, hticket] at ht
    split at ht
    · cases ht
    · exact ht
  · intro k r' snapshot hr' hcarried
    rcases Table.find_set_cases hr' hold with ⟨_, rfl⟩ | ⟨_, hr'⟩
    · obtain ⟨hsame, hheld⟩ := h.requests r'.id old snapshot hold (hcarries snapshot hcarried)
      exact Or.inr ⟨hsame.trans hbooking.symm, hheld.move hL hmove⟩
    · exact Or.inl hr'

/-! ### The four actions of a request -/

/-- A cancellation that is received: the database is moved, and the request is new. -/
theorem World.requestCancellation_cases (w : World) (requestId userId bookingId : Uuid)
    (expectedVersion : Nat) (refundId : Uuid) (choice : Nat) (now createdAt : Timestamp) :
    w.requestCancellation requestId userId bookingId expectedVersion refundId choice now createdAt = w ∨
    ∃ phase requests, w.cancellationRequests.insert
        ⟨requestId, userId, bookingId, expectedVersion, phase⟩ = some requests ∧
      (∀ snapshot, phase = .prepared snapshot ↔ (prepareCancellation userId bookingId
        expectedVersion refundId choice now createdAt w.db).1 = .ok (.inr snapshot)) ∧
      (∀ snapshot, phase ≠ .called snapshot) ∧ (∀ snapshot reported, phase ≠ .committed snapshot
        reported) ∧ (∀ snapshot reported b, phase ≠ .bookingRead snapshot reported b) ∧
      (∀ result, phase = .answered (.ok result) ↔ (prepareCancellation userId bookingId
        expectedVersion refundId choice now createdAt w.db).1 = .ok (.inl result)) ∧
      w.requestCancellation requestId userId bookingId expectedVersion refundId choice now createdAt =
        { w with
          db := (prepareCancellation userId bookingId expectedVersion refundId choice now createdAt
            w.db).2
          cancellationRequests := requests } := by
  unfold World.requestCancellation
  simp only
  split
  · exact Or.inl rfl
  next requests hins =>
  refine Or.inr ⟨_, requests, hins, ?_, ?_, ?_, ?_, ?_, rfl⟩
  · intro snapshot
    split <;> next heq => simp [heq]
  · intro snapshot
    split <;> simp
  · intro snapshot reported
    split <;> simp
  · intro snapshot reported b
    split <;> simp
  · intro result
    split <;> next heq => simp [heq]

theorem World.requestCancellation_move (w : World) (requestId userId bookingId : Uuid)
    (expectedVersion : Nat) (refundId : Uuid) (choice : Nat) (now createdAt : Timestamp) :
    ∃ c, (c = .other ∨ (c = .cancel bookingId ∧
        ∀ b, w.db.bookings.find bookingId = some b → b.status ≠ .confirmed) ∨
        ∃ b p, w.db.confirmedBooking userId bookingId expectedVersion = some b ∧
          firstReturned choice (capturedPayments w.db bookingId) = some p ∧
          c = .refund bookingId p.id) ∧
      Move w.db.ledger c (w.requestCancellation requestId userId bookingId expectedVersion refundId
        choice now createdAt).db.ledger := by
  rcases w.requestCancellation_cases requestId userId bookingId expectedVersion refundId choice now
    createdAt with heq | ⟨_, _, _, _, _, _, _, _, heq⟩
  · rw [heq]
    exact ⟨.other, Or.inl rfl, Move.stay⟩
  · rw [heq]
    exact prepareCancellation_move userId bookingId expectedVersion refundId choice now createdAt w.db

theorem World.requestCancellation_sound {w : World} (hL : w.db.ledger.Sound)
    (h : CancellationsSound w.db.ledger w.cancellationRequests w.refundCalls)
    (requestId userId bookingId : Uuid) (expectedVersion : Nat) (refundId : Uuid) (choice : Nat)
    (now createdAt : Timestamp) :
    let w' := w.requestCancellation requestId userId bookingId expectedVersion refundId choice now
      createdAt
    CancellationsSound w'.db.ledger w'.cancellationRequests w'.refundCalls := by
  obtain ⟨c, _, hmove⟩ := w.requestCancellation_move requestId userId bookingId expectedVersion
    refundId choice now createdAt
  rcases w.requestCancellation_cases requestId userId bookingId expectedVersion refundId choice now
    createdAt with heq | ⟨phase, requests, hins, hprepared, hcalled, hcommitted, hread, _, heq⟩
  · simp only [heq]
    exact h
  simp only [heq] at hmove ⊢
  have hfind := Table.find_insert hins
  -- the holders are those before, and the new request if it has prepared a refund
  have hholder : ∀ k, cancellationHolder requests k = if k = requestId then
      CancellationRequest.ticket ⟨requestId, userId, bookingId, expectedVersion, phase⟩ else
      cancellationHolder w.cancellationRequests k := by
    intro k
    simp only [cancellationHolder, hfind, CancellationRequest.key_eq, eq_comm (a := requestId)]
    split <;> rfl
  cases hphase : phase with
  | answered result =>
      refine h.next hL hmove (h.tickets.drop hmove.refund_known fun k t ht => ?_) ?_
        fun call hcall => Or.inl hcall
      · rw [hholder, hphase] at ht
        split at ht
        · cases ht
        · exact ht
      · intro k r snapshot hr hcarries
        rw [hfind] at hr
        split at hr
        · cases hr
          simp [CancellationRequest.Carries, hphase] at hcarries
        · exact Or.inl hr
  | called snapshot => exact absurd hphase (hcalled snapshot)
  | committed snapshot reported => exact absurd hphase (hcommitted snapshot reported)
  | bookingRead snapshot reported b => exact absurd hphase (hread snapshot reported b)
  | prepared snapshot =>
      have hprep := (hprepared snapshot).mp hphase
      rcases prepareCancellation_cases userId bookingId expectedVersion refundId choice now createdAt
        w.db with ⟨e, hc⟩ | ⟨b, _, _, _, _, hc⟩ | ⟨b, _, _, _, _, hc⟩ |
          ⟨b, p, providerPaymentId, db', hb, _, _, _, hp, hpid, hinsr, hc⟩
      · simp [hc] at hprep
      · simp [hc] at hprep
      · simp [hc] at hprep
      simp only [hc, Except.ok.injEq, Sum.inr.injEq] at hprep hmove ⊢
      subst hprep
      obtain ⟨hnew, _, hledger⟩ := Database.ledger_insertRefund hinsr
      obtain ⟨hmem, hpbooking, _⟩ := mem_capturedPayments.mp (mem_of_firstReturned hp)
      have hr : db'.ledger.refunds refundId = some (newRefund p refundId createdAt) := by
        rw [hledger, Register.get_put]
        exact if_pos rfl
      have hpay : db'.ledger.payments p.id = some p := by
        rw [hledger]
        exact Table.find_key hmem
      have hbid : b.id = bookingId := Table.key_of_find hb
      have hheld : (newSnapshot b p refundId providerPaymentId).Held db'.ledger :=
        ⟨_, p, hr, hpay, rfl, hpbooking, hpid, rfl, rfl, rfl⟩
      have hknown : db'.ledger.refunds refundId ≠ none := hr ▸ Option.some_ne_none _
      refine h.next hL hmove ?_ ?_ fun call hcall => Or.inl hcall
      · refine h.tickets.issue (k := requestId) (x := refundId) (not_not.mpr hnew) hknown
          hmove.refund_known fun k => ?_
        rw [hholder, hphase]
        rfl
      · intro k r snapshot' hr' hcarries
        rw [hfind] at hr'
        split at hr'
        · cases hr'
          simp only [CancellationRequest.Carries, hphase] at hcarries
          subst hcarries
          exact Or.inr ⟨hbid, hheld⟩
        · exact Or.inl hr'

section

variable {id userId bookingId : Uuid} {expectedVersion : Nat} {snapshot : RefundRequestSnapshot}

/-- A request whose refund is settled has given its ticket back. -/
theorem CancellationRequest.ticket_settled (result : Except Raised ReportedError) :
    CancellationRequest.ticket ⟨id, userId, bookingId, expectedVersion, .settled snapshot result⟩ =
      none := by
  cases result <;> rfl

theorem CancellationRequest.carries_settled {result : Except Raised ReportedError}
    {carried : RefundRequestSnapshot} (h : CancellationRequest.Carries
      ⟨id, userId, bookingId, expectedVersion, .settled snapshot result⟩ carried) :
    snapshot = carried := by
  cases result with
  | error e => exact h.elim
  | ok reported => exact h

end

section

variable {Body : Type} (env : Env Body)

theorem World.callRefund_move (w : World) (requestId : Uuid) :
    Move w.db.ledger .other (w.callRefund env requestId).db.ledger := by
  unfold World.callRefund
  split
  · split
    · exact recordRefundFailure_move _ _ w.db
    · exact Move.stay
  · exact Move.stay

theorem World.callRefund_sound {w : World} (hL : w.db.ledger.Sound)
    (h : CancellationsSound w.db.ledger w.cancellationRequests w.refundCalls) (requestId : Uuid) :
    CancellationsSound (w.callRefund env requestId).db.ledger
      (w.callRefund env requestId).cancellationRequests (w.callRefund env requestId).refundCalls := by
  have hmove := w.callRefund_move env requestId
  unfold World.callRefund at hmove ⊢
  split
  · next id userId bookingId expectedVersion snapshot hr =>
    have hid : id = requestId := Table.key_of_find hr
    subst hid
    simp only [hr] at hmove
    split
    · next hkeys =>
      simp only [hkeys] at hmove
      exact h.settle hL hmove hr (CancellationRequest.ticket_settled ..) rfl
        fun _ => CancellationRequest.carries_settled
    · obtain ⟨hbooking, hheld⟩ := h.requests id _ snapshot hr rfl
      refine h.next hL Move.stay ?_ ?_ ?_
      · rw [List.map_append]
        refine h.tickets.use (k := id) (x := snapshot.refundId) ?_ fun k =>
          cancellationHolder_set hr k
        rw [cancellationHolder, hr]
        rfl
      · intro k r snapshot' hr' hcarries
        rcases Table.find_set_cases hr' hr with ⟨_, rfl⟩ | ⟨_, hr'⟩
        · cases hcarries
          exact Or.inr ⟨hbooking, hheld⟩
        · exact Or.inl hr'
      · intro call hcall
        rcases List.mem_append.mp hcall with hold | hnew
        · exact Or.inl hold
        · rw [List.mem_singleton] at hnew
          subst hnew
          exact Or.inr hheld
  · exact h

end

theorem World.closeCancellation_move {w : World}
    (h : CancellationsSound w.db.ledger w.cancellationRequests w.refundCalls) (requestId : Uuid)
    (answer : ProviderAnswer) (now : Timestamp) :
    Move w.db.ledger .other (w.closeCancellation requestId answer now).db.ledger := by
  unfold World.closeCancellation
  split
  · next snapshot hr =>
    exact settleRefund_move answer now (h.requests requestId _ snapshot hr rfl).2.names
  · exact Move.stay

theorem World.closeCancellation_sound {w : World} (hL : w.db.ledger.Sound)
    (h : CancellationsSound w.db.ledger w.cancellationRequests w.refundCalls) (requestId : Uuid)
    (answer : ProviderAnswer) (now : Timestamp) :
    CancellationsSound (w.closeCancellation requestId answer now).db.ledger
      (w.closeCancellation requestId answer now).cancellationRequests
      (w.closeCancellation requestId answer now).refundCalls := by
  have hmove := w.closeCancellation_move h requestId answer now
  unfold World.closeCancellation at hmove ⊢
  split
  · next id userId bookingId expectedVersion snapshot hr =>
    have hid : id = requestId := Table.key_of_find hr
    subst hid
    simp only [hr] at hmove
    exact h.settle hL hmove hr (CancellationRequest.ticket_settled ..) rfl
      fun _ => CancellationRequest.carries_settled
  · exact h

theorem World.readCancellation_sound {w : World} (hL : w.db.ledger.Sound)
    (h : CancellationsSound w.db.ledger w.cancellationRequests w.refundCalls) (requestId : Uuid) :
    CancellationsSound (w.readCancellation requestId).db.ledger
      (w.readCancellation requestId).cancellationRequests
      (w.readCancellation requestId).refundCalls := by
  unfold World.readCancellation
  split
  · next id userId bookingId expectedVersion snapshot reported hr =>
    have hid : id = requestId := Table.key_of_find hr
    subst hid
    exact h.settle hL Move.stay hr rfl rfl fun _ hcarries => hcarries
  · next id userId bookingId expectedVersion snapshot reported booking hr =>
    have hid : id = requestId := Table.key_of_find hr
    subst hid
    exact h.settle hL Move.stay hr rfl rfl fun _ hcarries => hcarries.elim
  · exact h

end ChargeMate
