import ChargeMate.SafetyCaptures

/-! Payment events in every run: what a capture leads to once it has been answered. -/

namespace ChargeMate

open Relational

/-- A delivery that the transaction has answered as an event, read off its payment notice. -/
theorem storeDelivery_notice {d : Delivery} {rowId : Uuid} {now : Timestamp} {db : Database}
    {n : PaymentNotice} {p : Payment} {status : WebhookEventStatus} (hn : d.notice = some n)
    (hp : n.subject db = some p) (h : (storeDelivery d rowId now db).1 = .ok (.event status)) :
    ∃ event flushed db₁, d.flush rowId db = .ok (event, flushed) ∧
      (storeDelivery d rowId now db).2 =
        db₁.updateWebhookEvent { event with status, processedAt := some now } ∧
      ((status = .ignored ∧ ¬(n.Matches p ∧ n.Agrees p) ∧
          flushed.updatePayment { p with lastErrorCode := some (n.complaint p) } = .ok db₁) ∨
        (status = .processed ∧ n.Matches p ∧ n.Agrees p ∧ n.applied p now flushed = .ok db₁)) := by
  rcases storeDelivery_cases d rowId now db with
    ⟨hnone, _⟩ | ⟨event, flushed, db₁, status', hflush, hanswer, hdb, hcases⟩
  · exact absurd h (hnone status)
  rw [h] at hanswer
  cases hanswer
  refine ⟨event, flushed, db₁, hflush, hdb, ?_⟩
  have hnotice := hn
  rw [Delivery.notice] at hnotice
  rcases hcases with ⟨hsup, _⟩ | ⟨event, entity, hsup, _⟩ | ⟨event, entity, hsup, hentity, happly⟩
  · simp [hsup] at hnotice
  · simp [hsup] at hnotice
  · simp only [hsup, hentity, Except.toOption, Option.bind_some] at hnotice
    obtain ⟨n', hn', hcases⟩ := applyPaymentEvent_cases happly
    rw [hnotice] at hn'
    cases hn'
    rw [PaymentNotice.subject, Delivery.payments_flush hflush, ← PaymentNotice.subject,
      hp] at hcases
    rcases hcases with ⟨hnone, _⟩ | ⟨q, hq, hcases⟩
    · cases hnone
    · cases hq
      exact hcases

/-- The payment of a capture that was applied has been collected. -/
theorem PaymentNotice.applied_collected {n : PaymentNotice} {p : Payment} {now : Timestamp}
    {db db' : Database} (hcaptured : n.event = .captured) (hp : db.payments.find p.id = some p)
    (h : n.applied p now db = .ok db') :
    ∃ q, db'.payments.find p.id = some q ∧ q.Collected := by
  obtain ⟨paymentId, _, h⟩ := applied_eq_ok.mp h
  rw [PaymentNotice.appliedTo, hcaptured] at h
  rcases applyCapturedPayment_cases h with ⟨hrefunded, hupd⟩ | ⟨_, b, _, ⟨_, db₁, hupd, rfl⟩ |
    ⟨_, hupd⟩ | ⟨_, _, hupd⟩⟩
  · exact ⟨_, Database.find_updatePayment hupd rfl hp, Or.inr hrefunded⟩
  · have hq := Database.find_updatePayment hupd rfl hp
    exact ⟨_, hq, Or.inl rfl⟩
  · exact ⟨_, Database.find_updatePayment hupd rfl hp, Or.inl rfl⟩
  · exact ⟨_, Database.find_updatePayment hupd rfl hp, Or.inl rfl⟩

theorem Payment.Continues.collected {p p' : Payment} (h : p.Continues p') (hp : p.Collected) :
    p'.Collected := by
  have hrank : PaymentStatus.captured.rank ≤ p'.status.rank := by
    refine le_trans ?_ h.rank
    rcases hp with hs | hs
    · rw [hs]
    · rw [hs]
      decide
  cases hs : p'.status <;> rw [hs] at hrank <;>
    first | exact absurd hrank (by decide) | simp [Payment.Collected, hs]

/-- What has been answered to the provider for a delivery. -/
def World.outcomeOf (w : World) (deliveryId : Uuid) : Option WebhookOutcome :=
  match w.deliveries.find deliveryId with
  | some ⟨_, .answered (.ok outcome)⟩ => some outcome
  | _ => none

/-- A delivery that is stored with a payment notice: the transaction behind its answer. -/
theorem World.storeDelivery_answered {Body : Type} {w : World} {deliveryId eventRowId : Uuid}
    {now : Timestamp} {n : PaymentNotice} {p : Payment} {status : WebhookEventStatus}
    (hnotice : w.noticeOf (.storeDelivery deliveryId eventRowId now : Action Body) = some (n, p))
    (hanswer : (w.storeDelivery deliveryId eventRowId now).outcomeOf deliveryId =
      some (.event status)) :
    ∃ d, d.notice = some n ∧ n.subject w.db = some p ∧
      (ChargeMate.storeDelivery d eventRowId now w.db).1 = .ok (.event status) ∧
      (w.storeDelivery deliveryId eventRowId now).db =
        (ChargeMate.storeDelivery d eventRowId now w.db).2 := by
  have hsubject := World.noticeOf_subject hnotice
  simp only [World.noticeOf] at hnotice
  split at hnotice
  · next id d hd =>
    have hid : id = deliveryId := Table.key_of_find hd
    subst hid
    split at hnotice
    · simp only [Option.bind_eq_some_iff, Option.map_eq_some_iff, Prod.mk.injEq] at hnotice
      obtain ⟨n', hn, _, _, rfl, _⟩ := hnotice
      simp only [World.storeDelivery, hd] at hanswer ⊢
      refine ⟨d, hn, hsubject, ?_, rfl⟩
      have hself : (w.deliveries.set (⟨id, .answered
          (ChargeMate.storeDelivery d eventRowId now w.db).1⟩ : DeliveryRequest)).find id =
          some ⟨id, .answered (ChargeMate.storeDelivery d eventRowId now w.db).1⟩ :=
        Table.find_set_self (r := (⟨id, .answered
          (ChargeMate.storeDelivery d eventRowId now w.db).1⟩ : DeliveryRequest)) hd
      rw [World.outcomeOf, hself] at hanswer
      cases hresult : (ChargeMate.storeDelivery d eventRowId now w.db).1 with
      | error e => simp [hresult] at hanswer
      | ok outcome => simpa [hresult] using hanswer
    · cases hnotice
  · cases hnotice

/-- A capture with the right amount that is answered as processed is never dropped; it is processed
unless another provider payment is pinned, and then only the mismatch is recorded. -/
theorem capture_never_dropped {Body : Type} (env : Env Body) {w : World} (h : w.Reachable env)
    {deliveryId eventRowId : Uuid} {now : Timestamp} {n : PaymentNotice} {p : Payment}
    {status : WebhookEventStatus}
    (hnotice : w.noticeOf (.storeDelivery deliveryId eventRowId now : Action Body) = some (n, p))
    (hcaptured : n.event = .captured) (hmatch : n.Matches p)
    (hanswer : (w.step env (.storeDelivery deliveryId eventRowId now)).outcomeOf deliveryId =
      some (.event status)) :
    (n.Agrees p → status = .processed ∧ ∀ actions : List (Action Body), ∃ q,
      ((w.step env (.storeDelivery deliveryId eventRowId now)).run env actions).db.payments.find
        p.id = some q ∧ (q.status = .captured ∨ q.status = .refunded)) ∧
    (¬n.Agrees p → status = .ignored ∧
      (w.step env (.storeDelivery deliveryId eventRowId now)).db.payments.find p.id =
        some { p with lastErrorCode := some "provider_payment_id_mismatch" }) := by
  have hnext := h.next (.storeDelivery deliveryId eventRowId now)
  rw [World.step] at hanswer hnext ⊢
  obtain ⟨d, hn, hsubject, hevent, hdb⟩ := World.storeDelivery_answered hnotice hanswer
  obtain ⟨_, flushed, db₁, hflush, hdb₁, hcases⟩ := storeDelivery_notice hn hsubject hevent
  have hp : flushed.payments.find p.id = some p := by
    rw [Delivery.payments_flush hflush]
    exact (PaymentNotice.find_subject hsubject).1
  have hpayments : (w.storeDelivery deliveryId eventRowId now).db.payments = db₁.payments := by
    rw [hdb, hdb₁]
    rfl
  constructor
  · intro hagrees
    rcases hcases with ⟨_, hnot, _⟩ | ⟨hprocessed, _, _, happlied⟩
    · exact absurd ⟨hmatch, hagrees⟩ hnot
    refine ⟨hprocessed, fun actions => ?_⟩
    obtain ⟨q, hq, hcollected⟩ := PaymentNotice.applied_collected hcaptured hp happlied
    rw [← hpayments] at hq
    obtain ⟨q', hq', hcont⟩ := World.Reachable.payment_run hnext actions hq
    exact ⟨q', hq', hcont.collected hcollected⟩
  · intro hagrees
    rcases hcases with ⟨hignored, _, hupd⟩ | ⟨_, _, hagrees', _⟩
    · refine ⟨hignored, ?_⟩
      rw [PaymentNotice.complaint_of_matches hmatch] at hupd
      obtain ⟨_, rfl⟩ := Database.updatePayment_eq_ok.mp hupd
      rw [hpayments]
      exact Table.find_set_self (r := { p with
        lastErrorCode := some "provider_payment_id_mismatch" }) hp
    · exact absurd hagrees' hagrees

/-- A capture is received for an order, and not stored yet. -/
def sampleReceived : List (Action Json) :=
  sampleHold 20 1 :: (sampleOrder 30 1 "order_A" ++
    [.receiveDelivery 40 (sampleRequest "evt_1" "payment.captured" "order_A" "pay_1")])

/-- The first try of a checkout fails, and the second one is captured. -/
def sampleRetry : List (Action Json) :=
  sampleHold 20 1 :: (sampleOrder 30 1 "order_A" ++
    sampleDelivery 40 "evt_1" "payment.failed" "order_A" "pay_1" ++
    [.receiveDelivery 41 (sampleRequest "evt_2" "payment.captured" "order_A" "pay_2")])

theorem capture_never_dropped_counterexample :
    (sampleWorld.run sampleEnv sampleRetry).Reachable sampleEnv ∧
      ∃ x ∈ (sampleWorld.run sampleEnv sampleRetry).noticeOf (.storeDelivery 41 41 0 : Action Json),
        x.1.event = .captured ∧ x.1.Matches x.2 ∧
        ((sampleWorld.run sampleEnv sampleRetry).step sampleEnv (.storeDelivery 41 41 0)).outcomeOf
          41 = some (.event .ignored) ∧
        ∃ q ∈ ((sampleWorld.run sampleEnv sampleRetry).step sampleEnv
          (.storeDelivery 41 41 0)).db.payments.find x.2.id, q.status = .failed :=
  ⟨sampleWorld_reachable _, by decide +kernel⟩

/-- The order of the sample is captured at the first try, and stays so. -/
theorem capture_never_dropped_sample :
    ∃ n p, (sampleWorld.run sampleEnv sampleReceived).noticeOf
        (.storeDelivery 40 40 0 : Action Json) = some (n, p) ∧
      ∃ q, (((sampleWorld.run sampleEnv sampleReceived).step sampleEnv
        (.storeDelivery 40 40 0)).run sampleEnv
          (sampleDelivery 41 "evt_2" "payment.failed" "order_A" "pay_1")).db.payments.find p.id =
        some q ∧ (q.status = .captured ∨ q.status = .refunded) := by
  have hnotice : ∃ x ∈ (sampleWorld.run sampleEnv sampleReceived).noticeOf
      (.storeDelivery 40 40 0 : Action Json), x.1.event = .captured ∧ x.1.Matches x.2 ∧
        x.1.Agrees x.2 := by decide +kernel
  have hanswer : ((sampleWorld.run sampleEnv sampleReceived).step sampleEnv
      (.storeDelivery 40 40 0)).outcomeOf 40 = some (.event .processed) := by decide +kernel
  obtain ⟨⟨n, p⟩, hx, hcaptured, hmatch, hagrees⟩ := hnotice
  exact ⟨n, p, hx, ((capture_never_dropped sampleEnv (sampleWorld_reachable _) hx hcaptured hmatch
    hanswer).1 hagrees).2 _⟩

end ChargeMate
