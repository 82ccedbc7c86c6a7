import ChargeMate.SafetyWebhooks

/-! The status of a payment in every run: it only moves upward, and what the browser reports about
a checkout never decides over what the provider has. -/

namespace ChargeMate

open Relational

/-- A captured payment can only become refunded, and a refunded one stays so. -/
theorem PaymentStatus.of_rank_le {s t : PaymentStatus} (h : s.rank ≤ t.rank) :
    (s = .captured → t = .captured ∨ t = .refunded) ∧ (s = .refunded → t = .refunded) := by
  constructor <;>
    · rintro rfl
      cases t <;> simp [PaymentStatus.rank] at h ⊢

/-- A stored payment after a verification. -/
theorem verifyCheckoutPayment_payment {Body : Type} (env : Env Body) (user : User)
    (payload : VerifyCheckoutPaymentRequest) {db : Database} {id : Uuid} {p : Payment}
    (hp : db.payments.find id = some p) : ∃ p',
      (verifyCheckoutPayment env user payload db).2.payments.find id = some p' ∧
        (p' = p ∨ p.Authorizes payload.razorpayPaymentId p') := by
  rcases verifyCheckoutPayment_cases env user payload db with
    ⟨e, heq⟩ | ⟨q, hq, _, _, heq | ⟨q', db', hauth, hupd, heq⟩⟩
  · exact ⟨p, by rw [heq, hp], Or.inl rfl⟩
  · exact ⟨p, by rw [heq, hp], Or.inl rfl⟩
  · have hkey : db.payments.find q'.id = some q := by rw [hauth.row]; exact hq
    obtain ⟨_, rfl⟩ := Database.updatePayment_eq_ok.mp hupd
    rw [heq, Table.find_set (r := q') hkey]
    split
    · next hk =>
      rw [← hk, Payment.key_eq, hkey] at hp
      cases hp
      exact ⟨q', rfl, Or.inr hauth⟩
    · exact ⟨p, hp, Or.inl rfl⟩

/-- A payment that the provider has decided about: what a webhook leaves it at. -/
def Payment.Decided (p : Payment) : Prop := PaymentStatus.authorized.rank ≤ p.status.rank

theorem Payment.Continues.decided {p p' : Payment} (h : p.Continues p') (hp : p.Decided) :
    p'.Decided :=
  le_trans hp h.rank

theorem Payment.Decided.of_collected {p : Payment} (h : p.Collected) : p.Decided := by
  rcases h with hs | hs <;> simp [Payment.Decided, hs, PaymentStatus.rank]

/-- A notice that has been processed has decided its payment. -/
theorem PaymentNotice.applied_decided {n : PaymentNotice} {p : Payment} {now : Timestamp}
    {db db' : Database} (hp : db.payments.find p.id = some p) (hopened : p.status ≠ .initiated)
    (h : n.applied p now db = .ok db') :
    ∃ q, db'.payments.find p.id = some q ∧ q.Decided := by
  obtain ⟨paymentId, _, happlied⟩ := applied_eq_ok.mp h
  cases hevent : n.event with
  | captured =>
      obtain ⟨q, hq, hcollected⟩ := PaymentNotice.applied_collected hevent hp h
      exact ⟨q, hq, .of_collected hcollected⟩
  | authorized =>
      rw [PaymentNotice.appliedTo, hevent] at happlied
      simp only at happlied
      split at happlied
      · exact ⟨_, Database.find_updatePayment happlied rfl hp, by simp [Payment.Decided]⟩
      · next hcreated =>
        refine ⟨_, Database.find_updatePayment happlied rfl hp, ?_⟩
        cases hs : p.status <;> simp_all [Payment.Decided, Payment.pinned, PaymentStatus.rank]
  | failed =>
      rw [PaymentNotice.appliedTo, hevent] at happlied
      rcases applyFailedPayment_cases happlied with ⟨hcollected, hupd⟩ | ⟨_, b, db₁, _, hupd, rfl⟩
      · exact ⟨_, Database.find_updatePayment hupd rfl hp, .of_collected hcollected⟩
      · have hq := Database.find_updatePayment hupd rfl hp
        exact ⟨_, hq, by simp [Payment.Decided, PaymentStatus.rank]⟩

/-- A verification leaves a decided payment as it is. -/
theorem Payment.Decided.verify {Body : Type} (env : Env Body) (user : User)
    (payload : VerifyCheckoutPaymentRequest) {db : Database} {id : Uuid} {p : Payment}
    (hp : db.payments.find id = some p) (hdecided : p.Decided) :
    (verifyCheckoutPayment env user payload db).2.payments.find id = some p := by
  obtain ⟨p', hp', rfl | hauth⟩ := verifyCheckoutPayment_payment env user payload hp
  · exact hp'
  · rw [Payment.Decided, hauth.created] at hdecided
    exact absurd hdecided (by decide)

/-- The status of every payment moves upward only, along every run. The identifiers of the provider
stay once they are set. A verification by the browser at most authorizes a created order, answers
with a captured payment only if it is stored so, and after a processed webhook changes nothing. -/
theorem payment_status_monotone {Body : Type} (env : Env Body) {w : World} (h : w.Reachable env) :
    (∀ (actions : List (Action Body)) id p, w.db.payments.find id = some p →
      ∃ p', (w.run env actions).db.payments.find id = some p' ∧
        p.status.rank ≤ p'.status.rank ∧
        (p.status = .captured → p'.status = .captured ∨ p'.status = .refunded) ∧
        (p.status = .refunded → p'.status = .refunded) ∧
        (∀ o, p.providerOrderId = some o → p'.providerOrderId = some o) ∧
        ∀ x, p.providerPaymentId = some x → p'.providerPaymentId = some x) ∧
    (∀ user payload id p, w.db.payments.find id = some p →
      ∃ p', (w.step env (.verifyCheckoutPayment user payload)).db.payments.find id = some p' ∧
        (p' = p ∨ (p.status = .orderCreated ∧ p' = { p with
          providerPaymentId := some payload.razorpayPaymentId
          status := .authorized }))) ∧
    (∀ user payload p, (verifyCheckoutPayment env user payload w.db).1 = .ok p →
      p.status = .captured → w.db.payments.find p.id = some p) ∧
    ∀ deliveryId eventRowId now n p,
      w.noticeOf (.storeDelivery deliveryId eventRowId now : Action Body) = some (n, p) →
      (w.step env (.storeDelivery deliveryId eventRowId now)).outcomeOf deliveryId =
        some (.event .processed) →
      ∀ (actions : List (Action Body)) user payload,
        (((w.step env (.storeDelivery deliveryId eventRowId now)).run env actions).step env
          (.verifyCheckoutPayment user payload)).db.payments.find p.id =
        ((w.step env (.storeDelivery deliveryId eventRowId now)).run env actions).db.payments.find
          p.id := by
  refine ⟨?_, ?_, ?_, ?_⟩
  · intro actions id p hp
    obtain ⟨p', hp', hcont⟩ := h.payment_run actions hp
    obtain ⟨hcaptured, hrefunded⟩ := PaymentStatus.of_rank_le hcont.rank
    exact ⟨p', hp', hcont.rank, hcaptured, hrefunded, hcont.order, hcont.pinned⟩
  · intro user payload id p hp
    obtain ⟨p', hp', rfl | hauth⟩ := verifyCheckoutPayment_payment env user payload hp
    · exact ⟨_, hp', Or.inl rfl⟩
    · exact ⟨p', hp', Or.inr ⟨hauth.created, hauth.row⟩⟩
  · intro user payload p hanswer hcaptured
    rcases verifyCheckoutPayment_cases env user payload w.db with
      ⟨e, heq⟩ | ⟨q, hq, _, _, heq | ⟨q', db', hauth, _, heq⟩⟩
    · rw [heq] at hanswer
      cases hanswer
    · rw [heq] at hanswer
      cases hanswer
      exact hq
    · rw [heq] at hanswer
      cases hanswer
      rw [hauth.row] at hcaptured
      cases hcaptured
  · intro deliveryId eventRowId now n p hnotice hanswer actions user payload
    have hnext := h.next (.storeDelivery deliveryId eventRowId now)
    rw [World.step] at hanswer hnext ⊢
    obtain ⟨d, hn, hsubject, hevent, hdb⟩ := World.storeDelivery_answered hnotice hanswer
    obtain ⟨_, flushed, db₁, hflush, hdb₁, ⟨hignored, _⟩ | ⟨_, _, _, happlied⟩⟩ :=
      storeDelivery_notice hn hsubject hevent
    · cases hignored
    obtain ⟨hp, horder⟩ := PaymentNotice.find_subject hsubject
    have hopened : p.status ≠ .initiated := by
      intro hs
      have hnone := (h.sound.ledger.payments.initiated p.id p hp hs).1
      rw [hnone] at horder
      cases horder
    rw [← Delivery.payments_flush hflush] at hp
    obtain ⟨q, hq, hdecided⟩ := PaymentNotice.applied_decided hp hopened happlied
    have hq' : (w.storeDelivery deliveryId eventRowId now).db.payments.find p.id = some q := by
      rw [hdb, hdb₁]
      exact hq
    obtain ⟨r, hr, hcont⟩ := World.Reachable.payment_run hnext actions hq'
    rw [hr]
    exact (hcont.decided hdecided).verify env user payload hr

/-- The order of the sample is captured, and a late failure notice leaves it captured. -/
theorem payment_status_monotone_sample :
    ∃ p', ((sampleWorld.run sampleEnv sampleReceived).run sampleEnv
      (.storeDelivery 40 40 0 :: sampleDelivery 41 "evt_2" "payment.failed" "order_A"
        "pay_1")).db.payments.find 30 = some p' ∧
      PaymentStatus.orderCreated.rank ≤ p'.status.rank := by
  have hstatus : ((sampleWorld.run sampleEnv sampleReceived).db.payments.find 30).map
      Payment.status = some .orderCreated := by decide +kernel
  obtain ⟨p, hp, hcreated⟩ := Option.map_eq_some_iff.mp hstatus
  obtain ⟨p', hp', hrank, _⟩ :=
    (payment_status_monotone sampleEnv (sampleWorld_reachable _)).1 _ 30 p hp
  exact ⟨p', hp', hcreated ▸ hrank⟩

end ChargeMate
