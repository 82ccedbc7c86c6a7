import ChargeMate.RefineFrames
import ChargeMate.SafetyStatuses

/-! Webhook deliveries in every run: one that is not accepted might as well not have been sent. -/

namespace ChargeMate

open Relational

/-! ### The requests in flight -/

/-- The delivery that an action receives or stores. -/
def Action.delivery {Body : Type} : Action Body → Option Uuid
  | .receiveDelivery deliveryId _ | .storeDelivery deliveryId _ _ => some deliveryId
  | _ => none

/-- Whether a delivery has been accepted: its event row is committed. -/
def World.hasAccepted (w : World) (deliveryId : Uuid) : Bool :=
  match w.outcomeOf deliveryId with
  | some (.event _) => true
  | _ => false

/-- Whether an action remains when only the deliveries accepted by the end of the run are kept. -/
def Action.keptBy {Body : Type} (a : Action Body) (final : World) : Bool :=
  a.delivery.all final.hasAccepted

/-- A request after its transaction; one that is answered already has none. -/
def DeliveryRequest.store (r : DeliveryRequest) (eventRowId : Uuid) (now : Timestamp)
    (db : Database) : DeliveryRequest :=
  match r.phase with
  | .accepted d => ⟨r.id, .answered (storeDelivery d eventRowId now db).1⟩
  | .answered _ => r

section

variable {Body : Type} (env : Env Body)

/-- A request is received under a free identifier only. -/
theorem World.find_receiveDelivery (w : World) (deliveryId : Uuid) (request : WebhookRequest Body)
    (k : Uuid) : (w.receiveDelivery env deliveryId request).deliveries.find k =
      (w.deliveries.find k).or (if deliveryId = k then
        (truthy env.razorpayWebhookSecret).map fun webhookSecret =>
          ⟨deliveryId, receiveWebhook env webhookSecret request w.db⟩
      else none) := by
  unfold World.receiveDelivery
  cases hsecret : truthy env.razorpayWebhookSecret with
  | none => simp
  | some webhookSecret =>
      simp only [Option.map_some]
      cases hins : w.deliveries.insert
          ⟨deliveryId, receiveWebhook env webhookSecret request w.db⟩ with
      | none =>
          simp only
          split
          · next hk =>
            subst hk
            cases hfind : w.deliveries.find deliveryId with
            | some r => rfl
            | none =>
                obtain ⟨t, ht⟩ := Table.exists_insert (r := (⟨deliveryId, receiveWebhook env
                  webhookSecret request w.db⟩ : DeliveryRequest)) hfind
                rw [hins] at ht
                cases ht
          · rw [Option.or_none]
      | some t =>
          have hnew := (Table.insert_eq_some.mp hins).1
          simp only [Table.find_insert hins]
          show (if deliveryId = k then _ else _) = _
          split
          · next hk =>
            subst hk
            rw [show w.deliveries.find deliveryId = none from hnew]
            rfl
          · rw [Option.or_none]

omit env in
theorem World.find_storeDelivery (w : World) (deliveryId eventRowId : Uuid) (now : Timestamp)
    (k : Uuid) : (w.storeDelivery deliveryId eventRowId now).deliveries.find k =
      (w.deliveries.find k).map fun r =>
        if deliveryId = k then r.store eventRowId now w.db else r := by
  unfold World.storeDelivery
  split
  · next id d hd =>
    have hid : id = deliveryId := Table.key_of_find hd
    subst hid
    rw [Table.find_set (r := (⟨id, .answered (ChargeMate.storeDelivery d eventRowId now w.db).1⟩ :
      DeliveryRequest)) hd]
    show (if id = k then _ else _) = _
    split
    · next hk =>
      subst hk
      rw [hd]
      rfl
    · rw [Option.map_id']
  · next hnone =>
    cases hr : w.deliveries.find k with
    | none => rfl
    | some r =>
        simp only [Option.map_some, Option.some.injEq]
        split
        · next hk =>
          subst hk
          obtain ⟨id, phase⟩ := r
          cases phase with
          | answered result => rfl
          | accepted d => exact absurd hr (hnone id d)
        · rfl

omit env in
theorem World.db_storeDelivery (w : World) (deliveryId eventRowId : Uuid) (now : Timestamp) :
    (w.storeDelivery deliveryId eventRowId now).db =
      match (w.deliveries.find deliveryId).map DeliveryRequest.phase with
      | some (.accepted d) => (ChargeMate.storeDelivery d eventRowId now w.db).2
      | _ => w.db := by
  unfold World.storeDelivery
  split
  · next hd => rw [hd]; rfl
  · next hnone =>
    split
    · next d hd =>
      obtain ⟨⟨id, phase⟩, hr, rfl⟩ := Option.map_eq_some_iff.mp hd
      exact absurd hr (hnone id d)
    · rfl

omit env in
theorem World.storeDelivery_eq (w : World) (deliveryId eventRowId : Uuid) (now : Timestamp) :
    ∃ db deliveries, w.storeDelivery deliveryId eventRowId now = { w with db, deliveries } := by
  unfold World.storeDelivery
  split
  · exact ⟨_, _, rfl⟩
  · exact ⟨w.db, w.deliveries, rfl⟩

/-- Every other action neither reads nor writes the deliveries. -/
theorem World.step_deliveries (w : World) {a : Action Body} (ha : a.delivery = none)
    (deliveries : Table DeliveryRequest) :
    World.step env { w with deliveries } a = { w.step env a with deliveries } := by
  cases a with
  | receiveDelivery | storeDelivery => cases ha
  | requestOrder requestId user payload =>
      simp only [World.step, World.requestOrder]
      split <;> rfl
  | beginOrder requestId paymentId now =>
      simp only [World.step, World.beginOrder]
      split <;> rfl
  | callOrder requestId =>
      simp only [World.step, World.callOrder]
      split <;> rfl
  | closeOrder requestId answer now =>
      simp only [World.step, World.closeOrder]
      split <;> rfl
  | requestCancellation requestId userId bookingId expectedVersion refundId choice now createdAt =>
      simp only [World.step, World.requestCancellation]
      split <;> rfl
  | callRefund requestId =>
      simp only [World.step, World.callRefund]
      split
      · split <;> rfl
      · rfl
  | closeCancellation requestId answer now =>
      simp only [World.step, World.closeCancellation]
      split <;> rfl
  | readCancellation requestId =>
      simp only [World.step, World.readCancellation]
      split <;> rfl
  | startReconciliation runId batchSize =>
      simp only [World.step, World.startReconciliation]
      split
      · rfl
      · split <;> rfl
  | reconcileNext runId answer now =>
      simp only [World.step, World.reconcileNext]
      split
      · rfl
      · split <;> rfl
  | _ => rfl

theorem World.deliveries_step (w : World) {a : Action Body} (ha : a.delivery = none) :
    (w.step env a).deliveries = w.deliveries := by
  have hstep : w.step env a = { w.step env a with deliveries := w.deliveries } :=
    w.step_deliveries env ha w.deliveries
  rw [hstep]

/-! ### Dropping the deliveries that are not accepted -/

omit env in
/-- A delivery that is accepted by an action was not answered before, and stays accepted. -/
theorem World.hasAccepted_iff {w : World} {deliveryId : Uuid} : w.hasAccepted deliveryId = true ↔
    ∃ r status, w.deliveries.find deliveryId = some r ∧
      r.phase = .answered (.ok (.event status)) := by
  unfold World.hasAccepted World.outcomeOf
  cases hr : w.deliveries.find deliveryId with
  | none => simp
  | some r =>
      obtain ⟨id, phase⟩ := r
      cases phase with
      | accepted d => simp
      | answered result =>
          cases result with
          | error e => simp
          | ok outcome => cases outcome <;> simp

theorem World.hasAccepted_step {w : World} (a : Action Body) {deliveryId : Uuid}
    (h : w.hasAccepted deliveryId = true) : (w.step env a).hasAccepted deliveryId = true := by
  obtain ⟨r, status, hr, hphase⟩ := World.hasAccepted_iff.mp h
  refine World.hasAccepted_iff.mpr ⟨r, status, ?_, hphase⟩
  cases ha : a.delivery with
  | none => rw [w.deliveries_step env ha, hr]
  | some id =>
      cases a with
      | receiveDelivery id' request =>
          rw [World.step, World.find_receiveDelivery, hr]
          rfl
      | storeDelivery id' eventRowId now =>
          rw [World.step, World.find_storeDelivery, hr]
          simp [DeliveryRequest.store, hphase]
      | _ => cases ha

/-- Two worlds that differ only in deliveries that need not be kept. -/
structure World.AgreesOn (kept : Uuid → Bool) (w v : World) : Prop where
  same : v = { w with deliveries := v.deliveries }
  deliveries : ∀ id, kept id = true → v.deliveries.find id = w.deliveries.find id

variable {env}

theorem World.AgreesOn.step_kept {kept : Uuid → Bool} {w v : World} (h : World.AgreesOn kept w v)
    {a : Action Body} (ha : a.delivery.all kept = true) :
    World.AgreesOn kept (w.step env a) (v.step env a) := by
  have hdb : v.db = w.db := by rw [h.same]
  cases hdelivery : a.delivery with
  | none =>
      have hstep : v.step env a = { w.step env a with deliveries := v.deliveries } := by
        rw [h.same]
        exact w.step_deliveries env hdelivery _
      refine ⟨?_, fun id hid => ?_⟩
      · rw [v.deliveries_step env hdelivery]
        exact hstep
      · rw [v.deliveries_step env hdelivery, w.deliveries_step env hdelivery, h.deliveries id hid]
  | some deliveryId =>
      rw [hdelivery] at ha
      have hfind := h.deliveries deliveryId ha
      cases a with
      | receiveDelivery id request =>
          cases hdelivery
          obtain ⟨deliveries, hw⟩ := w.receiveDelivery_eq env deliveryId request
          obtain ⟨deliveries', hv⟩ := v.receiveDelivery_eq env deliveryId request
          refine ⟨?_, fun id hid => ?_⟩
          · rw [World.step, World.step, hw, hv, h.same]
          · rw [World.step, World.step, World.find_receiveDelivery, World.find_receiveDelivery,
              h.deliveries id hid, hdb]
      | storeDelivery id eventRowId now =>
          cases hdelivery
          obtain ⟨db, deliveries, hw⟩ := w.storeDelivery_eq deliveryId eventRowId now
          obtain ⟨db', deliveries', hv⟩ := v.storeDelivery_eq deliveryId eventRowId now
          have hdbs := w.db_storeDelivery deliveryId eventRowId now
          have hdbs' := v.db_storeDelivery deliveryId eventRowId now
          refine ⟨?_, fun id hid => ?_⟩
          · rw [hfind, hdb, ← hdbs, hw, hv] at hdbs'
            simp only at hdbs'
            rw [World.step, World.step, hw, hv, h.same, hdbs']
          · rw [World.step, World.step, World.find_storeDelivery, World.find_storeDelivery,
              h.deliveries id hid, hdb]
      | _ => cases hdelivery

/-- A transaction that does not accept its delivery changes nothing but its answer. -/
theorem World.storeDelivery_rejected {w : World} {deliveryId eventRowId : Uuid} {now : Timestamp}
    (h : (w.storeDelivery deliveryId eventRowId now).hasAccepted deliveryId = false) :
    (w.storeDelivery deliveryId eventRowId now).db = w.db := by
  rw [World.db_storeDelivery]
  split
  · next d hd =>
    obtain ⟨r, hr, hphase⟩ := Option.map_eq_some_iff.mp hd
    rcases storeDelivery_events d eventRowId now w.db with
      ⟨_, heq⟩ | ⟨_, status, hanswer, _⟩
    · exact heq
    · rw [Bool.eq_false_iff] at h
      refine absurd (World.hasAccepted_iff.mpr ?_) h
      refine ⟨r.store eventRowId now w.db, status, ?_, ?_⟩
      · rw [World.find_storeDelivery, hr]
        simp
      · simp [DeliveryRequest.store, hphase, hanswer]
  · rfl

theorem World.AgreesOn.step_dropped {kept : Uuid → Bool} {w v : World}
    (h : World.AgreesOn kept w v) {a : Action Body} (ha : a.delivery.all kept = false)
    (hend : ∀ id, (w.step env a).hasAccepted id = true → kept id = true) :
    World.AgreesOn kept (w.step env a) v := by
  obtain ⟨deliveryId, hdelivery, hkept⟩ : ∃ id, a.delivery = some id ∧ kept id = false := by
    cases hd : a.delivery with
    | none => simp [hd] at ha
    | some id => exact ⟨id, rfl, by simpa [hd] using ha⟩
  have hne : ∀ id, kept id = true → deliveryId ≠ id := by
    rintro id hid rfl
    rw [hid] at hkept
    cases hkept
  cases a with
  | receiveDelivery id request =>
      cases hdelivery
      obtain ⟨deliveries, hw⟩ := w.receiveDelivery_eq env deliveryId request
      refine ⟨?_, fun id hid => ?_⟩
      · rw [World.step, hw, h.same]
      · rw [World.step, World.find_receiveDelivery, if_neg (hne id hid), Option.or_none,
          h.deliveries id hid]
  | storeDelivery id eventRowId now =>
      cases hdelivery
      have hrejected : (w.storeDelivery deliveryId eventRowId now).hasAccepted deliveryId = false := by
        by_contra haccepted
        rw [Bool.not_eq_false] at haccepted
        exact hne deliveryId (hend deliveryId haccepted) rfl
      have hdbs := World.storeDelivery_rejected hrejected
      obtain ⟨db, deliveries, hw⟩ := w.storeDelivery_eq deliveryId eventRowId now
      refine ⟨?_, fun id hid => ?_⟩
      · rw [hw] at hdbs
        simp only at hdbs
        rw [World.step, hw, h.same, hdbs]
      · rw [World.step, World.find_storeDelivery, h.deliveries id hid]
        simp [hne id hid]
  | _ => cases hdelivery

/-- A run and the same run without the deliveries that it does not accept end alike. -/
theorem World.run_accepted (w : World) (actions : List (Action Body)) :
    (w.run env (actions.filter fun a => a.keptBy (w.run env actions))).db =
      (w.run env actions).db := by
  have hagrees := Transition.run_filter
    (R := World.AgreesOn (w.run env actions).hasAccepted)
    (P := fun s : World => ∀ id, s.hasAccepted id = true →
      (w.run env actions).hasAccepted id = true)
    (fun s a hs id hid => hs id (World.hasAccepted_step env a hid))
    (fun s t a hst ha => hst.step_kept ha) (fun s t a hst hs ha => hst.step_dropped ha hs)
    (⟨rfl, fun _ _ => rfl⟩ : World.AgreesOn _ w w)
    (show ∀ id, (w.run env actions).hasAccepted id = true →
      (w.run env actions).hasAccepted id = true from fun _ hid => hid)
  have hsame := hagrees.same
  rw [World.run, World.run, show (fun a : Action Body => a.keptBy (w.run env actions)) =
    fun a => a.delivery.all (w.run env actions).hasAccepted from rfl, hsame]

end

end ChargeMate
