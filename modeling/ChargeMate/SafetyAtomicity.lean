import ChargeMate.RefineStatements
import ChargeMate.SafetyRefunds

/-! The transactions of the payments are atomic. Their statements interleave, and the rows that
they lock keep everyone else out of what they have read and are going to write. -/

namespace ChargeMate

open Relational Atomicity

theorem serialStep_program {Body T : Type} (env : Env Body) (calls : T → PaymentTransaction) :
    serialStep (fun t => (calls t).program env) = serialTransaction env calls := by
  funext s e
  cases e with
  | transaction t => simp only [serialStep, serialTransaction, PaymentTransaction.program_run]
  | other write => rfl

/-- The row locks make the transactions of the payments atomic. From every reachable state, let any
number of them interleave statement by statement, with rollbacks and with other writers that keep
`provider_order_id` unique and change no locked row. Then the database is that of a serial run of
the same other writes in the same order and of the transactions that have finished, each of which
runs at once, as an action of the system does; and by its commit each has computed what it computes
there. -/
theorem payment_transactions_atomic {Body : Type} (env : Env Body) {w : World}
    (h : w.Reachable env) {T : Type} [Fintype T] [DecidableEq T] (calls : T → PaymentTransaction)
    (actions : List (Atomicity.Action Database T))
    (halong : Transition.Along (Atomicity.step fun t => (calls t).program env)
      (Respects Database.DistinctOrders SameRow)
      (Atomicity.start (fun t => (calls t).program env) w.db) actions) :
    ∃ events : List (Event Database T),
      let serial := Transition.run (serialTransaction env calls) (w.db, []) events
      serial.1 = (interleaved env calls w.db actions).store ∧
      (serial.2.map Prod.fst).Nodup ∧
      (∀ t result, (t, result) ∈ serial.2 ↔
        (interleaved env calls w.db actions).phase t = .finished result) ∧
      events.filterMap Event.write = actions.filterMap Atomicity.Action.write := by
  have hstore : w.db.DistinctOrders := h.sound.ledger.payments.orders
  obtain ⟨events, hexplains, hwrites⟩ := serializable hstore SameRow.refl SameRow.trans
    (fun t => (calls t).program_disciplined env) halong
  refine ⟨events, ?_⟩
  rw [← serialStep_program env calls]
  exact ⟨hexplains.store, hexplains.once, hexplains.results, hwrites⟩

/-- One attempt is closed while another one is begun for the same booking: the second transaction
holds the booking when the first one asks for it. -/
def sampleCalls : Bool → PaymentTransaction
  | true => .finalizeProviderOrder 30 20 ⟨"order_A", .int 10000, "INR", "created"⟩
  | false => .beginPaymentAttempt sampleUser ⟨20, 2, 31⟩ 31 0

def sampleStatements : List (Atomicity.Action Database Bool) :=
  [.advance true, .advance false, .advance true, .advance false, .advance true, .advance true]

/-- An attempt whose order has been asked for. -/
def sampleAsked : World :=
  sampleWorld.run sampleEnv [sampleHold 20 1, .requestOrder 30 sampleUser ⟨20, 1, 30⟩,
    .beginOrder 30 30 0, .callOrder 30]

theorem payment_transactions_atomic_sample : ∃ events : List (Event Database Bool),
    let s := interleaved sampleEnv sampleCalls sampleAsked.db sampleStatements
    (s.store.payments.find 30).map Payment.status = some .orderCreated ∧
    (Transition.run (serialTransaction sampleEnv sampleCalls)
      (sampleAsked.db, []) events).1 = s.store := by
  obtain ⟨events, hstore, _⟩ := payment_transactions_atomic sampleEnv (sampleWorld_reachable _)
    sampleCalls sampleStatements ⟨trivial, trivial, trivial, trivial, trivial, trivial, trivial⟩
  exact ⟨events, by decide +kernel, hstore⟩

end ChargeMate
