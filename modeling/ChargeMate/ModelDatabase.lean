import ChargeMate.ModelRows
import Mathlib.Tactic.Common

/-! The database and the transactions the services run on it. The text of a `try` block is a
function of the database that either raises or returns a value and the database to commit;
`transaction` adds what the `except` clauses do. Statements that a constraint or a column type
refuses raise as the driver does. The exclusion constraint `prevent_overlapping_bookings` is
left out: no transaction here relies on it. -/

namespace ChargeMate

open Relational

/-- The exceptions that leave a service, and those of the driver. -/
inductive Raised where
  | bookingTimeError
  | bookingUnavailableError
  | bookingStateConflictError
  | paymentConfigurationError
  | paymentStateConflictError
  | paymentProviderError
  | paymentVerificationError
  | webhookAuthenticationError
  | webhookPayloadError
  | chargingSessionStateConflictError
  | chargingSessionTimeError
  | chargingSessionMeterError
  | chargingSessionForbiddenError
  | stationNotFoundError
  | stationStateConflictError
  | stationConflictError
  | razorpayOrderError
  | razorpayRefundError
  | integrityError
  | dataError
  | attributeError
  | typeError
  | unicodeEncodeError
  /-- What no `except` clause names: a `RecursionError` of `json.loads`, an `httpx.InvalidURL`. -/
  | uncaughtError
  deriving DecidableEq

structure Database where
  stations : Table ChargingStation
  chargePoints : Table ChargePoint
  bookings : Table Booking
  payments : Table Payment
  refunds : Table Refund
  chargingSessions : Table ChargingSession
  paymentWebhookEvents : Table PaymentWebhookEvent

/-! ### Raising -/

/-- Go on if a condition holds, raise otherwise. -/
def ensure (c : Prop) [Decidable c] (e : Raised) : Except Raised Unit :=
  if c then .ok () else .error e

/-- The row that was found, or raise. -/
def orRaise {α : Type} (x : Option α) (e : Raised) : Except Raised α :=
  match x with
  | some a => .ok a
  | none => .error e

@[simp] theorem ensure_eq_ok {c : Prop} [Decidable c] {e : Raised} {u : Unit} :
    ensure c e = .ok u ↔ c := by
  unfold ensure
  split <;> simp_all

@[simp] theorem orRaise_eq_ok {α : Type} {x : Option α} {e : Raised} {a : α} :
    orRaise x e = .ok a ↔ x = some a := by
  cases x <;> simp [orRaise]

/-- A block that returns ran its first statement and then the rest. -/
@[simp] theorem bind_eq_ok {ε α β : Type} {x : Except ε α} {f : α → Except ε β} {b : β} :
    (x >>= f) = .ok b ↔ ∃ a, x = .ok a ∧ f a = .ok b := by
  cases x <;> simp [bind, Except.bind]

@[simp] theorem ensure_eq_error {c : Prop} [Decidable c] {e e' : Raised} :
    ensure c e = .error e' ↔ ¬c ∧ e = e' := by
  unfold ensure
  split <;> simp_all

@[simp] theorem orRaise_eq_error {α : Type} {x : Option α} {e e' : Raised} :
    orRaise x e = .error e' ↔ x = none ∧ e = e' := by
  cases x <;> simp [orRaise]

/-- A block that raises did so in its first statement or in the rest. -/
@[simp] theorem bind_eq_error {ε α β : Type} {x : Except ε α} {f : α → Except ε β} {e : ε} :
    (x >>= f) = .error e ↔ x = .error e ∨ ∃ a, x = .ok a ∧ f a = .error e := by
  cases x <;> simp [bind, Except.bind]

@[simp] theorem toOption_eq_some {ε α : Type} {x : Except ε α} {a : α} :
    x.toOption = some a ↔ x = .ok a := by
  cases x <;> simp [Except.toOption]

@[simp] theorem map_eq_ok {ε α β : Type} {x : Except ε α} {f : α → β} {b : β} :
    x.map f = .ok b ↔ ∃ a, x = .ok a ∧ f a = b := by
  cases x <;> simp [Except.map]

@[simp] theorem pure_ne_error {ε α : Type} {a : α} {e : ε} :
    (pure a : Except ε α) ≠ .error e := by
  simp [pure, Except.pure]

@[simp] theorem pure_eq_ok {ε α : Type} {a b : α} :
    (pure a : Except ε α) = .ok b ↔ a = b := by
  simp [pure, Except.pure]

/-! ### Transactions -/

/-- Commit what the block returns; on an exception roll back and raise, an `IntegrityError`
being replaced as the `except IntegrityError` clause says. -/
def transaction {α : Type} (integrity : Raised)
    (block : Database → Except Raised (α × Database)) (db : Database) :
    Except Raised α × Database :=
  match block db with
  | .ok (a, db') => (.ok a, db')
  | .error .integrityError => (.error integrity, db)
  | .error e => (.error e, db)

/-- A transaction either rolls back or commits what its block returned. -/
theorem transaction_cases {α : Type} (integrity : Raised)
    (block : Database → Except Raised (α × Database)) (db : Database) :
    (∃ e, transaction integrity block db = (.error e, db)) ∨
    ∃ a db', block db = .ok (a, db') ∧ transaction integrity block db = (.ok a, db') := by
  cases h : block db with
  | ok result => exact Or.inr ⟨result.1, result.2, rfl, by simp only [transaction, h]⟩
  | error e =>
      by_cases he : e = .integrityError
      · exact Or.inl ⟨integrity, by simp only [transaction, h, he]⟩
      · refine Or.inl ⟨e, ?_⟩
        cases e <;> first | exact absurd rfl he | simp only [transaction, h]

/-- A transaction that commits a change has returned. -/
theorem transaction_commits {α : Type} {integrity : Raised}
    {block : Database → Except Raised (α × Database)} {db : Database} :
    (transaction integrity block db).2 = db ∨
      ∃ a, transaction integrity block db = (.ok a, (transaction integrity block db).2) := by
  rcases transaction_cases integrity block db with ⟨e, he⟩ | ⟨a, db', _, ht⟩
  · exact Or.inl (by rw [he])
  · exact Or.inr ⟨a, by rw [ht]⟩

/-- What a transaction returns, its block has returned. -/
theorem transaction_eq_ok {α : Type} {integrity : Raised}
    {block : Database → Except Raised (α × Database)} {db db' : Database} {a : α} :
    transaction integrity block db = (.ok a, db') ↔ block db = .ok (a, db') := by
  constructor
  · intro h
    rcases transaction_cases integrity block db with ⟨e, he⟩ | ⟨a', db₁, hblock, ht⟩
    · rw [he] at h
      cases h
    · rw [ht] at h
      cases h
      exact hblock
  · intro h
    simp only [transaction, h]

theorem transaction_error {α : Type} {integrity e : Raised}
    {block : Database → Except Raised (α × Database)} {db : Database}
    (h : (transaction integrity block db).1 = .error e) :
    (transaction integrity block db).2 = db := by
  rcases transaction_cases integrity block db with ⟨e', he⟩ | ⟨a', db', hb, ht⟩
  · rw [he]
  · rw [ht] at h
    cases h

/-- An exception that leaves a transaction is the block's, but for an `IntegrityError`. -/
theorem raised_of_transaction {α : Type} {integrity e : Raised}
    {block : Database → Except Raised (α × Database)} {db : Database}
    (h : (transaction integrity block db).1 = .error e) : e = integrity ∨ block db = .error e := by
  unfold transaction at h
  split at h
  · cases h
  · cases h
    exact Or.inl rfl
  · next hblock =>
    cases h
    exact Or.inr hblock

/-! ### Column types and constraints -/

/-- The driver has no text with a NUL character in it. -/
def nullFree (s : String) : Bool := !s.toList.contains '\x00'

/-- `String(n)`: a longer text is refused. -/
def varchar (n : Nat) (s : String) : Bool := s.length ≤ n && nullFree s

theorem nullFree_iff {s : String} : nullFree s = true ↔ '\x00' ∉ s.toList := by
  rw [nullFree, Bool.not_eq_true', List.contains_eq_mem, decide_eq_false_iff_not]

theorem varchar_iff {n : Nat} {s : String} :
    varchar n s = true ↔ s.length ≤ n ∧ nullFree s = true := by
  rw [varchar, Bool.and_eq_true, decide_eq_true_eq]

/-- `Integer`: signed, of 32 bits. -/
def integer32 (n : Int) : Bool := -2147483648 ≤ n ∧ n ≤ 2147483647

/-- `OFFSET` takes a `bigint`. -/
def bigintLimit : Nat := 2 ^ 63

/-- The rows that `OFFSET` and `LIMIT` leave. -/
def pageOf {R : Type} (page perPage : Nat) (rows : List R) : Except Raised (List R) := do
  ensure ((page - 1) * perPage < bigintLimit) .dataError
  return (rows.drop ((page - 1) * perPage)).take perPage

theorem mem_of_pageOf {R : Type} {page perPage : Nat} {rows items : List R} {r : R}
    (hpage : pageOf page perPage rows = .ok items) (hr : r ∈ items) : r ∈ rows := by
  obtain ⟨_, _, hitems⟩ := bind_eq_ok.mp hpage
  obtain rfl := pure_eq_ok.mp hitems
  exact List.mem_of_mem_drop (List.mem_of_mem_take hr)

/-- A value that a `Numeric(precision, scale)` column holds as it is, without rounding. -/
def Numeric (precision scale : Nat) (d : Decimal) : Prop :=
  (d * 10 ^ scale).den = 1 ∧ -10 ^ (precision - scale) < d ∧ d < 10 ^ (precision - scale)

instance (precision scale : Nat) (d : Decimal) : Decidable (Numeric precision scale d) := by
  unfold Numeric
  infer_instance

/-- A nullable unique column: no other row has this row's value. -/
def uniqueColumn {R V : Type} [Keyed R Uuid] [DecidableEq V] (t : Table R) (column : R → Option V)
    (r : R) : Bool :=
  match column r with
  | none => true
  | some v => t.rows.all fun s => key s = key r ∨ column s ≠ some v

theorem uniqueColumn_eq_true {R V : Type} [Keyed R Uuid] [DecidableEq V] {t : Table R}
    {column : R → Option V} {r : R} :
    uniqueColumn t column r = true ↔
      ∀ v, column r = some v → ∀ s ∈ t, column s = some v → key s = key r := by
  unfold uniqueColumn
  cases hc : column r with
  | none => simp
  | some v =>
      simp only [List.all_eq_true, decide_eq_true_eq, Option.some.injEq, forall_eq']
      constructor
      · intro h s hs hv
        rcases h s hs with hk | hne
        · exact hk
        · exact absurd hv hne
      · intro h s hs
        by_cases hv : column s = some v
        · exact Or.inl (h s hs hv)
        · exact Or.inr hv

namespace Database

def insertBooking (db : Database) (b : Booking) : Except Raised Database := do
  ensure (∀ a ∈ b.totalAmount, 0 ≤ a) .integrityError
  let bookings ← orRaise (db.bookings.insert b) .integrityError
  return { db with bookings }

def updateBooking (db : Database) (b : Booking) : Database :=
  { db with bookings := db.bookings.set b }

def insertPayment (db : Database) (p : Payment) : Except Raised Database := do
  ensure (integer32 p.amountSubunits) .dataError
  ensure (0 < p.amount ∧ 0 < p.amountSubunits) .integrityError
  ensure (uniqueColumn db.payments (fun p => some p.idempotencyKey) p) .integrityError
  ensure (uniqueColumn db.payments Payment.providerOrderId p) .integrityError
  ensure (uniqueColumn db.payments Payment.providerPaymentId p) .integrityError
  let payments ← orRaise (db.payments.insert p) .integrityError
  return { db with payments }

def updatePayment (db : Database) (p : Payment) : Except Raised Database := do
  ensure (p.providerOrderId.all (varchar 100)) .dataError
  ensure (p.providerPaymentId.all (varchar 100)) .dataError
  ensure (uniqueColumn db.payments Payment.providerOrderId p) .integrityError
  ensure (uniqueColumn db.payments Payment.providerPaymentId p) .integrityError
  return { db with payments := db.payments.set p }

def insertRefund (db : Database) (r : Refund) : Except Raised Database := do
  ensure (integer32 r.amountSubunits ∧ varchar 40 r.receipt) .dataError
  ensure (0 < r.amount ∧ 0 < r.amountSubunits) .integrityError
  ensure (uniqueColumn db.refunds (fun r => some r.paymentId) r) .integrityError
  ensure (uniqueColumn db.refunds (fun r => some r.receipt) r) .integrityError
  let refunds ← orRaise (db.refunds.insert r) .integrityError
  return { db with refunds }

def updateRefund (db : Database) (r : Refund) : Except Raised Database := do
  ensure (r.providerRefundId.all (varchar 100)) .dataError
  ensure (uniqueColumn db.refunds Refund.providerRefundId r) .integrityError
  return { db with refunds := db.refunds.set r }

def insertChargingSession (db : Database) (s : ChargingSession) : Except Raised Database := do
  ensure (0 ≤ s.meterStartKwh) .integrityError
  ensure (uniqueColumn db.chargingSessions (fun s => some s.bookingId) s) .integrityError
  let chargingSessions ← orRaise (db.chargingSessions.insert s) .integrityError
  return { db with chargingSessions }

def updateChargingSession (db : Database) (s : ChargingSession) : Except Raised Database := do
  ensure (∀ m ∈ s.meterEndKwh, s.meterStartKwh ≤ m) .integrityError
  ensure (∀ e ∈ s.energyConsumedKwh, 0 ≤ e) .integrityError
  ensure (∀ t ∈ s.endedAt, s.startedAt ≤ t) .integrityError
  return { db with chargingSessions := db.chargingSessions.set s }

def insertWebhookEvent (db : Database) (e : PaymentWebhookEvent) : Except Raised Database := do
  ensure (varchar 100 e.providerEventId ∧ varchar 100 e.eventType) .dataError
  ensure (uniqueColumn db.paymentWebhookEvents (fun e => some e.providerEventId) e) .integrityError
  let paymentWebhookEvents ← orRaise (db.paymentWebhookEvents.insert e) .integrityError
  return { db with paymentWebhookEvents }

def updateWebhookEvent (db : Database) (e : PaymentWebhookEvent) : Database :=
  { db with paymentWebhookEvents := db.paymentWebhookEvents.set e }

end Database

end ChargeMate
