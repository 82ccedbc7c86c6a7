import ChargeMate.ModelDatabase

/-! What the payment provider sends: JSON values as `json.loads` returns them, and the two
calls of the provider client with the checks they make on an answer. -/

namespace ChargeMate

/-- A Python `float`. -/
inductive PyFloat where
  | finite (value : Rat)
  | infinity (negative : Bool)
  | nan
  deriving DecidableEq

/-- A Python `str`. A lone surrogate, as `json.loads` makes it of an escape, is no character of a
`String`: such a text is given up to the first one, with the code points after it. -/
inductive PyStr where
  | text (value : String)
  | lone (start : String) (surrogate : Fin 2048) (rest : List Nat)
  deriving DecidableEq

instance : Coe String PyStr := ⟨PyStr.text⟩

namespace PyStr

def startsWith : PyStr → String → Bool
  | text value, p => value.startsWith p
  | lone start _ _, p => start.startsWith p

/-- `value.encode()`, as the driver does it. -/
def encoded : PyStr → Except Raised String
  | text value => .ok value
  | lone _ _ _ => .error .unicodeEncodeError

/-- A parameter of a statement. -/
def parameter (s : PyStr) : Except Raised String := do
  let value ← s.encoded
  ensure (nullFree value) .dataError
  return value

@[simp] theorem encoded_eq_ok {s : PyStr} {value : String} :
    s.encoded = .ok value ↔ s = text value := by
  cases s <;> simp [encoded]

@[simp] theorem parameter_eq_ok {s : PyStr} {value : String} :
    s.parameter = .ok value ↔ s = text value ∧ nullFree value = true := by
  simp only [parameter, bind_eq_ok, encoded_eq_ok, ensure_eq_ok, pure_eq_ok]
  constructor
  · rintro ⟨v, rfl, _, hfree, rfl⟩
    exact ⟨rfl, hfree⟩
  · rintro ⟨rfl, hfree⟩
    exact ⟨value, rfl, (), hfree, rfl⟩

end PyStr

/-- A value returned by `json.loads`; the keys of an object are distinct. -/
inductive Json where
  | null
  | bool (value : Bool)
  | int (value : Int)
  | float (value : PyFloat)
  | str (value : PyStr)
  | arr (items : List Json)
  | obj (fields : List (PyStr × Json))

/-- What `json.loads` raises: a `JSONDecodeError` or `UnicodeDecodeError`, the `ValueError` of an
integer of too many digits, or a `RecursionError`. -/
inductive JsonError where
  | decode
  | value
  | recursion
  deriving DecidableEq

namespace Json

/-- `isinstance(value, dict)`. -/
def asDict : Json → Option (List (PyStr × Json))
  | .obj fields => some fields
  | _ => none

/-- `isinstance(value, str)`. -/
def asStr : Json → Option PyStr
  | .str value => some value
  | _ => none

/-- `value == n` for an integer: booleans and floats compare by their number. -/
def eqInt : Json → Int → Bool
  | .int value, n => value = n
  | .bool value, n => (if value then 1 else 0) = n
  | .float (.finite value), n => value = (n : Rat)
  | _, _ => false

/-- `value == s` for a string. -/
def eqStr (value : Json) (s : String) : Bool := value.asStr = some (.text s)

/-- Lists and dictionaries have no hash: `value in {...}` raises a `TypeError` for them. -/
def hashable : Json → Bool
  | .arr _ | .obj _ => false
  | _ => true

end Json

/-- `mapping.get(name)`, a missing entry being `None`. -/
def getEntry (fields : List (PyStr × Json)) (name : String) : Json :=
  match fields.lookup (.text name) with
  | some value => value
  | none => .null

/-- What an HTTP call to the provider ends with: an exception that the `except` clause names (an
`httpx.HTTPError`, a `ValueError` of the body), one that it does not (a `RecursionError` of the
body, an `httpx.InvalidURL`), or the decoded body. -/
inductive ProviderAnswer where
  | failure
  | uncaught
  | body (payload : Json)

/-- Provider fields trusted after validating the response. The amount is the number of the
payload, of whatever numeric type it has. -/
structure RazorpayOrder where
  id : PyStr
  amountSubunits : Json
  currency : String
  status : String

inductive RazorpayRefundStatus where
  | pending
  | processed
  | failed
  deriving DecidableEq

structure RazorpayRefund where
  id : PyStr
  paymentId : String
  amountSubunits : Json
  currency : String
  status : RazorpayRefundStatus

/-- Membership in `{"pending", "processed", "failed"}`. -/
def RazorpayRefundStatus.ofStr : PyStr → Option RazorpayRefundStatus
  | .text "pending" => some .pending
  | .text "processed" => some .processed
  | .text "failed" => some .failed
  | _ => none

/-- `_valid_order_payload` and the construction of the result: a string that is equal to the
expected one is the expected one. -/
def validOrderPayload (payload : Json) (expectedAmountSubunits : Int)
    (expectedCurrency : String) : Option RazorpayOrder := do
  let fields ← payload.asDict
  let id ← (getEntry fields "id").asStr
  if id.startsWith "order_" ∧
      (getEntry fields "amount").eqInt expectedAmountSubunits ∧
      (getEntry fields "currency").eqStr expectedCurrency ∧
      (getEntry fields "status").eqStr "created"
  then some {
    id
    amountSubunits := getEntry fields "amount"
    currency := expectedCurrency
    status := "created" }
  else none

def createRazorpayOrder (amountSubunits : Int) (currency : String) (answer : ProviderAnswer) :
    Except Raised RazorpayOrder :=
  match answer with
  | .failure => .error .razorpayOrderError
  | .uncaught => .error .uncaughtError
  | .body payload =>
      orRaise (validOrderPayload payload amountSubunits currency) .razorpayOrderError

/-- `_valid_refund_payload` and the construction of the result. The membership test on the
status comes last and raises on a list or a dictionary. -/
def validRefundPayload (payload : Json) (expectedPaymentId : String)
    (expectedAmountSubunits : Int) (expectedCurrency : String) : Except Raised RazorpayRefund :=
  match payload.asDict with
  | none => .error .razorpayRefundError
  | some fields =>
      match (getEntry fields "id").asStr with
      | none => .error .razorpayRefundError
      | some id => do
          ensure (id.startsWith "rfnd_" ∧
            (getEntry fields "payment_id").eqStr expectedPaymentId ∧
            (getEntry fields "amount").eqInt expectedAmountSubunits ∧
            (getEntry fields "currency").eqStr expectedCurrency) .razorpayRefundError
          ensure (getEntry fields "status").hashable .typeError
          let status ← orRaise ((getEntry fields "status").asStr.bind RazorpayRefundStatus.ofStr)
            .razorpayRefundError
          return {
            id
            paymentId := expectedPaymentId
            amountSubunits := getEntry fields "amount"
            currency := expectedCurrency
            status }

def createRazorpayRefund (paymentId : String) (amountSubunits : Int) (currency : String)
    (answer : ProviderAnswer) : Except Raised RazorpayRefund :=
  match answer with
  | .failure => .error .razorpayRefundError
  | .uncaught => .error .uncaughtError
  | .body payload => validRefundPayload payload paymentId amountSubunits currency

def fetchRazorpayRefund (refundId paymentId : String) (amountSubunits : Int) (currency : String)
    (answer : ProviderAnswer) : Except Raised RazorpayRefund :=
  match answer with
  | .failure => .error .razorpayRefundError
  | .uncaught => .error .uncaughtError
  | .body payload => do
      let refund ← validRefundPayload payload paymentId amountSubunits currency
      ensure (refund.id = .text refundId) .razorpayRefundError
      return refund

end ChargeMate
