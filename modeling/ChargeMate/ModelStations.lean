import ChargeMate.FoundationDecimals
import ChargeMate.ModelRegistration
import ChargeMate.ModelSearches

/-! The creation of a station: `ChargePointCreateRequest` and `StationCreateRequest` of
`stations/schemas.py` over what a client may send, and `create_station` under every constraint of
the columns in `models/station.py` and `models/charge_point.py`. -/

namespace ChargeMate

open Relational Decimals
open Auth (lengthWithin)

/-! ### Texts and numbers -/

/-- The white space of Unicode, which `str_strip_whitespace` strips. -/
def isWhiteSpace (c : Char) : Bool :=
  (9 ≤ c.toNat ∧ c.toNat ≤ 13) ∨ c.toNat = 32 ∨ c.toNat = 0x85 ∨ c.toNat = 0xA0 ∨
    c.toNat = 0x1680 ∨ (0x2000 ≤ c.toNat ∧ c.toNat ≤ 0x200A) ∨ c.toNat = 0x2028 ∨
    c.toNat = 0x2029 ∨ c.toNat = 0x202F ∨ c.toNat = 0x205F ∨ c.toNat = 0x3000

def trim (s : String) : String :=
  String.ofList ((s.toList.dropWhile isWhiteSpace).rdropWhile isWhiteSpace)

/-- What the schemas and the columns take from outside the repository. -/
structure SchemaEnv where
  /-- `str.upper`. -/
  upper : String → String
  /-- `upper` of the database. -/
  sqlUpper : String → String
  /-- The numbers that pydantic accepts under `max_digits` and `decimal_places`. -/
  digitsAdmitted : Nat → Nat → Numeral → Bool

/-- Case mapping neither adds nor removes a null character and keeps capitals; trailing zeros aside,
an accepted number has at most `decimal_places` digits after the point, and at most
`max_digits - decimal_places` before it. -/
structure SchemaEnv.Documented (env : SchemaEnv) : Prop where
  upper_null : ∀ s, '\x00' ∈ (env.upper s).toList ↔ '\x00' ∈ s.toList
  sqlUpper_capitals : ∀ s, (∀ c ∈ s.toList, c.isUpper) → env.sqlUpper s = s
  digits : ∀ maxDigits decimalPlaces d, env.digitsAdmitted maxDigits decimalPlaces d = true →
    ∃ d' : Numeral, d'.value = d.value ∧ d'.places ≤ decimalPlaces ∧
      d'.wholeDigits ≤ maxDigits - decimalPlaces

variable (env : SchemaEnv)

/-! ### Requests -/

/-- The JSON object of a charge point, as it is typed. A field with a default may be absent. -/
structure ChargePointPayload where
  code : String
  maxPowerKw : Numeral
  bookingFee : Option Numeral
  isBookable : Option Bool

/-- The JSON object of a station, as it is typed. -/
structure StationPayload where
  name : String
  description : Option String
  addressLine1 : String
  addressLine2 : Option String
  city : String
  state : String
  postalCode : String
  countryCode : Option String
  latitude : Numeral
  longitude : Numeral
  timezone : Option String
  phone : Option String
  is24Hours : Option Bool
  chargePoints : List ChargePointPayload

/-- `str_strip_whitespace`, before any other check. -/
def ChargePointPayload.stripped (payload : ChargePointPayload) : ChargePointPayload :=
  { payload with code := trim payload.code }

def StationPayload.stripped (payload : StationPayload) : StationPayload :=
  { payload with
    name := trim payload.name
    description := payload.description.map trim
    addressLine1 := trim payload.addressLine1
    addressLine2 := payload.addressLine2.map trim
    city := trim payload.city
    state := trim payload.state
    postalCode := trim payload.postalCode
    countryCode := payload.countryCode.map trim
    timezone := payload.timezone.map trim
    phone := payload.phone.map trim }

/-- `booking_fee`, by default `Decimal("50.00")`. -/
def ChargePointPayload.fee (payload : ChargePointPayload) : Numeral :=
  payload.bookingFee.getD ⟨5000, -2⟩

/-- The fields of `ChargePointCreateRequest`. The default fee is not validated. -/
structure ChargePointPayload.Valid (payload : ChargePointPayload) : Prop where
  code : lengthWithin 1 50 payload.code
  maxPowerKw : 0 < payload.maxPowerKw.value ∧ env.digitsAdmitted 7 2 payload.maxPowerKw
  bookingFee : 0 ≤ payload.fee.value ∧ payload.bookingFee.all (env.digitsAdmitted 10 2)

/-- The fields of `StationCreateRequest`. A default is not validated. -/
structure StationPayload.Valid (payload : StationPayload) : Prop where
  name : lengthWithin 2 120 payload.name
  description : payload.description.all fun text => text.length ≤ 2000
  addressLine1 : lengthWithin 3 255 payload.addressLine1
  addressLine2 : payload.addressLine2.all fun text => text.length ≤ 255
  city : lengthWithin 2 100 payload.city
  state : lengthWithin 2 100 payload.state
  postalCode : lengthWithin 3 20 payload.postalCode
  countryCode : payload.countryCode.all fun text => lengthWithin 2 2 text
  latitude : (-90 ≤ payload.latitude.value ∧ payload.latitude.value ≤ 90) ∧
    env.digitsAdmitted 9 6 payload.latitude
  longitude : (-180 ≤ payload.longitude.value ∧ payload.longitude.value ≤ 180) ∧
    env.digitsAdmitted 9 6 payload.longitude
  timezone : payload.timezone.all fun text => lengthWithin 1 64 text
  phone : payload.phone.all fun text => lengthWithin 7 20 text
  chargePoints : 1 ≤ payload.chargePoints.length ∧ payload.chargePoints.length ≤ 100

instance (payload : ChargePointPayload) : Decidable (payload.Valid env) :=
  decidable_of_iff (_ ∧ _ ∧ _)
    ⟨fun ⟨h₁, h₂, h₃⟩ => ⟨h₁, h₂, h₃⟩, fun ⟨h₁, h₂, h₃⟩ => ⟨h₁, h₂, h₃⟩⟩

instance (payload : StationPayload) : Decidable (payload.Valid env) :=
  decidable_of_iff (_ ∧ _ ∧ _ ∧ _ ∧ _ ∧ _ ∧ _ ∧ _ ∧ _ ∧ _ ∧ _ ∧ _ ∧ _)
    ⟨fun ⟨h₁, h₂, h₃, h₄, h₅, h₆, h₇, h₈, h₉, h₁₀, h₁₁, h₁₂, h₁₃⟩ =>
        ⟨h₁, h₂, h₃, h₄, h₅, h₆, h₇, h₈, h₉, h₁₀, h₁₁, h₁₂, h₁₃⟩,
      fun ⟨h₁, h₂, h₃, h₄, h₅, h₆, h₇, h₈, h₉, h₁₀, h₁₁, h₁₂, h₁₃⟩ =>
        ⟨h₁, h₂, h₃, h₄, h₅, h₆, h₇, h₈, h₉, h₁₀, h₁₁, h₁₂, h₁₃⟩⟩

/-- `ChargePointCreateRequest.model_validate`; `none` is a `ValidationError`. `normalize_code` runs
after the length of the code has been checked. -/
def ChargePointCreateRequest.modelValidate (payload : ChargePointPayload) :
    Option ChargePointCreateRequest :=
  if h : payload.stripped.Valid env then
    some {
      code := env.upper payload.stripped.code
      maxPowerKw := payload.maxPowerKw.value
      bookingFee := payload.fee.value
      nonNegativeBookingFee := h.bookingFee.1
      isBookable := payload.isBookable.getD true }
  else none

/-- The model that the validated fields make. `normalize_country_code` does not run on the default
code. -/
def StationPayload.accepted (payload : StationPayload)
    (chargePoints : List ChargePointCreateRequest)
    (uniqueCodes : (chargePoints.map ChargePointCreateRequest.code).Nodup) :
    StationCreateRequest where
  name := payload.stripped.name
  description := payload.stripped.description
  addressLine1 := payload.stripped.addressLine1
  addressLine2 := payload.stripped.addressLine2
  city := payload.stripped.city
  state := payload.stripped.state
  postalCode := payload.stripped.postalCode
  countryCode := (payload.stripped.countryCode.map env.upper).getD "IN"
  latitude := payload.latitude.value
  longitude := payload.longitude.value
  timezone := payload.stripped.timezone.getD "Asia/Kolkata"
  phone := payload.stripped.phone
  is24Hours := payload.is24Hours.getD false
  chargePoints
  uniqueCodes

/-- `StationCreateRequest.model_validate`. `charge_point_codes_are_unique` compares the codes that
`normalize_code` has returned. -/
def StationCreateRequest.modelValidate (payload : StationPayload) : Option StationCreateRequest :=
  (payload.chargePoints.mapM (ChargePointCreateRequest.modelValidate env)).bind
    fun chargePoints =>
      if payload.stripped.Valid env then
        if uniqueCodes : (chargePoints.map ChargePointCreateRequest.code).Nodup then
          some (payload.accepted env chargePoints uniqueCodes)
        else none
      else none

/-! ### Rows -/

/-- The column types of `charging_stations`. -/
structure ChargingStation.Fits (s : ChargingStation) : Prop where
  name : varchar 120 s.name
  description : s.description.all nullFree
  addressLine1 : varchar 255 s.addressLine1
  addressLine2 : s.addressLine2.all (varchar 255)
  city : varchar 100 s.city
  state : varchar 100 s.state
  postalCode : varchar 20 s.postalCode
  countryCode : varchar 2 s.countryCode
  latitude : Numeric 9 6 s.latitude
  longitude : Numeric 9 6 s.longitude
  timezone : varchar 64 s.timezone
  phone : s.phone.all (varchar 20)
  version : integer32 s.version

/-- The check constraints of `charging_stations`. -/
structure ChargingStation.Checks (s : ChargingStation) : Prop where
  validLatitude : s.latitude ≥ -90 ∧ s.latitude ≤ 90
  validLongitude : s.longitude ≥ -180 ∧ s.longitude ≤ 180
  countryCodeUppercase : s.countryCode = env.sqlUpper s.countryCode
  positiveVersion : s.version > 0

/-- The column types of `charge_points`. -/
structure ChargePoint.Fits (p : ChargePoint) : Prop where
  code : varchar 50 p.code
  maxPowerKw : Numeric 7 2 p.maxPowerKw
  bookingFee : Numeric 10 2 p.bookingFee
  version : integer32 p.version

/-- The check constraints of `charge_points`. -/
structure ChargePoint.Checks (p : ChargePoint) : Prop where
  positiveMaxPowerKw : p.maxPowerKw > 0
  nonNegativeBookingFee : p.bookingFee ≥ 0
  positiveVersion : p.version > 0

instance (s : ChargingStation) : Decidable s.Fits :=
  decidable_of_iff (_ ∧ _ ∧ _ ∧ _ ∧ _ ∧ _ ∧ _ ∧ _ ∧ _ ∧ _ ∧ _ ∧ _ ∧ _)
    ⟨fun ⟨h₁, h₂, h₃, h₄, h₅, h₆, h₇, h₈, h₉, h₁₀, h₁₁, h₁₂, h₁₃⟩ =>
        ⟨h₁, h₂, h₃, h₄, h₅, h₆, h₇, h₈, h₉, h₁₀, h₁₁, h₁₂, h₁₃⟩,
      fun ⟨h₁, h₂, h₃, h₄, h₅, h₆, h₇, h₈, h₉, h₁₀, h₁₁, h₁₂, h₁₃⟩ =>
        ⟨h₁, h₂, h₃, h₄, h₅, h₆, h₇, h₈, h₉, h₁₀, h₁₁, h₁₂, h₁₃⟩⟩

instance (s : ChargingStation) : Decidable (s.Checks env) :=
  decidable_of_iff (_ ∧ _ ∧ _ ∧ _)
    ⟨fun ⟨h₁, h₂, h₃, h₄⟩ => ⟨h₁, h₂, h₃, h₄⟩, fun ⟨h₁, h₂, h₃, h₄⟩ => ⟨h₁, h₂, h₃, h₄⟩⟩

instance (p : ChargePoint) : Decidable p.Fits :=
  decidable_of_iff (_ ∧ _ ∧ _ ∧ _)
    ⟨fun ⟨h₁, h₂, h₃, h₄⟩ => ⟨h₁, h₂, h₃, h₄⟩, fun ⟨h₁, h₂, h₃, h₄⟩ => ⟨h₁, h₂, h₃, h₄⟩⟩

instance (p : ChargePoint) : Decidable p.Checks :=
  decidable_of_iff (_ ∧ _ ∧ _)
    ⟨fun ⟨h₁, h₂, h₃⟩ => ⟨h₁, h₂, h₃⟩, fun ⟨h₁, h₂, h₃⟩ => ⟨h₁, h₂, h₃⟩⟩

/-! ### The transaction -/

/-- `INSERT INTO charging_stations`. -/
def Database.storeStation (db : Database) (station : ChargingStation) :
    Except Raised Database := do
  ensure station.Fits .dataError
  ensure (station.Checks env) .integrityError
  db.insertStation station

/-- `INSERT INTO charge_points`. -/
def Database.storeChargePoint (db : Database) (point : ChargePoint) : Except Raised Database := do
  ensure point.Fits .dataError
  ensure point.Checks .integrityError
  db.insertChargePoint point

/-- Create a station and all its initial charge points atomically, under every constraint of the two
tables. -/
def StationCreateRequest.createStation (payload : StationCreateRequest) (owner : User)
    (stationId : Uuid) (pointIds : List Uuid) (db : Database) :
    Except Raised ChargingStation × Database :=
  transaction .stationConflictError (fun db => do
    let station := payload.station owner stationId
    let db ← db.storeStation env station
    let db ← (payload.points stationId pointIds).foldlM Database.storeChargePoint db
    return (station, db)) db

end ChargeMate
