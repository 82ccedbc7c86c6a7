import ChargeMate.SafetyHolds
import ChargeMate.SafetyStationEdits
import ChargeMate.SafetyStations
import Mathlib.Tactic.Linarith

/-! Booking fees, from the schemas that admit them to the payments that charge them. -/

namespace ChargeMate

open Relational Decimals

/-- What `ChargePointCreateRequest` and `ChargePointUpdateRequest` accept as a `booking_fee`. -/
def AdmittedFee (fee : Decimal) : Prop := 0 ≤ fee ∧ Numeric 10 2 fee

instance (fee : Decimal) : Decidable (AdmittedFee fee) := by
  unfold AdmittedFee
  infer_instance

/-- Both schemas declare `ge=0, max_digits=10, decimal_places=2`. -/
theorem SchemaEnv.Documented.admittedFee {env : SchemaEnv} (henv : env.Documented) {fee : Numeral}
    (hnonneg : 0 ≤ fee.value) (hdigits : env.digitsAdmitted 10 2 fee = true) :
    AdmittedFee fee.value :=
  ⟨hnonneg, henv.numeric hdigits⟩

/-- The fee of a new charge point, which may be the default. -/
theorem ChargePointCreateRequest.admittedFee {env : SchemaEnv} (henv : env.Documented)
    {payload : ChargePointPayload} {point : ChargePointCreateRequest}
    (h : modelValidate env payload = some point) : AdmittedFee point.bookingFee := by
  obtain ⟨hvalid, _, _, hfee⟩ := of_modelValidate h
  rw [hfee]
  exact ⟨hvalid.bookingFee.1, hvalid.numeric_fee henv⟩

end ChargeMate
