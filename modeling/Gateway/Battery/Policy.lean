import Gateway.Battery.Reading

/-!
# The charge window

Charging is stopped at the upper threshold and started again at the lower one. The two differ, so
the charger is not switched back and forth at one capacity.
-/

namespace Gateway.Battery

/-- The automatic charge window. -/
structure ChargePolicy where
  enabled : Bool
  startThreshold : UInt8
  stopThreshold : UInt8
deriving DecidableEq, Repr

/-- Why a charge window is refused. -/
inductive ChargePolicyFault where
  | outOfRange (start stop : UInt8)
  | notBelow (start stop : UInt8)
deriving DecidableEq, Repr

/-- The text of a fault. -/
def ChargePolicyFault.message : ChargePolicyFault → String
  | outOfRange start stop =>
    "Charge thresholds must be within 0..=100 (start " ++ toString start.toNat ++ ", stop "
      ++ toString stop.toNat ++ ")"
  | notBelow start stop =>
    "Charge start threshold " ++ toString start.toNat ++ " must be below stop threshold "
      ++ toString stop.toNat

/-- What a reading asks of the charger. -/
inductive ChargeAction where
  | start
  | stop
  | hold
deriving DecidableEq, Repr

/-- The name of an action. -/
def ChargeAction.label : ChargeAction → String
  | start => "Start"
  | stop => "Stop"
  | hold => "Hold"

namespace ChargePolicy

/-- The window unless configured: not enforced, from 20 to 80 percent. -/
def initial : ChargePolicy := ⟨false, 20, 80⟩

/-- Both thresholds are percentages, the lower one first. -/
def validate (p : ChargePolicy) : Except ChargePolicyFault Unit :=
  if 100 < p.startThreshold ∨ 100 < p.stopThreshold then
    .error (.outOfRange p.startThreshold p.stopThreshold)
  else if p.stopThreshold ≤ p.startThreshold then
    .error (.notBelow p.startThreshold p.stopThreshold)
  else .ok ()

/-- What a reading asks of the charger; nothing while the window is not enforced or the capacity is
unknown. -/
def decide (p : ChargePolicy) (r : Reading) : ChargeAction :=
  match r.capacity with
  | none => .hold
  | some capacity =>
    if !p.enabled then .hold
    else if r.isCharging ∧ p.stopThreshold ≤ capacity then .stop
    else if ¬ r.isCharging ∧ capacity ≤ p.startThreshold then .start
    else .hold

end ChargePolicy

end Gateway.Battery
