/-!
# Modem endpoints

The object path of a modem on the message bus. The two radio interfaces serve one SIM slot each.
-/

namespace Gateway.Modem

/-- The object path of a modem. -/
structure Endpoint where
  path : String
deriving DecidableEq, Repr

namespace Endpoint

/-- The SIM slot that an endpoint serves, if it is a radio interface. -/
def slot? (e : Endpoint) : Option String :=
  if e.path = "/ril_0" then some "slot1"
  else if e.path = "/ril_1" then some "slot2"
  else none

end Endpoint

end Gateway.Modem
