import Gateway.Broadcast
import Gateway.PowerKey.Gesture
import Gateway.Status

/-!
# Notices

What the parts of the daemon tell each other about: changes of the configuration and of the status,
gestures, and a shutdown that was asked for.
-/

namespace Gateway

/-- How a change of the configuration file has to be applied. -/
inductive ConfigChange where
  /-- In place: only the charge window and the WiFi flags differ. -/
  | hot
  /-- After a restart: these sections differ elsewhere. -/
  | cold (sections : List String)
deriving DecidableEq, Repr

/-- What is told to all parts of the daemon. -/
inductive Notice where
  | configChanged (change : ConfigChange)
  | statusChanged (status : DeviceStatus)
  | gesture (gesture : PowerKey.Gesture)
  /-- A long press started the shutdown countdown. -/
  | shutdownRequested
deriving DecidableEq, Repr

/-- The channel that notices travel on. -/
abbrev NoticeBoard := Broadcast Notice

end Gateway
