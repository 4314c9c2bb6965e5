import Mathlib.Algebra.BigOperators.Ring.List
import Mathlib.Algebra.Order.BigOperators.Group.List
import InverterBridge.Daemon.BlockIsolation
import InverterBridge.Daemon.Devices

open Python
open inverter_bridge.modbus inverter_bridge.srne_map inverter_bridge.config

namespace inverter_bridge.daemon

variable {polling : PollingCfg}

section attempts

variable {longest : ℚ} {retry_backoff_s : PyFloat} {calls : Nat → QueryCall} {t : ℚ}
  {attempt remaining : Nat} {run : TimedRun}

end attempts

section polls

variable {longest : ℚ} {tier : BlockTier} {calls : Block → Nat → QueryCall} {final : TimedPoll}
  {t : ℚ}

end polls

end inverter_bridge.daemon
