import OneHost.Pool.State
import OneHost.Settings.Server

/-!
# Pools of settings

The pool of some settings follows their host, and probes its addresses for as long as it holds them.
-/

namespace OneHost

/-- The pool of some settings. -/
def Pool.Settings.ofSettings (settings : OneHost.Settings) : Pool.Settings :=
  { hostname := settings.hostname
    prober := settings.prober
    probePeriod := some (settings.probePeriod.toNat * 1000) }

/-- The period of the pool's own refreshes, in milliseconds. -/
def Settings.refreshMilliseconds (settings : Settings) : Nat :=
  settings.refreshPeriod.toNat * 1000

end OneHost
