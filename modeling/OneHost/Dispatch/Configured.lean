import OneHost.Dispatch.Dispatcher
import OneHost.Settings.Server

/-!
# Dispatchers of settings

The dispatcher of some settings aims at their host and changes each request as they say.
-/

namespace OneHost

/-- The dispatcher of some settings. -/
def Dispatcher.ofSettings {σ : Type} (settings : Settings) : Dispatcher σ :=
  .ofChange settings.target settings.transform

end OneHost
