import OneHost.Event
import OneHost.Resolution.Answer
import OneHost.Settings.Server

/-!
# Resolvers of settings

A name that is an internet address stands for itself. What other names stand for is known to the
operating system and to name servers, which are out of reach here, so that asking them fails.
-/

namespace OneHost

/-- Resolve a name in the way that settings ask for. -/
def ResolverSettings.resolve (settings : ResolverSettings) (hostname : String) :
    Except Resolution.LookupError (List Ip) × List Event :=
  let literal (answered : String → Nat → Event) :=
    match Ip.parse? hostname with
    | some ip => (.ok [ip], [answered hostname 1])
    | none => (.error ⟨hostname, none⟩, [])
  match settings with
  | fixed addresses => ((Resolution.Fixed.ofList addresses).resolve hostname, [])
  | system => literal .systemResolverAnswered
  | recursive _ => literal .recursiveResolverAnswered

end OneHost
