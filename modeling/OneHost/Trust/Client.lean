import OneHost.Trust.Roots

/-!
# Clients of encrypted connections

What one end of every encrypted connection needs to know: how the server's certificate is judged,
which protocols are offered, and that the server is told the name that is meant.
-/

namespace OneHost.Trust

/-- The settings of the client's end. -/
structure Client where
  verifier : Verifier
  offered : List String := ["http/1.1"]
  namesServer : Bool := true

/-- A client that is pinned to a hostname and trusts some roots, where `judge` tells how chains are
judged by the roots. -/
def Client.make (judge : Roots → Delegate) (hostname : String) (roots : Roots) :
    Except SetupError Client :=
  if roots.isEmpty then .error .noRoots
  else
    match Verifier.make hostname (judge roots) with
    | .ok verifier => .ok { verifier }
    | .error error => .error (.refused error)

end OneHost.Trust
