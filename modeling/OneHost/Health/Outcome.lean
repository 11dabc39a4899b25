import OneHost.Connection.Failure

/-!
# The outcome of a probe

A server is well when it answers at all as a server of this host should: a client's error still
shows that the connection, its encryption and the application are up.
-/

namespace OneHost.Health

/-- Whether a status shows that the server is up. -/
def isHealthyStatus (status : Nat) : Bool :=
  200 ≤ status && status ≤ 499

/-- What came of a probe. -/
inductive Outcome where
  | status (code : Nat)
  | failed (error : TransportError)
  deriving DecidableEq

namespace Outcome

/-- The outcome of an exchange. -/
def ofExchange : Except TransportError Http.Response → Outcome
  | .ok response => status response.status
  | .error error => failed error

/-- Whether the server is up. -/
def isHealthy : Outcome → Bool
  | status code => isHealthyStatus code
  | failed _ => false

/-- The text of the outcome. -/
def text : Outcome → String
  | status code => "status " ++ Text.decimal code
  | failed error => error.message

end Outcome

end OneHost.Health
