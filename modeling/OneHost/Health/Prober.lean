import OneHost.Health.Outcome
import OneHost.Http.Target

/-!
# Probing an address

A probe asks the host's health path at one address, in the way in which requests of the application
take it, and waits for the answer no longer than the read timeout.
-/

namespace OneHost.Health

/-- How the addresses of a host are probed. -/
structure Prober where
  target : Http.Target
  healthPath : String
  readTimeout : Duration
  deriving DecidableEq

namespace Prober

/-- The text of the URI that is probed at an address. Where there is no such URI, the parts that it
would be made of. -/
def healthUri (prober : Prober) (ip : Ip) : String :=
  match prober.target.uriFor ip prober.healthPath with
  | .ok uri => uri.text
  | .error _ => (prober.target.socketAddress ip).text ++ prober.healthPath

/-- The request of a probe. -/
def request (prober : Prober) (ip : Ip) : Except Http.RequestError Http.Request :=
  prober.target.healthCheck ip prober.healthPath

/-- The outcome when no answer has come within the read timeout. -/
def timedOut (prober : Prober) (ip : Ip) : Outcome :=
  .failed (.readTimeout (prober.target.socketAddress ip) prober.readTimeout)

/-- Probe an address, where `exchange` says how long an exchange takes and what comes of it, given
how long it is waited for. An answer at the very moment of the timeout still counts. A request that
cannot be made is not sent. -/
def probe {σ : Type}
    (exchange : Duration → SocketAddress → Http.Request → σ →
      (Duration × Except TransportError Http.Response) × σ)
    (prober : Prober) (ip : Ip) (state : σ) : (Duration × Outcome) × σ :=
  match prober.request ip with
  | .error error => ((⟨0⟩, .failed (.request error)), state)
  | .ok request =>
    let ((delay, result), state) :=
      exchange prober.readTimeout (prober.target.socketAddress ip) request state
    if delay.nanoseconds ≤ prober.readTimeout.nanoseconds then
      ((delay, .ofExchange result), state)
    else ((prober.readTimeout, prober.timedOut ip), state)

end Prober

end OneHost.Health
