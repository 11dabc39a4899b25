import OneHost.Certificate.Identities
import OneHost.Event
import OneHost.Hostname.ServerName

/-!
# Verifying a server against one hostname

A `Verifier` is pinned to the hostname that the client was configured with. The chain of
certificates is judged by a delegate. If the delegate objects only to the names in the certificate,
the chain itself is sound and the objection is set aside, because the names are then checked against
the pinned hostname by this library's own rule. Which address was dialled, and which name the
handshake began with, has no influence on the verdict.

How chains are judged and how leaf certificates are read is left to the verifier's maker; leaves are
read by `Leaf.read?` unless something else is said.
-/

namespace OneHost.Trust

open Certificate (HostnameMismatch Leaf)

/-- What can be wrong with a certificate. Faults that nothing here depends on are known by a name. -/
inductive CertificateFault where
  | notValidForName
  | notValidForNameContext
  | unknownIssuer
  | expired
  | notValidYet
  | revoked
  | badEncoding
  | badSignature
  | invalidPurpose
  | unhandledCriticalExtension
  | hostnameMismatch (mismatch : HostnameMismatch)
  | unparsable
  | other (name : String)
  deriving DecidableEq

/-- Why a server is not trusted. Reasons that nothing here depends on are known by a name. -/
inductive TrustError where
  | certificate (fault : CertificateFault)
  | general (message : String)
  | other (name : String)
  deriving DecidableEq

/-- What a server presents in a handshake, and when. -/
structure Presentation where
  leaf : Bytes
  intermediates : List Bytes
  ocspResponse : Bytes
  now : Nat

/-- A judge of certificate chains: asked whether a presentation proves a name. -/
abbrev Delegate := ServerName → Presentation → Except TrustError Unit

namespace TrustError

/-- Whether the objection concerns only the names in the certificate. -/
def isNameError : TrustError → Bool
  | certificate .notValidForName | certificate .notValidForNameContext => true
  | _ => false

/-- The text of the failure where this library gives one. -/
def message : TrustError → String
  | general message => message
  | certificate (.hostnameMismatch mismatch) => mismatch.message
  | certificate _ | other _ => ""

end TrustError

/-- A verifier that is pinned to one hostname. -/
structure Verifier where
  expected : String
  expectedName : ServerName
  delegate : Delegate
  read? : Bytes → Option Leaf

namespace Verifier

/-- A verifier for a hostname that has the form of a server name. -/
def make (expected : String) (delegate : Delegate) (read? : Bytes → Option Leaf := Leaf.read?) :
    Except TrustError Verifier :=
  match ServerName.parse? expected with
  | some expectedName => .ok { expected, expectedName, delegate, read? }
  | none => .error (.general ("invalid expected hostname " ++ Text.quote expected))

/-- Check the names of a leaf certificate against the pinned hostname. -/
def checkHostname (verifier : Verifier) (leaf : Bytes) : Except TrustError Unit × List Event :=
  match verifier.read? leaf with
  | none => (.error (.certificate .unparsable), [])
  | some leaf =>
    match leaf.identities.check verifier.expected with
    | .ok () => (.ok (), [])
    | .error mismatch =>
      (.error (.certificate (.hostnameMismatch mismatch)),
        [.hostnameMismatch mismatch.expected mismatch.presented])

/-- The event that reports a handshake under another name. -/
def nameEvents (verifier : Verifier) (handshakeName : ServerName) : List Event :=
  if handshakeName.same verifier.expectedName then [] else [.serverNameDiffers]

/-- Judge what a server presented in a handshake that began with `handshakeName`. -/
def verify (verifier : Verifier) (handshakeName : ServerName) (presentation : Presentation) :
    Except TrustError Unit × List Event :=
  let events := verifier.nameEvents handshakeName
  match verifier.delegate verifier.expectedName presentation with
  | .ok () =>
    let (verdict, more) := verifier.checkHostname presentation.leaf
    (verdict, events ++ more)
  | .error error =>
    if error.isNameError then
      let (verdict, more) := verifier.checkHostname presentation.leaf
      (verdict, events ++ .nameCheckOverridden :: more)
    else (.error error, events)

end Verifier

end OneHost.Trust
