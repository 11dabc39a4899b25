import OneHost.Certificate.Encoding
import OneHost.Trust.Verifier

/-!
# Judging a chain of one issuer

The usual judge of a certificate accepts one that a trusted issuer has signed, that is within its
period of validity, and that names the server asked for among its alternative names. Objections are
raised in that order, so an objection to the names means that the rest is in order.
-/

namespace OneHost.Trust

/-- A certificate together with whether its issuer is trusted. -/
structure Issued where
  content : Certificate.Content
  trusted : Bool

namespace Issued

/-- Whether an alternative name names a domain: the same name up to the case of ASCII letters, or
one with a wildcard for the whole first label. -/
def domainNames (presented asked : List Char) : Bool :=
  let presented := presented.map Char.toLower
  let asked := (ServerName.withoutFinalDot asked).map Char.toLower
  match presented with
  | '*' :: '.' :: parent =>
    match Text.splitOnce? '.' asked with
    | some (first, rest) =>
      !first.isEmpty && rest == parent && (Text.splitOnce? '.' parent).isSome
    | none => false
  | _ => presented == asked

/-- Whether the certificate names a server among its alternative names. -/
def names (issued : Issued) : ServerName → Bool
  | .dns name => issued.content.domains.any fun domain => domainNames domain.toList name.toList
  | .ip address => issued.content.addresses.contains address

/-- Judge the certificate on the second of January of a year. -/
def judge (issued : Issued) (year : Nat) (name : ServerName) : Except TrustError Unit :=
  if !issued.trusted then .error (.certificate .unknownIssuer)
  else if year < issued.content.notBefore then .error (.certificate .notValidYet)
  else if issued.content.notAfter ≤ year then .error (.certificate .expired)
  else if issued.names name then .ok ()
  else .error (.certificate .notValidForNameContext)

/-- What a server with the certificate presents. -/
def presentation (issued : Issued) (year : Nat) : Presentation :=
  { leaf := issued.content.encode, intermediates := [], ocspResponse := [], now := year }

/-- The judge, for a server that presents the certificate. -/
def delegate (issued : Issued) (year : Nat) : Delegate :=
  fun name _ => issued.judge year name

end Issued

end OneHost.Trust
