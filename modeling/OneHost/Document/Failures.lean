import OneHost.Dispatch.Error
import OneHost.Document.Basic
import OneHost.Resolution.Answer
import OneHost.Settings.Server
import OneHost.Trust.Roots

/-!
# Failures as documents

A failure has a name and, where its wording is this library's own, a message. Some name what they
are about in further fields.
-/

namespace OneHost

open Document (texts object)

/-- A failure with some fields. -/
def Document.failureWith (name : String) (fields : List (String × Document)) : Document :=
  object (("error", .text name) :: fields)

/-- A failure with a message. -/
def Document.failure (name message : String) : Document :=
  failureWith name [("message", .text message)]

/-- A failure with a message if its wording is known. -/
def Document.failureWithin (name : String) (message : Option String) : Document :=
  failureWith name (message.toList.map fun message => ("message", .text message))

open Document (failure failureWith failureWithin)

/-- A name that does not match. -/
def Certificate.HostnameMismatch.document (mismatch : HostnameMismatch) : Document :=
  failureWith "HostnameMismatch"
    [("expected", .text mismatch.expected), ("presented", texts mismatch.presented),
      ("message", .text mismatch.message)]

/-- The name of a fault, the same whether or not the judge gave the context of it. -/
def Trust.CertificateFault.name : CertificateFault → String
  | .notValidForName | .notValidForNameContext => "NotValidForName"
  | .unknownIssuer => "UnknownIssuer"
  | .expired => "Expired"
  | .notValidYet => "NotValidYet"
  | .revoked => "Revoked"
  | .badEncoding => "BadEncoding"
  | .badSignature => "BadSignature"
  | .invalidPurpose => "InvalidPurpose"
  | .unhandledCriticalExtension => "UnhandledCriticalExtension"
  | .hostnameMismatch _ => "HostnameMismatch"
  | .unparsable => "UnparsableCertificate"
  | .other name => name

/-- The fault of a name, where `NotValidForNameContext` is the one with a context. -/
def Trust.CertificateFault.ofName? (name : String) : Option CertificateFault :=
  if name = "NotValidForNameContext" then some .notValidForNameContext
  else
    [.notValidForName, .unknownIssuer, .expired, .notValidYet, .revoked, .badEncoding,
      .badSignature, .invalidPurpose, .unhandledCriticalExtension].find? (·.name == name)

/-- Why a server is not trusted. -/
def Trust.TrustError.document : TrustError → Document
  | .general message => failure "General" message
  | .certificate (.hostnameMismatch mismatch) => mismatch.document
  | .certificate .unparsable => failureWith "UnparsableCertificate" []
  | .certificate fault => failureWith "InvalidCertificate" [("certificate_error", .text fault.name)]
  | .other name => failureWith name []

namespace TransportError

/-- The name of the failure. -/
def name : TransportError → String
  | connectTimeout .. => "ConnectTimeout"
  | connect .. => "Connect"
  | tls .. => "Tls"
  | http .. => "Http"
  | readTimeout .. => "ReadTimeout"
  | invalidServerName _ => "InvalidServerName"
  | request _ => "Request"

/-- Why an exchange failed. -/
def document (error : TransportError) : Document :=
  failureWithin error.name error.ownMessage?

end TransportError

namespace DispatchError

/-- The name of the failure. -/
def name : DispatchError → String
  | noHealthyEndpoint .. => "NoHealthyEndpoint"
  | retriesExhausted .. => "RetriesExhausted"
  | transport .. => "Transport"
  | request _ => "Request"

/-- Why a request was not answered. -/
def document (error : DispatchError) : Document :=
  let (known, cause) :=
    match error with
    | .transport address cause =>
      (cause.ownMessage?.isSome, [("addr", Document.text address.text), ("cause", cause.document)])
    | _ => (true, [])
  failureWith error.name
    (("attempted", texts (error.attempted.map SocketAddress.text)) :: cause ++
      if known then [("message", Document.text error.message)] else [])

end DispatchError

/-- Why a name was not resolved. -/
def Resolution.LookupError.document (error : LookupError) : Document :=
  failureWithin "Lookup" error.ownMessage?

/-- The name of the failure. -/
def Trust.SetupError.name : SetupError → String
  | unreadable .. | malformed _ => "CaFile"
  | noCertificates _ => "NoCertificates"
  | noAnchors => "NoTrustAnchors"
  | noRoots => "Verifier"
  | refused _ => "Rustls"

/-- Why encrypted connections cannot be set up. -/
def Trust.SetupError.document (error : SetupError) : Document :=
  failureWithin error.name error.ownMessage?

/-- The name of the refusal. -/
def SettingsError.name : SettingsError → String
  | invalidProtocol _ => "InvalidProtocol"
  | missingHostname => "MissingHostname"
  | invalidValue .. => "InvalidValue"

/-- Why settings are refused. -/
def SettingsError.document (error : SettingsError) : Document :=
  failure error.name error.message

/-- The outcome of something, where failures are documents. -/
def Document.outcome {ε α : Type} (bad : ε → Document) (good : α → Document) :
    Except ε α → Document
  | .ok value => good value
  | .error error => bad error

end OneHost
