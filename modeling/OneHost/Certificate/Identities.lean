import OneHost.Certificate.Leaf
import OneHost.Hostname.Matching
import OneHost.Text.Quoted

/-!
# The identities of a certificate

A certificate names hosts by the domain names among its alternative names and by the common names of
its subject. The common names count only if there are no domain names, and of them only the last
one, the most specific.
-/

namespace OneHost.Certificate

/-- The names by which a certificate identifies hosts. -/
structure Identities where
  dnsNames : List String
  commonNames : List String
  deriving DecidableEq

/-- The host asked for, and the names that the certificate presents instead. -/
structure HostnameMismatch where
  expected : String
  presented : List String
  deriving DecidableEq

/-- The text of the failure. -/
def HostnameMismatch.message (mismatch : HostnameMismatch) : String :=
  "certificate is not valid for " ++ mismatch.expected ++ ": presented " ++
    Text.quoteList mismatch.presented

/-- The name, if it is a domain name. -/
def AltName.domain? : AltName → Option String
  | domain name => some name
  | other => none

/-- The common names of the subject that can be read, in order. -/
def Leaf.commonNames (leaf : Leaf) : List String :=
  (leaf.subject.filter (·.kind == commonName)).filterMap (·.text?)

/-- The identities of a certificate. -/
def Leaf.identities (leaf : Leaf) : Identities :=
  { dnsNames := (leaf.altNames.getD []).filterMap (·.domain?)
    commonNames := leaf.commonNames }

namespace Identities

/-- The identities of an encoded certificate. -/
def read? (bytes : Bytes) : Option Identities :=
  (Leaf.read? bytes).map (·.identities)

/-- Whether the identities cover a host. -/
def covers (identities : Identities) (hostname : String) : Bool :=
  if identities.dnsNames.isEmpty then
    match identities.commonNames.getLast? with
    | some name => Hostname.isMatched hostname name
    | none => false
  else identities.dnsNames.any (Hostname.isMatched hostname)

/-- The names that a failed check reports. -/
def presented (identities : Identities) : List String :=
  if identities.dnsNames.isEmpty then identities.commonNames else identities.dnsNames

/-- Check a host against the identities. -/
def check (identities : Identities) (hostname : String) : Except HostnameMismatch Unit :=
  if identities.covers hostname then .ok ()
  else .error { expected := hostname, presented := identities.presented }

theorem check_eq_ok {identities : Identities} {hostname : String} :
    identities.check hostname = .ok () ↔ identities.covers hostname = true := by
  unfold check
  split <;> simp_all

end Identities

end OneHost.Certificate
