/-!
# The two protocols

A host is spoken to in plain HTTP or in HTTP over TLS.
-/

namespace OneHost

/-- How a host is spoken to. -/
inductive Protocol where
  | http
  | https
  deriving DecidableEq, Repr, Inhabited

namespace Protocol

/-- The scheme of the protocol, which is also its name. -/
def scheme : Protocol → String
  | http => "http"
  | https => "https"

/-- The port that a URI of this scheme means when it names none. -/
def defaultPort : Protocol → UInt16
  | http => 80
  | https => 443

/-- The protocol of a name, which is written in lower case. -/
def parse? : String → Option Protocol
  | "http" => some http
  | "https" => some https
  | _ => none

theorem parse?_eq_some_iff {name : String} {protocol : Protocol} :
    parse? name = some protocol ↔ name = protocol.scheme := by
  constructor
  · intro isName
    unfold parse? at isName
    split at isName <;> cases isName <;> rfl
  · rintro rfl
    cases protocol <;> rfl

/-- Whether connections are encrypted. -/
def isEncrypted : Protocol → Bool
  | http => false
  | https => true

end Protocol

end OneHost
