import OneHost.Address.Ip

/-!
# Answers of a resolver

A resolver answers with addresses in the order of its source, each address once. No addresses is an
answer, not an error.
-/

namespace OneHost.Resolution

/-- A lookup that failed. The cause is known only where it was given in words. -/
structure LookupError where
  hostname : String
  cause : Option String
  deriving DecidableEq

namespace LookupError

/-- The text of the failure. -/
def message (error : LookupError) : String :=
  "failed to resolve " ++ error.hostname ++ ": " ++ error.cause.getD "unknown cause"

/-- The text of the failure, unless the cause is not known. -/
def ownMessage? (error : LookupError) : Option String :=
  error.cause.map fun _ => error.message

end LookupError

/-- The addresses of a list that are not among those already seen, each once. -/
def distinctFrom (seen : List Ip) : List Ip → List Ip
  | [] => []
  | ip :: rest =>
    if seen.contains ip then distinctFrom seen rest else ip :: distinctFrom (ip :: seen) rest

/-- The addresses of a list, each at its first place only. -/
def distinct (addresses : List Ip) : List Ip :=
  distinctFrom [] addresses

/-- A resolver with a fixed answer that can be replaced. -/
structure Fixed where
  addresses : List Ip
  deriving DecidableEq

namespace Fixed

/-- The resolver that answers with the distinct ones of some addresses. -/
def ofList (addresses : List Ip) : Fixed := ⟨distinct addresses⟩

/-- Replace the answer. -/
def set (_ : Fixed) (addresses : List Ip) : Fixed := ⟨distinct addresses⟩

/-- The answer, whatever the name. -/
def resolve (resolver : Fixed) (_ : String) : Except LookupError (List Ip) :=
  .ok resolver.addresses

end Fixed

end OneHost.Resolution
