import OneHost.Address.Ip

/-!
# Socket addresses

A socket address is an internet address with a port. Its text puts an address of version 6 between
brackets, so that the port's colon is unambiguous.
-/

namespace OneHost

/-- An internet address and a port. -/
structure SocketAddress where
  ip : Ip
  port : UInt16
  deriving DecidableEq, Inhabited

namespace SocketAddress

/-- The text `address:port`. -/
def text (socket : SocketAddress) : String :=
  match socket.ip with
  | .v4 address => address.text ++ ":" ++ Text.decimal socket.port.toNat
  | .v6 address => "[" ++ address.text ++ "]:" ++ Text.decimal socket.port.toNat

/-- Read a port that ends a text: decimal digits after a colon. -/
def readPort? : List Char → Option UInt16
  | ':' :: digits =>
    if digits.all (·.isDigit) then
      match Text.readNumber 65535 (String.ofList digits) with
      | .ok port => some port.toUInt16
      | .error _ => none
    else none
  | _ => none

/-- The socket address that a whole text stands for. -/
def parse? (text : String) : Option SocketAddress :=
  match text.toList with
  | '[' :: rest =>
    match Ipv6.read? rest with
    | some (address, ']' :: rest) => (readPort? rest).map (⟨.v6 address, ·⟩)
    | _ => none
  | rest =>
    match Ipv4.read? rest with
    | some (address, rest) => (readPort? rest).map (⟨.v4 address, ·⟩)
    | none => none

/-- By address, then by port. -/
def le (left right : SocketAddress) : Bool :=
  if left.ip = right.ip then left.port ≤ right.port else left.ip.le right.ip

end SocketAddress

end OneHost
