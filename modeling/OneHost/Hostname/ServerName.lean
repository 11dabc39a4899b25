import OneHost.Address.Ip
import OneHost.Text.Split

/-!
# Server names

The name that a client asks a server to prove is a domain name in ASCII form or an internet address.
A domain name may end in a dot, and its last label is not a number, so that it is never taken for an
address.
-/

namespace OneHost

/-- The name of a server: a domain name or an address. -/
inductive ServerName where
  | dns (name : String)
  | ip (address : Ip)
  deriving DecidableEq

namespace ServerName

/-- ASCII letters and digits, hyphen and underscore. -/
def isDomainChar (c : Char) : Bool :=
  c.isAlphanum || c == '-' || c == '_'

/-- A label of 1 to 63 domain characters with no hyphen at either end. -/
def isDomainLabel (label : List Char) : Bool :=
  !label.isEmpty && label.length ≤ 63 && label.head? != some '-' &&
    label.getLast? != some '-' && label.all isDomainChar

/-- The text without one dot at its end. -/
def withoutFinalDot (name : List Char) : List Char :=
  if name.getLast? == some '.' then name.dropLast else name

/-- A domain name of at most 253 bytes, one dot at the end included, whose last label is not made of
digits alone. -/
def isDomainName (name : List Char) : Bool :=
  let labels := Text.split '.' (withoutFinalDot name)
  name.length ≤ 253 && labels.all isDomainLabel &&
    !((labels.getLast?.getD []).all (·.isDigit))

/-- The server name that a text stands for. -/
def parse? (text : String) : Option ServerName :=
  if isDomainName text.toList then some (.dns text)
  else (Ip.parse? text).map .ip

/-- The text of the name. -/
def text : ServerName → String
  | dns name => name
  | ip address => address.text

/-- Domain names differ only if they do so beyond the case of ASCII letters. -/
def same : ServerName → ServerName → Bool
  | dns left, dns right => left.toList.map Char.toLower == right.toList.map Char.toLower
  | ip left, ip right => left == right
  | _, _ => false

end ServerName

end OneHost
