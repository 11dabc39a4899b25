import OneHost.Connection.Channel

/-!
# Connections that were made

A line is a connection from its making on. It remembers where it goes and how it was secured, which
requests were written to it, and how many of their answers have come whole. Answers come in the
order of the requests. Lines are known by their numbers, which follow the order in which they were
made.
-/

namespace OneHost.Connection

/-- How a connection was secured: the name that the server was told, and the certificate that it
presented and that was accepted. -/
structure Secured where
  name : ServerName
  leaf : Bytes
  deriving DecidableEq

/-- A connection. -/
structure Line where
  address : SocketAddress
  secured : Option Secured
  written : List Http.Request := []
  answered : Nat := 0
  isOpen : Bool := true

namespace Line

/-- The requests whose answers have not come whole. -/
def outstanding (line : Line) : List Http.Request :=
  line.written.drop line.answered

/-- Write a request. -/
def write (line : Line) (request : Http.Request) : Line :=
  { line with written := line.written ++ [request] }

/-- Take note that an answer has come whole, if one is due. -/
def noteAnswer (line : Line) : Line :=
  if line.answered < line.written.length then { line with answered := line.answered + 1 } else line

/-- Take note that the other end has closed. -/
def close (line : Line) : Line :=
  { line with isOpen := false }

end Line

end OneHost.Connection
