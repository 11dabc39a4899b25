import OneHost.Loopback.Server
import OneHost.Session.Basic

/-!
# Sessions with a server in memory

A server in memory can take the place of the network of a session, so that everything from the
settings down to the bytes of a response can be run in memory.
-/

namespace OneHost.Loopback

/-- A client's transport with the server that it talks to. -/
abbrev Link := Connection.Link Server

/-- The server of a link hangs up where that was put off. -/
def Link.hangUp (link : Link) : Link :=
  let (inputs, server) := link.peer.hangUp
  (Connection.Link.input Server.peers inputs { link with peer := server }).2

namespace Server

/-- Where a client of the server finds the authority's certificate. -/
def authorityPath : String := "ca.pem"

/-- What a client of the server finds: some files of its own, and the authority's certificate, if
the server has a certificate. -/
def folder (server : Server) (files : List (String × String)) : Folder :=
  let trusted := server.certificate.toList.map fun _ => (authorityPath, authorityFile)
  .ofFiles ((files ++ trusted).map fun (path, text) => (path, Text.encode text))

/-- A session whose connections all lead to the server. -/
def session (server : Server) (folder : Folder) (settings : Settings) :
    Except SessionError (Session Link) :=
  Session.start peers server server.judge folder settings

end Server

end OneHost.Loopback
