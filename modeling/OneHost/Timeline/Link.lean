import OneHost.Connection.Conversation
import OneHost.Timeline.World

/-!
# Links as networks

A link serves as the network of a pool: what a pool exchanges with its endpoints goes through the
one transport of the link, and so does the order to forget an address.
-/

namespace OneHost.Connection.Link

variable {ρ : Type}

/-- Send requests to an address at the same time. -/
def sendAll (peers : Peers ρ) (address : SocketAddress) (requests : List Http.Request)
    (link : Link ρ) : List (Except TransportError Http.Response) × List Event × Link ρ :=
  let (results, conversation) := Conversation.exchangeAll peers 0 none address requests link
  (results.map (·.2), conversation.events, conversation.toLink)

/-- Give the transport some inputs. -/
def input (peers : Peers ρ) (inputs : List Input) (link : Link ρ) : List Event × Link ρ :=
  let conversation : Conversation ρ := { link with }
  let conversation := conversation.input peers inputs
  (conversation.events, conversation.toLink)

/-- The network that links to some peers are. -/
def network (peers : Peers ρ) : Timeline.Network (Link ρ) where
  exchange now limit address request link :=
    let ((delay, result), conversation) :=
      Conversation.exchange peers now limit address request link
    ((delay, result, conversation.events), conversation.toLink)
  evict address link := link.input peers [.evict address]

end OneHost.Connection.Link
