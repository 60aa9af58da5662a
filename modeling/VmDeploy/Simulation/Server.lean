import VmDeploy.Agent.Client

/-!
# A scripted server for messages to agents

It answers one message after the other with the replies of a script, at one
address. A message for another address, or behind the end of the script, gets
no reply.
-/

set_option autoImplicit false

namespace VmDeploy.Simulation

/-- The replies that are left, nothing for a connection that is closed, and what was seen
so far. -/
structure Server where
  host : String
  port : Nat
  replies : List (Option AgentReply)
  /-- The messages that came in, the oldest first. -/
  messages : List AgentMessage := []
  clock : Duration := .zero

namespace Server

/-- Whether a URL leads to the server. -/
def serves (s : Server) (url : Url) : Bool :=
  url.scheme = "http".toList && url.host = some s.host.toList && url.port = some s.port

/-- Takes a message. -/
def take (message : AgentMessage) (s : Server) : Option AgentReply × Server :=
  if s.serves message.url then
    let received := { message with body := message.body.received }
    (s.replies.head?.join,
      { s with replies := s.replies.drop 1, messages := s.messages ++ [received] })
  else (none, s)

instance : MonadExchange (StateM Server) where
  sleep span := modify fun s => { s with clock := s.clock + span }
  exchange message := fun s => s.take message

end Server

end VmDeploy.Simulation
