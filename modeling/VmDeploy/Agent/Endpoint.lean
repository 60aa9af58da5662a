import VmDeploy.Agent.Error
import VmDeploy.Text.Base64
import VmDeploy.Text.Utf8
import VmDeploy.Url.Basic

/-!
# Endpoints of agents

An endpoint is a URL. Messages go to the path that stands behind it, and its
credentials are sent along instead of being part of the URL. They are sent as
they stand in the URL, percent signs included.
-/

set_option autoImplicit false

namespace VmDeploy

/-- Where the messages to an agent go. -/
structure AgentEndpoint where
  url : Url
  username : List Char
  password : Option (List Char)
  deriving DecidableEq, Repr

namespace AgentEndpoint

/-- A text without the slashes at its end. -/
def trimSlashes (s : List Char) : List Char := (s.reverse.dropWhile (· = '/')).reverse

/-- The URL that messages go to. -/
def messageUrl (base : Url) : Except UrlError Url :=
  Url.parse (String.ofList (trimSlashes base.text.toList) ++ "/agent")

/-- Reads an endpoint. -/
def parse (endpoint : String) : Except AgentError AgentEndpoint := do
  let invalid (e : UrlError) : AgentError := .invalidEndpoint endpoint e.message
  let base ← (Url.parse endpoint).mapError invalid
  if ¬ base.takesCredentials then throw (.invalidEndpoint endpoint "cannot carry credentials")
  let url ← (messageUrl base.withoutCredentials).mapError invalid
  return ⟨url, base.username, base.password⟩

/-- What a message says about who sends it; nothing without a user. -/
def authorization (e : AgentEndpoint) : Option String :=
  if e.username.isEmpty then none
  else
    let credentials := e.username ++ ':' :: e.password.getD []
    let bytes := Text.Utf8.encode (String.ofList credentials)
    some ("Basic " ++ String.ofList (Text.Base64.encode bytes))

end AgentEndpoint

end VmDeploy
