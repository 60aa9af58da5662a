import VmDeploy.Proofs.Agent.Endpoint
import VmDeploy.Proofs.Agent.Tasks
import VmDeploy.Proofs.Services.Questions
import VmDeploy.Proofs.Text.Base64

/-!
# Credentials that reach an agent

Every message of a client is posted to the path of its endpoint and carries the credentials in
front of the host of the endpoint (`AgentClient.authenticates`). They are carried as they stand
there, so an agent that reads them gets the user and the password themselves exactly if no character
of them stands by number. Otherwise it gets other ones (`AgentClient.credentials_altered`).
-/

set_option autoImplicit false

namespace VmDeploy

open AgentEndpoint (trimSlashes)

/-- The user and the password that a header of basic authentication tells: text in base 64, with the
first colon between the two. -/
def basicCredentials? (header : String) : Option (List Char × List Char) := do
  let digits ← header.toList.dropPrefix? "Basic ".toList
  let text ← (Text.Base64.decode? digits).bind Text.Utf8.decode?
  return (text.toList.takeWhile (· ≠ ':'), (text.toList.dropWhile (· ≠ ':')).drop 1)

theorem AgentEndpoint.credentials_of_authorization (e : AgentEndpoint) (some : e.username ≠ [])
    (noColon : ':' ∉ e.username) :
    ∃ header, e.authorization = .some header ∧
      basicCredentials? header = .some (e.username, e.password.getD []) := by
  refine ⟨_, if_neg (mt List.isEmpty_iff.mp some), ?_⟩
  generalize e.password.getD [] = password
  have digits (s : List Char) :
      ("Basic " ++ String.ofList s).toList.dropPrefix? "Basic ".toList = .some s := by
    refine List.dropPrefix?_eq_some_iff.mpr ⟨"Basic ".toList, ?_, beq_self_eq_true _⟩
    rw [String.toList_append]
    exact congrArg _ String.toList_ofList
  have each : ∀ c ∈ e.username, decide (c ≠ ':') = true :=
    fun c mem => decide_eq_true fun same => noColon (same ▸ mem)
  obtain ⟨user, behind⟩ := Url.cut_append (s := ':' :: password) each (by simp)
  simp only [basicCredentials?, digits, Text.Base64.decode?_encode, Option.bind_eq_bind,
    Option.bind_some, Text.Utf8.decode?_encode, String.toList_ofList, user, behind]
  rfl

/-- A question sends a message of a kind, or none. -/
def ExchangeQuestion.Sends (P : AgentMessage → Prop) : ExchangeQuestion → Prop
  | .send message => P message
  | .sleep _ => True

/-- A message to the agent of a place, with a user and a password. -/
structure AgentMessage.Carries (a : Url.Place) (user password : List Char)
    (message : AgentMessage) : Prop where
  method : message.httpMethod = "POST"
  scheme : message.url.scheme = a.scheme
  port : message.url.port = a.keptPort.map UInt16.toNat
  /-- It goes to the path of the place without slashes at its end and with a segment behind it. -/
  path : message.url.path = trimSlashes (Url.absolutePath true a.path) ++ "/agent".toList
  credentials : ∃ header, message.authorization = some header ∧
    basicCredentials? header = some (user, password)

namespace AgentClient

variable (client : AgentClient) {P : AgentMessage → Prop}

/-- Whatever is replied, a client sends only messages that it made. -/
theorem asks_request (each : ∀ method arguments, P (client.message method arguments))
    (method : String) (arguments : List Json) :
    (client.request method arguments : Program exchanges _).Asks (ExchangeQuestion.Sends P) := by
  refine Program.Asks.bind (Program.Asks.question (each method arguments)) fun reply => ?_
  cases reply <;> exact Program.Asks.pure

theorem asks_requestOf {α : Type} (each : ∀ method arguments, P (client.message method arguments))
    (method : String) (decode : Json.Decoder α) :
    (client.requestOf method decode : Program exchanges _).Asks (ExchangeQuestion.Sends P) := by
  refine Program.Asks.bind (client.asks_request each method []) fun answer => ?_
  cases answer <;> exact Program.Asks.pure

theorem asks_performTask (each : ∀ method arguments, P (client.message method arguments))
    (patience : Nat) (method : String) (arguments : List Json) :
    (client.performTask patience method arguments : Program exchanges _).Asks
      (ExchangeQuestion.Sends P) := by
  have polls (task : String) (patience : Nat) :
      (Retry.unlimited client.taskPollDelay (client.pollTask task) patience :
        Program exchanges _).Asks (ExchangeQuestion.Sends P) := by
    induction patience with
    | zero => exact Program.Asks.pure
    | succ patience ih =>
      refine Program.Asks.bind ?_ fun attempt => ?_
      · refine Program.Asks.bind (client.asks_request each _ _) fun answer => ?_
        cases answer <;> exact Program.Asks.pure
      · cases attempt with
        | succeeded | refused _ => exact Program.Asks.pure
        | failed _ => exact Program.Asks.bind (Program.Asks.question trivial) fun _ => ih
  refine Program.Asks.bind (client.asks_request each method arguments) fun answer => ?_
  cases answer with
  | error e => exact Program.Asks.pure
  | ok value =>
    dsimp only
    split
    · exact Program.Asks.pure
    · split
      · exact Program.Asks.pure
      · exact (polls _ patience).map

theorem asks_perform (each : ∀ method arguments, P (client.message method arguments))
    (patience : Nat) (request : AgentRequest) :
    (client.perform patience request : Program exchanges _).Asks (ExchangeQuestion.Sends P) := by
  cases request with
  | ping =>
    refine Program.Asks.bind (client.asks_request each _ _) fun answer => ?_
    cases answer with
    | error e => exact Program.Asks.pure
    | ok value => cases value <;> exact Program.Asks.pure
  | start => exact (client.asks_request each _ _).map
  | getState => exact (client.asks_requestOf each _ _).map
  | listDisk => exact (client.asks_requestOf each _ _).map
  | stop | apply _ | mountDisk _ | unmountDisk _ | migrateDisk =>
    exact client.asks_performTask each patience _ _

end AgentClient

/-- How the clients of an agent carry credentials in front of the host of an endpoint; `userText`
and `passwordText` are what stands there for a user and a password. -/
structure Authenticates (a : Url.Place) (userText passwordText : List Char)
    (user password : String) : Prop where
  /-- An endpoint is refused only if its host is none, as it stands there or as it is read. -/
  accepted_iff :
    (∃ e, AgentEndpoint.parse (a.text (userText ++ ':' :: passwordText ++ ['@'])) = .ok e) ↔
      ∃ host, Url.readHost a.host >>= Url.readHost = .ok host
  /-- Whatever is replied, every message carries what stands there. -/
  carried : ∀ client : AgentClient,
    AgentEndpoint.parse (a.text (userText ++ ':' :: passwordText ++ ['@'])) = .ok client.endpoint →
      ∀ patience request, (client.perform patience request : Program exchanges _).Asks
        (ExchangeQuestion.Sends (AgentMessage.Carries a userText passwordText))
  /-- That is the user and the password exactly if nothing of them stands there by number. -/
  unaltered_iff : (userText = user.toList ∧ passwordText = password.toList) ↔
    '%' ∉ userText ∧ '%' ∉ passwordText
  /-- A path is kept as it is if no reading changes its segments. -/
  kept : ∀ parts ≠ [], (∀ segment ∈ parts, Url.IsSegment segment) → a.path = Url.pathText parts →
    Url.absolutePath true a.path = a.path

namespace AgentClient

open Url

variable {a : Place} {userText passwordText : List Char}

theorem ne_nil_of_encodes {user : String} (some : user ≠ "")
    (isUser : Encodes userText (Text.Utf8.encode user)) : userText ≠ [] := by
  rintro rfl
  generalize encoded : Text.Utf8.encode user = bytes at isUser
  cases isUser
  exact some (Text.Utf8.encode_injective (encoded.trans (Text.Utf8.encode_ofList []).symm))

/-- What a client says of itself stands in front of the host of its endpoint. -/
theorem carries_message {client : AgentClient} {host : List Char} (some : userText ≠ [])
    (isUser : ∀ c ∈ userText, isLiteral c = true)
    (endpoint : client.endpoint = ⟨AgentEndpoint.messagesTo a host, userText,
      if passwordText.isEmpty then none else .some passwordText⟩)
    (method : String) (arguments : List Json) :
    AgentMessage.Carries a userText passwordText (client.message method arguments) := by
  have password : (if passwordText.isEmpty then none else .some passwordText).getD []
      = passwordText := by
    cases passwordText <;> rfl
  have credentials := client.endpoint.credentials_of_authorization
  unfold message
  rw [endpoint] at credentials ⊢
  dsimp only at credentials
  rw [password] at credentials
  exact ⟨rfl, rfl, rfl, rfl, credentials some fun colon => nomatch isUser ':' colon⟩

/-- Credentials reach an agent as they stand in its endpoint. -/
theorem authenticates (a : Place) {userText passwordText : List Char} {user password : String}
    (some : user ≠ "") (isUser : Encodes userText (Text.Utf8.encode user))
    (isPassword : Encodes passwordText (Text.Utf8.encode password)) :
    Authenticates a userText passwordText user password := by
  have someText := ne_nil_of_encodes some isUser
  have read := AgentEndpoint.parse_place a (.some someText isUser.isLiteral isPassword.isLiteral)
  refine ⟨?_, fun client accepted patience request => ?_, ?_, ?_⟩
  · rw [read]
    cases readHost a.host >>= readHost <;> simp
  · rw [read] at accepted
    split at accepted
    · have endpoint := (Except.ok.inj accepted).symm
      have each := carries_message someText isUser.isLiteral endpoint
      exact client.asks_perform each patience request
    · cases accepted
  · rw [isUser.eq_iff, isPassword.eq_iff]
  · rintro parts some each path
    rw [path]
    exact absolutePath_pathText some each

/-- A place with an address, a port and a slash at the end of its path. -/
def localPlace : Place where
  secure := false
  host := '[' :: "::1".toList ++ [']']
  isHost := .address (Text.forall_mem_of_all (by decide))
  port := some 6868
  path := "/base/".toList
  isPath := Text.forall_mem_of_all (by decide)
  rooted := fun _ first => (Option.some.inj first).symm

theorem readHost_localPlace :
    readHost localPlace.host >>= readHost = .ok localPlace.host := by
  have read : readHost localPlace.host = .ok localPlace.host := rfl
  have again (s : List Char) : (Except.ok s >>= readHost) = readHost s := rfl
  rw [read, again, read]

/-- The at-sign of a user stands by number, so that it does not end the credentials. -/
theorem encodes_atSign : Encodes "ad%40min".toList (Text.Utf8.encode "ad@min") :=
  .of_percentEncode (by decide +kernel)

theorem encodes_letters : Encodes "secret".toList (Text.Utf8.encode "secret") :=
  .of_percentEncode (by decide +kernel)

theorem authenticates_localPlace :
    "ad@min" ≠ "" ∧ Encodes "ad%40min".toList (Text.Utf8.encode "ad@min") ∧
      Encodes "secret".toList (Text.Utf8.encode "secret") ∧
      Authenticates localPlace "ad%40min".toList "secret".toList "ad@min" "secret" :=
  ⟨by decide, encodes_atSign, encodes_letters,
    authenticates localPlace (by decide) encodes_atSign encodes_letters⟩

/-- A user with an at-sign reaches an agent as another user. -/
theorem credentials_altered :
    Encodes "ad%40min".toList (Text.Utf8.encode "ad@min") ∧
      Encodes "secret".toList (Text.Utf8.encode "secret") ∧
      ∃ client : AgentClient,
        AgentEndpoint.parse "http://ad%40min:secret@[::1]:6868/base/" = .ok client.endpoint ∧
          (client.message "ping" []).authorization = some "Basic YWQlNDBtaW46c2VjcmV0" ∧
          basicCredentials? "Basic YWQlNDBtaW46c2VjcmV0"
            = some ("ad%40min".toList, "secret".toList) ∧
          "ad%40min".toList ≠ "ad@min".toList := by
  have text : localPlace.text ("ad%40min".toList ++ ':' :: "secret".toList ++ ['@'])
      = "http://ad%40min:secret@[::1]:6868/base/" := by
    decide +kernel
  have read := AgentEndpoint.parse_place localPlace
    (.some (by decide) encodes_atSign.isLiteral encodes_letters.isLiteral)
  rw [text, readHost_localPlace] at read
  refine ⟨encodes_atSign, encodes_letters, ⟨_, "director", .ofMillis 1⟩, read, ?_, ?_, by decide⟩
  · decide +kernel
  · decide +kernel

end AgentClient

end VmDeploy
