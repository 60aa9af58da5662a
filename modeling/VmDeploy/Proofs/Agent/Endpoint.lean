import VmDeploy.Proofs.Url.Parts
import VmDeploy.Proofs.Url.Path

/-!
# Where messages to an agent go

An endpoint that is put together from a place in the web and credentials is read twice: with the
credentials, and without them and with another segment behind its path. Both times its parts are
found again, so the messages go to the scheme, the port and the path of the endpoint, and to what
its host is read as (`AgentEndpoint.parse_place`). An endpoint is refused only for its host.
-/

set_option autoImplicit false

namespace VmDeploy

open AgentEndpoint (trimSlashes)

namespace Url

/-- A path as it is read, without slashes at its end, and the segment of agents behind it. -/
def agentPath (path : List Char) : List Char :=
  trimSlashes (absolutePath true path) ++ "/agent".toList

theorem isSegment_agent : IsSegment "agent".toList :=
  ⟨List.all_eq_true.mp (by decide), by decide, by decide⟩

/-- The path of an agent is read as it is written. -/
theorem absolutePath_agentPath (path : List Char) :
    absolutePath true (agentPath path) = agentPath path := by
  obtain ⟨parts, -, each, read⟩ := absolutePath_eq path
  unfold agentPath
  rw [read]
  exact absolutePath_extended each isSegment_agent

/-- The path of an agent is one of segments. -/
theorem agentPath_eq (path : List Char) :
    ∃ parts, parts ≠ [] ∧ (∀ segment ∈ parts, IsSegment segment) ∧
      agentPath path = pathText parts := by
  rw [← absolutePath_agentPath]
  exact absolutePath_eq _

variable {c : Char} {parts : List (List Char)}

theorem visible_of_isSegmentChar (inside : isSegmentChar c = true) :
    0x20 < c.toNat ∧ c ≠ '?' ∧ c ≠ '#' := by
  refine ⟨?_, ?_, ?_⟩
  · simp only [isSegmentChar, Bool.and_eq_true, decide_eq_true_eq] at inside
    omega
  · rintro rfl
    cases inside
  · rintro rfl
    cases inside

theorem visible_pathText (each : ∀ segment ∈ parts, IsSegment segment) :
    ∀ c ∈ pathText parts, 0x20 < c.toNat ∧ c ≠ '?' ∧ c ≠ '#' := by
  intro c mem
  obtain ⟨segment, isPart, mem⟩ := List.mem_flatMap.mp mem
  rcases List.mem_cons.mp mem with rfl | mem
  · decide
  · exact visible_of_isSegmentChar ((each segment isPart).each c mem)

theorem head?_pathText : ∀ c ∈ (pathText parts).head?, c = '/' := by
  cases parts with
  | nil => exact nofun
  | cons first rest => simp [pathText, eq_comm]

/-- The place of an agent behind a place, at the host that was read. -/
def Place.agent (a : Place) (host : List Char) (isHost : IsHost host) : Place where
  secure := a.secure
  host := host
  isHost := isHost
  port := a.keptPort
  path := agentPath a.path
  isPath := by
    obtain ⟨parts, -, each, text⟩ := agentPath_eq a.path
    rw [text]
    exact visible_pathText each
  rooted := by
    obtain ⟨parts, -, -, text⟩ := agentPath_eq a.path
    rw [text]
    exact head?_pathText

end Url

open Url

namespace AgentEndpoint

variable (a : Place) {host : List Char}

/-- Without credentials a place that was read is written as its scheme, host, port and path. -/
theorem toList_text (user : List Char) (given : Option (List Char)) :
    (a.url user given host).withoutCredentials.text.toList
      = a.scheme ++ "://".toList ++ (host ++ portText a.keptPort) ++ absolutePath true a.path := by
  unfold Place.url withoutCredentials Url.text portText
  cases a.keptPort <;> simp

/-- Slashes are taken away from the path alone. -/
theorem trimSlashes_text (isHost : IsHost host) (user : List Char) (given : Option (List Char)) :
    String.ofList (trimSlashes (a.url user given host).withoutCredentials.text.toList) ++ "/agent"
      = (a.agent host isHost).text [] := by
  have server : ∀ c ∈ host ++ portText a.keptPort, InServer c :=
    inServer_place (a.agent host isHost)
  have some : host ++ portText a.keptPort ≠ [] :=
    List.append_ne_nil_of_left_ne_nil (List.isEmpty_eq_false_iff.mp isHost.isEmpty) _
  obtain ⟨front, c, last⟩ := (List.eq_nil_or_concat _).resolve_left some
  have other : c ≠ '/' := by
    rintro rfl
    have inServer := server '/' (by rw [last]; simp)
    cases inServer.2.1
  have split : a.scheme ++ "://".toList ++ (host ++ portText a.keptPort)
      = a.scheme ++ "://".toList ++ front ++ [c] := by
    rw [last, List.concat_eq_append, List.append_assoc _ front]
  rw [toList_text, split, trimSlashes_append other, ← split]
  apply String.toList_injective
  rw [String.toList_append, String.toList_ofList]
  refine Eq.trans ?_ String.toList_ofList.symm
  show _ = a.scheme ++ "://".toList ++ ([] ++ (host ++ portText a.keptPort) ++ agentPath a.path)
  rw [agentPath, List.nil_append]
  simp only [List.append_assoc]

/-- The URL of the messages to an agent. -/
def messagesTo (host : List Char) : Url where
  scheme := a.scheme
  host := some host
  port := a.keptPort.map UInt16.toNat
  path := agentPath a.path

/-- The place of an agent is read as it is. -/
theorem url_agent (isHost : IsHost host) : (a.agent host isHost).url [] none = messagesTo a := by
  funext host'
  have kept : (a.agent host isHost).keptPort = a.keptPort := by
    have scheme : (a.agent host isHost).scheme = a.scheme := rfl
    show Option.filter _ (Option.filter _ a.port) = Option.filter _ a.port
    rw [Option.filter_filter, scheme]
    simp
  have path : absolutePath true (a.agent host isHost).path = agentPath a.path :=
    absolutePath_agentPath a.path
  rw [Place.url, kept, path]
  rfl

theorem messageUrl_place (isHost : IsHost host) (user : List Char) (given : Option (List Char)) :
    messageUrl (a.url user given host).withoutCredentials
      = (readHost host).map (messagesTo a) := by
  rw [messageUrl, trimSlashes_text a isHost, parse_text _ .none, url_agent]
  rfl

theorem takesCredentials_url (isHost : IsHost host) (user : List Char)
    (given : Option (List Char)) :
    (a.url user given host).takesCredentials = true := by
  obtain ⟨c, rest, rfl⟩ := List.exists_cons_of_ne_nil (List.isEmpty_eq_false_iff.mp isHost.isEmpty)
  show decide (a.scheme ≠ "file".toList) = true
  unfold Place.scheme
  cases a.secure <;> decide

/-- An endpoint is read as its place and its credentials, unless its host is none. -/
theorem parse_place {userinfo user : List Char} {given : Option (List Char)}
    (isUserinfo : IsUserinfo userinfo user given) :
    AgentEndpoint.parse (a.text userinfo)
      = match readHost a.host >>= readHost with
        | .ok host => .ok ⟨messagesTo a host, user, given⟩
        | .error e => .error (.invalidEndpoint (a.text userinfo) e.message) := by
  unfold AgentEndpoint.parse
  rw [parse_text a isUserinfo]
  cases read : readHost a.host with
  | error e => rfl
  | ok host =>
    have isHost := isHost_of_readHost a.isHost read
    have takes := takesCredentials_url a isHost user given
    simp only [Except.map, Except.mapError, bind, Except.bind, takes, messageUrl_place a isHost]
    cases readHost host with
    | error e => rfl
    | ok host' => rfl

end AgentEndpoint

end VmDeploy
