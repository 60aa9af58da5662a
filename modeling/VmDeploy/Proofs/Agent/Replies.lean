import Mathlib.Logic.ExistsUnique
import VmDeploy.Agent.Reply

/-!
# What replies of agents say

The law of what comes back for a message, by the status and the body of the reply
(`AgentReply.Tells`): when a reply is an error, and which one, and when it is a value. An exception
in the body wins over a value beside it, a body that cannot be read is worth as much as a closed
connection, and a status that is not good wins over the body, which is told with it as text.

What a body of bytes holds is left to the reader of the format (`AgentResponse.reader`). Which of
its faults a broken body has is not told.
-/

set_option autoImplicit false

namespace VmDeploy

/-- What a body tells: the reason of its exception if there is one, whatever its value, and else its
value. One that has neither tells the value `null`. -/
inductive AgentResponse.Tells : AgentResponse → Except String Json → Prop
  | exception {response : AgentResponse} {reason : String}
      (found : response.exception.join = some reason) : Tells response (.error reason)
  | value {response : AgentResponse} (faultless : response.exception.join = none) :
      Tells response (.ok (response.value.getD .null))

/-- An exception beside a value, in a body that is spelled as a list. -/
example :
    (AgentResponse.reader.run "[7, \x7b\x22message\x22: \x22gone\x22\x7d]".toUTF8.toList).toOption.map
      (·.exception.join) = some (some "gone") := by
  decide +kernel

/-- No exception at all, and one without a message. -/
example : (["\x7b\x22exception\x22: null\x7d", "\x7b\x22exception\x22: \x7b\x7d\x7d"].map fun body =>
    (AgentResponse.reader.run body.toUTF8.toList).toOption.map (·.exception.join))
      = [some none, none] := by
  decide +kernel

namespace AgentReply

variable {reply : AgentReply} {response : AgentResponse} {body : List UInt8}

/-- The body that comes with a reply. Three statuses have none, whatever follows them. -/
inductive Brings (reply : AgentReply) : List UInt8 → Prop
  | nothing (bare : reply.status = 101 ∨ reply.status = 204 ∨ reply.status = 304) : Brings reply []
  | body (full : reply.status ≠ 101 ∧ reply.status ≠ 204 ∧ reply.status ≠ 304) :
      Brings reply reply.body

/-- What comes back for a message says. -/
inductive Tells : Option AgentReply → Except AgentError Json → Prop
  /-- The connection was closed. -/
  | closed : Tells none (.error .transport)
  /-- The status is that of an interim reply, or it is none. -/
  | interim {reply : AgentReply}
      (early : reply.status < 200 ∧ reply.status ≠ 101 ∨ 1000 ≤ reply.status) :
      Tells (some reply) (.error .transport)
  /-- The status is not good. -/
  | bad {reply : AgentReply} {body : List UInt8}
      (status : reply.status = 101 ∨ 300 ≤ reply.status ∧ reply.status < 1000)
      (brings : reply.Brings body) :
      Tells (some reply) (.error (.status reply.status (String.ofList (Text.Utf8.decodeLossy body))))
  /-- The status is good, and the body cannot be read. -/
  | broken {reply : AgentReply} {body : List UInt8} {fault : Json.Fault}
      (good : 200 ≤ reply.status ∧ reply.status < 300) (brings : reply.Brings body)
      (unread : AgentResponse.reader.run body = .error fault) :
      Tells (some reply) (.error .transport)
  /-- The status is good, and the body holds an exception. -/
  | exception {reply : AgentReply} {body : List UInt8} {response : AgentResponse} {reason : String}
      (good : 200 ≤ reply.status ∧ reply.status < 300) (brings : reply.Brings body)
      (read : AgentResponse.reader.run body = .ok response)
      (tells : response.Tells (.error reason)) :
      Tells (some reply) (.error (.exception reason))
  /-- The status is good, and the body holds a value and no exception. -/
  | value {reply : AgentReply} {body : List UInt8} {response : AgentResponse} {v : Json}
      (good : 200 ≤ reply.status ∧ reply.status < 300) (brings : reply.Brings body)
      (read : AgentResponse.reader.run body = .ok response) (tells : response.Tells (.ok v)) :
      Tells (some reply) (.ok v)

/-- The value that came back for a message. -/
def valueOf : Option AgentReply → Except AgentError Json
  | none => .error .transport
  | some reply => reply.value

theorem isFinal_iff :
    reply.isFinal = true ↔ reply.status = 101 ∨ 200 ≤ reply.status ∧ reply.status < 1000 := by
  simp [isFinal]

theorem isGood_iff : reply.isGood = true ↔ 200 ≤ reply.status ∧ reply.status < 300 := by
  simp [isGood]

theorem isFinal_of_good (good : 200 ≤ reply.status ∧ reply.status < 300) :
    reply.isFinal = true :=
  isFinal_iff.mpr (.inr (by omega))

theorem brings_iff : reply.Brings body ↔ body = reply.content := by
  have bare : bareStatuses.contains reply.status = true ↔
      reply.status = 101 ∨ reply.status = 204 ∨ reply.status = 304 := by
    simp [bareStatuses]
  unfold content
  split
  · rename_i here
    refine ⟨?_, fun same => same ▸ .nothing (bare.mp here)⟩
    rintro (- | full)
    · rfl
    · have := bare.mp here
      omega
  · rename_i other
    refine ⟨?_, fun same => same ▸ .body (by have := mt bare.mpr other; omega)⟩
    rintro (here | -)
    · exact absurd (bare.mpr here) other
    · rfl

/-! ## The ways of a reply -/

theorem value_of_interim (early : reply.status < 200 ∧ reply.status ≠ 101 ∨ 1000 ≤ reply.status) :
    reply.value = .error .transport := by
  have notFinal : ¬ reply.isFinal = true := fun final => by
    have := isFinal_iff.mp final
    omega
  rw [value, if_pos notFinal]

theorem value_of_bad (status : reply.status = 101 ∨ 300 ≤ reply.status ∧ reply.status < 1000) :
    reply.value =
      .error (.status reply.status (String.ofList (Text.Utf8.decodeLossy reply.content))) := by
  have final : reply.isFinal = true := isFinal_iff.mpr (by omega)
  have notGood : ¬ reply.isGood = true := fun good => by
    have := isGood_iff.mp good
    omega
  rw [value, if_neg (not_not_intro final), if_pos notGood]

theorem value_of_broken (good : 200 ≤ reply.status ∧ reply.status < 300) {fault : Json.Fault}
    (unread : AgentResponse.reader.run reply.content = .error fault) :
    reply.value = .error .transport := by
  simp [value, isFinal_of_good good, isGood_iff.mpr good, unread]

theorem value_of_exception (good : 200 ≤ reply.status ∧ reply.status < 300) {reason : String}
    (read : AgentResponse.reader.run reply.content = .ok response)
    (found : response.exception.join = some reason) :
    reply.value = .error (.exception reason) := by
  simp [value, isFinal_of_good good, isGood_iff.mpr good, read, found]

theorem value_of_faultless (good : 200 ≤ reply.status ∧ reply.status < 300)
    (read : AgentResponse.reader.run reply.content = .ok response)
    (faultless : response.exception.join = none) :
    reply.value = .ok (response.value.getD .null) := by
  simp [value, isFinal_of_good good, isGood_iff.mpr good, read, faultless]

/-- The value of a reply is what it says. -/
theorem Tells.valueOf_eq {came : Option AgentReply} {r : Except AgentError Json}
    (tells : Tells came r) : valueOf came = r := by
  cases tells with
  | closed => rfl
  | interim early => exact value_of_interim early
  | bad status brings => exact brings_iff.mp brings ▸ value_of_bad status
  | broken good brings unread => exact value_of_broken good (brings_iff.mp brings ▸ unread)
  | exception good brings read tells =>
    cases tells with
    | exception found => exact value_of_exception good (brings_iff.mp brings ▸ read) found
  | value good brings read tells =>
    cases tells with
    | value faultless => exact value_of_faultless good (brings_iff.mp brings ▸ read) faultless

/-- Whatever comes back says something. -/
theorem exists_tells (came : Option AgentReply) : ∃ r, Tells came r := by
  rcases came with _ | reply
  · exact ⟨_, .closed⟩
  have brings : reply.Brings reply.content := brings_iff.mpr rfl
  by_cases good : 200 ≤ reply.status ∧ reply.status < 300
  · cases read : AgentResponse.reader.run reply.content with
    | error fault => exact ⟨_, .broken good brings read⟩
    | ok response =>
      cases found : response.exception.join with
      | some reason => exact ⟨_, .exception good brings read (.exception found)⟩
      | none => exact ⟨_, .value good brings read (.value found)⟩
  · by_cases early : reply.status < 200 ∧ reply.status ≠ 101 ∨ 1000 ≤ reply.status
    · exact ⟨_, .interim early⟩
    · exact ⟨_, .bad (by omega) brings⟩

/-- What comes back says its value, and nothing else. -/
theorem tells_iff {came : Option AgentReply} {r : Except AgentError Json} :
    Tells came r ↔ valueOf came = r := by
  refine ⟨Tells.valueOf_eq, ?_⟩
  rintro rfl
  obtain ⟨r, tells⟩ := exists_tells came
  exact tells.valueOf_eq ▸ tells

theorem Tells.unique {came : Option AgentReply} {r r' : Except AgentError Json}
    (one : Tells came r) (other : Tells came r') : r = r' :=
  one.valueOf_eq.symm.trans other.valueOf_eq

/-- Whatever comes back says one thing. -/
theorem existsUnique_tells (came : Option AgentReply) : ∃! r, Tells came r :=
  ⟨valueOf came, tells_iff.mpr rfl, fun _ tells => tells.valueOf_eq.symm⟩

end AgentReply

end VmDeploy
