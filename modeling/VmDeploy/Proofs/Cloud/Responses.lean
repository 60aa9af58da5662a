import VmDeploy.Cloud.Command
import VmDeploy.Failure
import VmDeploy.Proofs.Id.Text
import VmDeploy.Proofs.Json.Slots

/-!
# From the response of a command to the end of a step

What a call of the cloud comes out with hangs on the text that the command writes
(`CloudOutcome.Classified`): the error of a response wins over its result, and a result has to be of
the kind that the request asks for. How the command ended is told beside, and decides nothing.

A deletion takes the error of a call for a skipped step exactly if it is of the type that is looked
for, inside any contexts (`CloudCommand.StepEnds`). Types are told by their texts, so the one that
is looked for is given by its text, as is the one that the cloud names.
-/

set_option autoImplicit false

namespace VmDeploy

open Json.Reader (Ensures Gathers ensures_pure ensures_bind ensures_then)

/-! ## What responses say -/

/-- The error of a response, its defaults filled in. -/
structure CloudReport where
  type : String
  message : String
  okToRetry : Bool

namespace CloudResponse

/-- What a response comes to: its error if there is one, whatever its result, and else its
result. -/
inductive Tells : CloudResponse → Except CloudReport Json → Prop
  | error {r : CloudResponse} {type message : String} {okToRetry : Option Bool}
      (found : r.error.join = some ⟨some type, some message, okToRetry⟩) :
      Tells r (.error ⟨type, message, okToRetry.getD false⟩)
  | result {r : CloudResponse} (faultless : r.error.join = none) :
      Tells r (.ok (r.result.getD .null))

/-- A text decodes as a response that tells something. -/
def Decodes (text : List UInt8) (told : Except CloudReport Json) : Prop :=
  ∃ r, read text = .ok r ∧ r.Tells told

/-- A response that is spelled as a list, with a result and an error. -/
example : (read "[true, [\"T\", \"gone\"]]".toUTF8.toList).toOption.bind (·.error.join)
    = some ⟨some "T", some "gone", none⟩ := by
  decide +kernel

/-- An error says of which type it is, and has a message. -/
def Complete (f : CloudFault) : Prop := f.type.isSome = true ∧ f.message.isSome = true

/-- An error that was read is complete. -/
theorem ensures_faultReader (levels : Nat) : (faultReader levels).Ensures Complete := by
  refine (Json.Reader.ensures_record (P := fun _ => True) ?_ trivial).mono ?_
  · constructor
    · simp only [List.mem_cons, List.not_mem_nil, or_false]
      rintro _ (rfl | rfl | rfl) levels f <;>
        exact ensures_then fun _ => ensures_pure rfl
    · simp only [List.mem_cons, List.not_mem_nil, or_false]
      rintro _ (rfl | rfl | rfl) _ (rfl | rfl | rfl) levels f wasSet <;>
        exact ensures_then fun _ => ensures_pure (by first | rfl | exact wasSet)
    · exact fun slot _ levels f _ => Json.Reader.ensures_true _
  · rintro f ⟨-, complete⟩
    exact ⟨complete _ (List.mem_cons_self) rfl,
      complete _ (List.mem_cons_of_mem _ List.mem_cons_self) rfl⟩

/-- The error of a response that was read is complete. -/
theorem ensures_reader :
    reader.Ensures fun r => ∀ f, r.error.join = some f → Complete f := by
  refine (Json.Reader.ensures_record ?_ nofun).mono fun r => And.left
  constructor
  · simp only [List.mem_cons, List.not_mem_nil, or_false]
    rintro _ (rfl | rfl | rfl) levels r <;>
      exact ensures_then fun _ => ensures_pure rfl
  · simp only [List.mem_cons, List.not_mem_nil, or_false]
    rintro _ (rfl | rfl | rfl) _ (rfl | rfl | rfl) levels r wasSet <;>
      exact ensures_then fun _ => ensures_pure (by first | rfl | exact wasSet)
  · simp only [List.mem_cons, List.not_mem_nil, or_false]
    rintro _ (rfl | rfl | rfl) levels r complete
    · exact ensures_then fun _ => ensures_pure complete
    · exact ensures_bind (Json.Reader.ensures_orNull (ensures_faultReader levels))
        fun _ complete => ensures_pure complete
    · exact ensures_then fun _ => ensures_pure complete

/-- Every response that was read comes to something: its error, if it has one, lacks no part for
which a default would have to stand in. -/
theorem exists_tells {text : List UInt8} {r : CloudResponse} (decoded : read text = .ok r) :
    ∃ told, r.Tells told := by
  cases found : r.error.join with
  | none => exact ⟨_, .result found⟩
  | some f =>
    obtain ⟨type?, message?, okToRetry⟩ := f
    obtain ⟨hasType, hasMessage⟩ := ensures_reader.of_run decoded _ found
    obtain ⟨type, rfl⟩ := Option.isSome_iff_exists.mp hasType
    obtain ⟨message, rfl⟩ := Option.isSome_iff_exists.mp hasMessage
    exact ⟨_, .error found⟩

/-- A response comes to one thing. -/
theorem Tells.unique {r : CloudResponse} {told told' : Except CloudReport Json}
    (one : r.Tells told) (other : r.Tells told') : told = told' := by
  rcases one with found | faultless <;> rcases other with found' | faultless'
  · cases found.symm.trans found'
    rfl
  · cases found.symm.trans faultless'
  · cases faultless.symm.trans found'
  · rfl

/-- A text decodes as one thing. -/
theorem Decodes.unique {text : List UInt8} {told told' : Except CloudReport Json}
    (one : Decodes text told) (other : Decodes text told') : told = told' := by
  obtain ⟨r, decoded, tells⟩ := one
  obtain ⟨r', decoded', tells'⟩ := other
  cases decoded.symm.trans decoded'
  exact tells.unique tells'

theorem Decodes.not_fault {text : List UInt8} {told : Except CloudReport Json}
    (decodes : Decodes text told) (fault : Json.Fault) : read text ≠ .error fault := by
  obtain ⟨r, decoded, -⟩ := decodes
  rw [decoded]
  nofun

end CloudResponse

/-! ## Answers -/

namespace CloudRequest

/-- What a request makes of a result. -/
def Takes : (request : CloudRequest) → Json → request.Value → Prop
  | .hasVm _, x, b => x = .bool b
  | .createDisk _ _ _, x, disk => x = .string (CloudId.text disk)
  | .deleteVm _, _, _ | .attachDisk _ _, _, _ | .detachDisk _ _, _, _ | .deleteDisk _, _, _
  | .deleteStemcell _, _, _ => True

/-- The results that are of the kind that a request asks for. -/
def RightKind : CloudRequest → Json → Prop
  | .hasVm _, x => ∃ b, x = .bool b
  | .createDisk _ _ _, x => ∃ s, s ≠ "" ∧ x = .string s
  | .deleteVm _, _ | .attachDisk _ _, _ | .detachDisk _ _, _ | .deleteDisk _, _
  | .deleteStemcell _, _ => True

end CloudRequest

namespace CloudCommand

open CloudResponse (Decodes)

variable {request : CloudRequest} {text : List UInt8} {ended : CommandEnd}

/-- What a request comes back with from a command, or from the reason why there is none. -/
def outcome (request : CloudRequest) (left : Except String CommandOutput) : request.Answer :=
  answer request (value request.method left)

/-- The answer to an error is that error. -/
theorem answer_error (request : CloudRequest) (e : CloudError) :
    answer request (.error e) = .error e := by
  cases request <;> rfl

/-- A result is answered with what the request makes of it. -/
theorem answer_ok_iff {x : Json} {value : request.Value} :
    answer request (.ok x) = .ok value ↔ request.Takes x value := by
  cases request with
  | hasVm vm =>
    cases x with
    | bool b => exact ⟨by rintro ⟨⟩; rfl, by rintro ⟨⟩; rfl⟩
    | _ => exact iff_of_false nofun nofun
  | createDisk size properties vm =>
    cases x with
    | string s =>
      refine Result.mapError_eq_ok.trans ⟨fun parsed => ?_, ?_⟩
      · exact congrArg Json.string (CloudId.text_of_parse parsed).symm
      · rintro ⟨⟩
        exact CloudId.parse_text value
    | _ => exact iff_of_false nofun nofun
  | deleteVm _ | attachDisk _ _ | detachDisk _ _ | deleteDisk _ | deleteStemcell _ =>
    exact iff_of_true rfl trivial

/-- A result is refused if it is of the wrong kind. -/
theorem answer_wrongKind {x : Json} (wrong : ¬ request.RightKind x) :
    ∃ reason, answer request (.ok x) = .error (.invalidResponse request.method reason) := by
  cases request with
  | hasVm vm =>
    cases x with
    | bool b => exact absurd ⟨b, rfl⟩ wrong
    | _ => exact ⟨_, rfl⟩
  | createDisk size properties vm =>
    cases x with
    | string s =>
      have empty : s = "" := Decidable.byContradiction fun nonempty => wrong ⟨s, nonempty, rfl⟩
      subst empty
      exact ⟨_, rfl⟩
    | _ => exact ⟨_, rfl⟩
  | deleteVm _ | attachDisk _ _ | detachDisk _ _ | deleteDisk _ | deleteStemcell _ =>
    exact absurd trivial wrong

/-- A request makes something of the results of the right kind alone. -/
theorem rightKind_iff {x : Json} : request.RightKind x ↔ ∃ value, request.Takes x value := by
  cases request with
  | hasVm _ => exact Iff.rfl
  | createDisk _ _ _ =>
    constructor
    · rintro ⟨s, nonempty, rfl⟩
      exact ⟨⟨s, nonempty⟩, rfl⟩
    · rintro ⟨disk, rfl⟩
      exact ⟨disk.text, disk.nonempty, rfl⟩
  | deleteVm _ | attachDisk _ _ | detachDisk _ _ | deleteDisk _ | deleteStemcell _ =>
    exact iff_of_true trivial ⟨(), trivial⟩

end CloudCommand

/-! ## Outcomes -/

section Outcomes

open CloudResponse (Decodes)

variable {α : Type} {method : String} {text : List UInt8} {RightKind : Json → Prop}
  {Takes : Json → α → Prop} {r : Except CloudError α}

/-- How a call of a method comes out that takes results of a kind, for each text that the command
may have written. -/
inductive CloudOutcome (method : String) (text : List UInt8) (RightKind : Json → Prop)
    (Takes : Json → α → Prop) : Except CloudError α → Prop
  | unreadable {fault : Json.Fault} {reason : String}
      (refused : CloudResponse.read text = .error fault) :
      CloudOutcome method text RightKind Takes (.error (.invalidResponse method reason))
  | rejected {report : CloudReport} (decodes : Decodes text (.error report)) :
      CloudOutcome method text RightKind Takes
        (.error (.rejected method (.parse report.type) report.message report.okToRetry))
  | wrongKind {x : Json} {reason : String} (decodes : Decodes text (.ok x))
      (wrong : ¬ RightKind x) :
      CloudOutcome method text RightKind Takes (.error (.invalidResponse method reason))
  | answered {x : Json} {a : α} (decodes : Decodes text (.ok x)) (takes : Takes x a) :
      CloudOutcome method text RightKind Takes (.ok a)

/-- Which outcome a call has, told by the text that the command wrote. -/
structure CloudOutcome.Classified (method : String) (text : List UInt8) (RightKind : Json → Prop)
    (Takes : Json → α → Prop) (r : Except CloudError α) : Prop where
  /-- The response is invalid if the text is none, or tells a result of the wrong kind. -/
  invalid (method' : String) :
    (∃ reason, r = .error (.invalidResponse method' reason)) ↔
      method' = method ∧ ((∃ fault, CloudResponse.read text = .error fault) ∨
        ∃ x, Decodes text (.ok x) ∧ ¬ RightKind x)
  /-- The cloud refused if the text tells an error, of which nothing is changed. -/
  rejected (method' : String) (type : CloudErrorType) (message : String) (okToRetry : Bool) :
    r = .error (.rejected method' type message okToRetry) ↔
      method' = method ∧ type = .parse type.text ∧
        Decodes text (.error ⟨type.text, message, okToRetry⟩)
  /-- Else there is what is made of the result. -/
  answered (a : α) : r = .ok a ↔ ∃ x, Decodes text (.ok x) ∧ Takes x a
  /-- A command that could be run is not told as one that could not. -/
  executed (method' reason : String) : r ≠ .error (.exec method' reason)

/-- The text decides on the outcome, if something is made of the results of the right kind, and one
thing of each. -/
theorem CloudOutcome.classified (outcome : CloudOutcome method text RightKind Takes r)
    (right : ∀ {x}, RightKind x ↔ ∃ a, Takes x a)
    (one : ∀ {x a b}, Takes x a → Takes x b → a = b) :
    Classified method text RightKind Takes r where
  invalid method' := by
    cases outcome with
    | unreadable refused => simp [refused, eq_comm]
    | wrongKind decodes wrong =>
      have told : ∃ x, Decodes text (.ok x) ∧ ¬ RightKind x := ⟨_, decodes, wrong⟩
      simp [told, eq_comm]
    | rejected decodes =>
      refine iff_of_false nofun ?_
      rintro ⟨-, ⟨fault, refused⟩ | ⟨x, decodes', -⟩⟩
      · exact decodes.not_fault fault refused
      · cases decodes.unique decodes'
    | answered decodes takes =>
      refine iff_of_false nofun ?_
      rintro ⟨-, ⟨fault, refused⟩ | ⟨x, decodes', wrong⟩⟩
      · exact decodes.not_fault fault refused
      · cases decodes.unique decodes'
        exact wrong (right.mpr ⟨_, takes⟩)
  rejected method' type message okToRetry := by
    cases outcome with
    | rejected decodes =>
      constructor
      · rintro ⟨⟩
        rw [CloudErrorType.text_parse]
        exact ⟨rfl, rfl, decodes⟩
      · rintro ⟨rfl, parsed, decodes'⟩
        cases decodes.unique decodes'
        rw [← parsed]
    | unreadable refused =>
      refine iff_of_false nofun ?_
      rintro ⟨-, -, decodes⟩
      exact decodes.not_fault _ refused
    | wrongKind decodes _ | answered decodes _ =>
      refine iff_of_false nofun ?_
      rintro ⟨-, -, decodes'⟩
      cases decodes.unique decodes'
  answered a := by
    cases outcome with
    | answered decodes takes =>
      constructor
      · rintro ⟨⟩
        exact ⟨_, decodes, takes⟩
      · rintro ⟨x, decodes', takes'⟩
        cases decodes.unique decodes'
        rw [one takes takes']
    | unreadable refused =>
      refine iff_of_false nofun ?_
      rintro ⟨x, decodes, -⟩
      exact decodes.not_fault _ refused
    | rejected decodes =>
      refine iff_of_false nofun ?_
      rintro ⟨x, decodes', -⟩
      cases decodes.unique decodes'
    | wrongKind decodes wrong =>
      refine iff_of_false nofun ?_
      rintro ⟨x, decodes', takes⟩
      cases decodes.unique decodes'
      exact wrong (right.mpr ⟨a, takes⟩)
  executed method' reason := by
    cases outcome <;> nofun

end Outcomes

namespace CloudCommand

open CloudResponse (Decodes)

variable {request : CloudRequest} {text : List UInt8} {ended : CommandEnd}

/-- Every call comes out so, and takes any result. -/
theorem outcome_value (method : String) (text : List UInt8) (ended : CommandEnd) :
    CloudOutcome method text (fun _ => True) Eq (value method (.ok ⟨text, ended⟩)) := by
  cases decoded : CloudResponse.read text with
  | error fault =>
    simp only [value, decoded]
    exact .unreadable decoded
  | ok r =>
    simp only [value, decoded]
    obtain ⟨told, tells⟩ := CloudResponse.exists_tells decoded
    rw [CloudResponse.value]
    cases tells with
    | error found =>
      rw [found]
      exact .rejected ⟨r, decoded, .error found⟩
    | result faultless =>
      rw [faultless]
      exact .answered ⟨r, decoded, .result faultless⟩ rfl

/-- What a request comes back with is made of what its call comes out with. -/
theorem outcome_answer {called : Except CloudError Json}
    (outcome : CloudOutcome request.method text (fun _ => True) Eq called) :
    CloudOutcome request.method text request.RightKind request.Takes (answer request called) := by
  cases outcome with
  | unreadable refused => exact answer_error request _ ▸ .unreadable refused
  | rejected decodes => exact answer_error request _ ▸ .rejected decodes
  | wrongKind _ wrong => exact absurd trivial wrong
  | @answered x _ decodes same =>
    cases same
    rcases Classical.em (request.RightKind x) with right | wrong
    · obtain ⟨value, takes⟩ := rightKind_iff.mp right
      rw [answer_ok_iff.mpr takes]
      exact .answered decodes takes
    · obtain ⟨reason, refused⟩ := answer_wrongKind wrong
      rw [refused]
      exact .wrongKind decodes wrong

/-- Calls are told by what the command wrote. -/
theorem classified_value (method : String) (text : List UInt8) (ended : CommandEnd) :
    CloudOutcome.Classified method text (fun _ => True) Eq (value method (.ok ⟨text, ended⟩)) :=
  (outcome_value method text ended).classified (iff_of_true trivial ⟨_, rfl⟩)
    fun same same' => same.symm.trans same'

/-- Requests are told by what the command wrote. -/
theorem classified_outcome (request : CloudRequest) (text : List UInt8) (ended : CommandEnd) :
    CloudOutcome.Classified request.method text request.RightKind request.Takes
      (outcome request (.ok ⟨text, ended⟩)) := by
  refine (outcome_answer (outcome_value _ text ended)).classified rightKind_iff ?_
  intro x a b takes takes'
  cases (answer_ok_iff.mpr takes).symm.trans (answer_ok_iff.mpr takes')
  rfl

end CloudCommand

/-! ## Ends of steps -/

/-- A deletion is skipped for the type of error that is looked for, inside any contexts, and for
nothing else; whatever fails it stays as it is. -/
structure SkipsExactly (sought : String) (contexts : List String) : Prop where
  rejected (method type message : String) (okToRetry : Bool) :
    skipIfNotFound (.parse sought)
        (.error ((Failure.cloud (.rejected method (.parse type) message okToRetry)).wrap contexts))
      = if type = sought then
          .skipped (CloudError.rejected method (.parse type) message okToRetry).message
        else
          .failed ((Failure.cloud (.rejected method (.parse type) message okToRetry)).wrap contexts)
  exec (method reason : String) :
    skipIfNotFound (.parse sought) (.error ((Failure.cloud (.exec method reason)).wrap contexts))
      = .failed ((Failure.cloud (.exec method reason)).wrap contexts)
  invalidResponse (method reason : String) :
    skipIfNotFound (.parse sought)
        (.error ((Failure.cloud (.invalidResponse method reason)).wrap contexts))
      = .failed ((Failure.cloud (.invalidResponse method reason)).wrap contexts)
  /-- An error that was turned into text is not looked into. -/
  plain (text : String) :
    skipIfNotFound (.parse sought) (.error ((Failure.plain text).wrap contexts))
      = .failed ((Failure.plain text).wrap contexts)

/-- Types of errors that were read are the same if their texts are. -/
theorem CloudErrorType.parse_eq_iff {s t : String} : parse s = parse t ↔ s = t :=
  ⟨parse_injective, congrArg parse⟩

/-- The types that deletions look for are those of their texts. -/
example : CloudErrorType.parse "Bosh::Clouds::VMNotFound" = .vmNotFound ∧
    CloudErrorType.parse "Bosh::Clouds::DiskNotFound" = .diskNotFound ∧
    CloudErrorType.parse "Bosh::Clouds::StemcellNotFound" = .stemcellNotFound := by
  decide

/-- An error of the cloud skips or fails by its type, inside any contexts. -/
theorem skipIfNotFound_wrap (type : CloudErrorType) (e : CloudError) (contexts : List String) :
    skipIfNotFound type (.error ((Failure.cloud e).wrap contexts)) =
      if e.is type then .skipped e.message else .failed ((Failure.cloud e).wrap contexts) := by
  simp [skipIfNotFound, Failure.cloudError?]

theorem skipsExactly (sought : String) (contexts : List String) :
    SkipsExactly sought contexts where
  rejected method type message okToRetry := by
    rw [skipIfNotFound_wrap]
    simp [CloudError.is, CloudError.type?, CloudErrorType.parse_eq_iff]
  exec method reason := skipIfNotFound_wrap _ _ _
  invalidResponse method reason := skipIfNotFound_wrap _ _ _
  plain text := by simp [skipIfNotFound, Failure.cloudError?]

/-- An error of a type is one that the cloud answered with. -/
theorem CloudError.is_iff {e : CloudError} {type : CloudErrorType} :
    e.is type = true ↔
      ∃ method message okToRetry, e = .rejected method type message okToRetry := by
  cases e <;> simp [CloudError.is, CloudError.type?, eq_comm]

namespace CloudCommand

open CloudResponse (Decodes)

variable {request : CloudRequest} {text : List UInt8} {ended : CommandEnd} {sought : String}
  {contexts : List String}

/-- The end of the step of a deletion, whose error was wrapped in contexts on its way. -/
def stepEnd (request : CloudRequest) (sought : String) (contexts : List String)
    (answer : request.Answer) : StepEnd Unit :=
  skipIfNotFound (.parse sought)
    ((answer.map fun _ => ()).mapError fun e => (Failure.cloud e).wrap contexts)

/-- An error skips a step or fails it, by its type. -/
theorem stepEnd_error (e : CloudError) :
    stepEnd request sought contexts (.error e) =
      if e.is (.parse sought) then .skipped e.message
      else .failed ((Failure.cloud e).wrap contexts) :=
  skipIfNotFound_wrap _ e contexts

/-- A step is skipped for errors of the type that is looked for. -/
theorem stepEnd_eq_skipped_iff {answer : request.Answer} {reason : String} :
    stepEnd request sought contexts answer = .skipped reason ↔
      ∃ e, answer = .error e ∧ e.is (.parse sought) = true ∧ reason = e.message := by
  cases answer with
  | ok value => exact iff_of_false nofun nofun
  | error e =>
    rw [stepEnd_error]
    constructor
    · intro ends
      split at ends
      · rename_i found
        cases ends
        exact ⟨e, rfl, found, rfl⟩
      · cases ends
    · rintro ⟨_, ⟨⟩, found, rfl⟩
      exact if_pos found

/-- A step fails with any other error. -/
theorem stepEnd_eq_failed_iff {answer : request.Answer} {f : Failure} :
    stepEnd request sought contexts answer = .failed f ↔
      ∃ e, answer = .error e ∧ e.is (.parse sought) = false ∧
        f = (Failure.cloud e).wrap contexts := by
  cases answer with
  | ok value => exact iff_of_false nofun nofun
  | error e =>
    rw [stepEnd_error]
    constructor
    · intro ends
      split at ends
      · cases ends
      · rename_i other
        cases ends
        exact ⟨e, rfl, Bool.eq_false_iff.mpr other, rfl⟩
    · rintro ⟨_, ⟨⟩, other, rfl⟩
      exact if_neg (Bool.eq_false_iff.mp other)

/-- How a step ends, told by the text that the command wrote. -/
structure StepEnds (request : CloudRequest) (text : List UInt8) (ended : CommandEnd)
    (sought : String) (contexts : List String) : Prop where
  /-- An answer finishes it. -/
  finished :
    stepEnd request sought contexts (outcome request (.ok ⟨text, ended⟩)) = .finished () ↔
      ∃ value, outcome request (.ok ⟨text, ended⟩) = .ok value
  /-- It is skipped if the text tells an error of the type that is looked for, whose own words are
  the reason. -/
  skipped (reason : String) :
    stepEnd request sought contexts (outcome request (.ok ⟨text, ended⟩)) = .skipped reason ↔
      ∃ message okToRetry, Decodes text (.error ⟨sought, message, okToRetry⟩) ∧
        reason = (CloudError.rejected request.method (.parse sought) message okToRetry).message
  /-- Any other error fails it, in the contexts in which it came. -/
  failed (f : Failure) :
    stepEnd request sought contexts (outcome request (.ok ⟨text, ended⟩)) = .failed f ↔
      (∀ message okToRetry, ¬ Decodes text (.error ⟨sought, message, okToRetry⟩)) ∧
        ∃ e, outcome request (.ok ⟨text, ended⟩) = .error e ∧ f = (Failure.cloud e).wrap contexts

/-- A call is refused with an error of a type exactly if the text tells that error. -/
theorem outcome_eq_rejected_iff {method message : String} {okToRetry : Bool} :
    outcome request (.ok ⟨text, ended⟩)
        = .error (.rejected method (.parse sought) message okToRetry) ↔
      method = request.method ∧ Decodes text (.error ⟨sought, message, okToRetry⟩) := by
  have told := (classified_outcome request text ended).rejected method (.parse sought) message
    okToRetry
  simpa using told

/-- The error of a call is of a type exactly if the text tells one of that type. -/
theorem is_parse_iff {e : CloudError} (came : outcome request (.ok ⟨text, ended⟩) = .error e) :
    e.is (.parse sought) = true ↔
      ∃ message okToRetry, Decodes text (.error ⟨sought, message, okToRetry⟩) := by
  rw [CloudError.is_iff]
  constructor
  · rintro ⟨method, message, okToRetry, rfl⟩
    exact ⟨message, okToRetry, (outcome_eq_rejected_iff.mp came).2⟩
  · rintro ⟨message, okToRetry, decodes⟩
    cases came.symm.trans (outcome_eq_rejected_iff.mpr ⟨rfl, decodes⟩)
    exact ⟨_, message, okToRetry, rfl⟩

theorem stepEnds (request : CloudRequest) (text : List UInt8) (ended : CommandEnd)
    (sought : String) (contexts : List String) :
    StepEnds request text ended sought contexts where
  finished := by
    cases outcome request (.ok ⟨text, ended⟩) with
    | ok value => exact iff_of_true rfl ⟨value, rfl⟩
    | error e =>
      rw [stepEnd_error]
      refine iff_of_false ?_ nofun
      split <;> nofun
  skipped reason := by
    rw [stepEnd_eq_skipped_iff]
    constructor
    · rintro ⟨e, came, found, rfl⟩
      obtain ⟨method, message, okToRetry, rfl⟩ := CloudError.is_iff.mp found
      obtain ⟨rfl, decodes⟩ := outcome_eq_rejected_iff.mp came
      exact ⟨message, okToRetry, decodes, rfl⟩
    · rintro ⟨message, okToRetry, decodes, rfl⟩
      exact ⟨_, outcome_eq_rejected_iff.mpr ⟨rfl, decodes⟩, CloudError.is_iff.mpr ⟨_, _, _, rfl⟩,
        rfl⟩
  failed f := by
    rw [stepEnd_eq_failed_iff]
    constructor
    · rintro ⟨e, came, other, rfl⟩
      refine ⟨fun message okToRetry decodes => ?_, e, came, rfl⟩
      have found := (is_parse_iff came).mpr ⟨message, okToRetry, decodes⟩
      rw [other] at found
      cases found
    · rintro ⟨other, e, came, rfl⟩
      refine ⟨e, came, Bool.eq_false_iff.mpr fun found => ?_, rfl⟩
      obtain ⟨message, okToRetry, decodes⟩ := (is_parse_iff came).mp found
      exact other message okToRetry decodes

/-- From the text that a command writes, however it ended, to the outcome of its call and from there
to the end of its step. -/
structure Course (request : CloudRequest) (text : List UInt8) (ended : CommandEnd)
    (sought : String) (contexts : List String) : Prop where
  /-- A call of any method takes every result. -/
  called (method : String) :
    CloudOutcome.Classified method text (fun _ => True) Eq (value method (.ok ⟨text, ended⟩))
  /-- A request takes the results that are of its kind. -/
  requested : CloudOutcome.Classified request.method text request.RightKind request.Takes
    (outcome request (.ok ⟨text, ended⟩))
  /-- A deletion that is wrapped in contexts is skipped for the type of error that is looked for. -/
  stepEnds : StepEnds request text ended sought contexts
  /-- No other error makes it skip. -/
  skipsExactly : SkipsExactly sought contexts

end CloudCommand

end VmDeploy
