import VmDeploy.Agent.Client
import VmDeploy.Proofs.Agent.Replies
import VmDeploy.Proofs.Json.Records
import VmDeploy.Proofs.Program.Runs

/-!
# Tasks of agents

How a request goes that starts a task, message by message, whatever the agent replies
(`AgentClient.Carries`). The request is sent once and first. If its reply names a running task, the
client asks for that task, at once and again after each delay, until a reply no longer says that it
is running; that reply is the last thing that happens, and it decides how the request ends. What a
reply tells hangs on its status and its body (`AgentReply.Tells`), which is a part of the protocol:
an exception ends the waiting just as a bad status, a broken body and a closed connection do.

The client asks with a patience, which bounds the number of times and changes nothing else. A
request ends with enough of it for every script of replies but those in which the task is running
for ever (`AgentClient.TaskProtocol`).
-/

set_option autoImplicit false

namespace VmDeploy

/-- What a client of an agent asks the world: to exchange a message, or to let time pass. -/
inductive ExchangeQuestion where
  | send (message : AgentMessage)
  | sleep (span : Duration)

/-- What answers each question; nothing comes back for a message if the connection is closed. -/
def ExchangeQuestion.Answer : ExchangeQuestion → Type
  | .send _ => Option AgentReply
  | .sleep _ => Unit

/-- The world of a client. -/
def exchanges : Interface := ⟨ExchangeQuestion, ExchangeQuestion.Answer⟩

instance : MonadExchange (Program exchanges) where
  sleep span := Program.question (I := exchanges) (.sleep span)
  exchange message := Program.question (I := exchanges) (.send message)

open AgentReply (Tells tells_iff valueOf)

/-! ## What values say of tasks -/

/-- A value names a task and its state, as an object or as a list. -/
inductive NamesTask (id state : String) : Json → Prop
  | object {fields : Keyed Json} (named : Keyed.find? "agent_task_id" fields = some (.string id))
      (told : Keyed.find? "state" fields = some (.string state)) :
      NamesTask id state (.object fields)
  | list : NamesTask id state (.array [.string id, .string state])

/-- A reply says that a task is running: it is a success, an object with that state. -/
def SaysRunning (reply : Option AgentReply) : Prop :=
  ∃ fields, Tells reply (.ok (.object fields)) ∧
    Keyed.find? "state" fields = some (.string "running")

/-- A task is read from the values that name it. -/
theorem TaskHandle.decoder_eq_ok_iff {v : Json} {task : TaskHandle} :
    TaskHandle.decoder v = .ok task ↔ NamesTask task.id task.state v := by
  obtain ⟨id, state⟩ := task
  simp only [TaskHandle.decoder, Json.Decoder.record_eq_ok_iff, Json.Fields.reads_seq_iff,
    Json.Fields.reads_map_iff, Json.Fields.reads_required_iff, Json.Fields.takes_seq_iff,
    Json.Fields.takes_map_iff, Json.Fields.takes_required_iff, Json.Decoder.string_eq_ok_iff]
  constructor
  · rintro (⟨fields, rfl, _, _, ⟨_, ⟨_, named, rfl⟩, rfl⟩, ⟨_, told, rfl⟩, made⟩ |
      ⟨_, rfl, _, _, _, ⟨_, ⟨_, rfl, rfl⟩, rfl⟩, ⟨_, rfl, rfl⟩, made⟩)
    · cases made
      exact .object named told
    · cases made
      exact .list
  · rintro (@⟨fields, named, told⟩ | _)
    · exact .inl ⟨fields, rfl, _, _, ⟨id, ⟨_, named, rfl⟩, rfl⟩, ⟨_, told, rfl⟩, rfl⟩
    · exact .inr ⟨_, rfl, _, _, _, ⟨id, ⟨_, rfl, rfl⟩, rfl⟩, ⟨_, rfl, rfl⟩, rfl⟩

/-- Values that name no task are refused. -/
theorem TaskHandle.decoder_eq_error {v : Json} {fault : Json.ShapeFault}
    (refused : TaskHandle.decoder v = .error fault) (id state : String) :
    ¬ NamesTask id state v := by
  intro named
  have read : TaskHandle.decoder v = .ok ⟨id, state⟩ := decoder_eq_ok_iff.mpr named
  rw [refused] at read
  cases read

/-- A value names at most one task. -/
theorem NamesTask.unique {id id' state state' : String} {v : Json} (one : NamesTask id state v)
    (other : NamesTask id' state' v) : id = id' ∧ state = state' := by
  have first : TaskHandle.decoder v = .ok ⟨id, state⟩ :=
    TaskHandle.decoder_eq_ok_iff.mpr one
  have second : TaskHandle.decoder v = .ok ⟨id', state'⟩ :=
    TaskHandle.decoder_eq_ok_iff.mpr other
  cases first.symm.trans second
  exact ⟨rfl, rfl⟩

theorem saysRunning_iff {v : Json} :
    saysRunning v = true ↔
      ∃ fields, v = .object fields ∧ Keyed.find? "state" fields = some (.string "running") := by
  unfold saysRunning
  split
  · split
    · rename_i fields _ state found
      constructor
      · intro same
        cases of_decide_eq_true same
        exact ⟨fields, rfl, found⟩
      · rintro ⟨_, same, told⟩
        cases same
        cases found.symm.trans told
        rfl
    · rename_i fields _ other
      refine iff_of_false nofun ?_
      rintro ⟨_, same, found⟩
      cases same
      exact other _ found
  · rename_i other
    refine iff_of_false nofun ?_
    rintro ⟨fields, rfl, -⟩
    exact other fields rfl

/-! ## The five requests -/

/-- The requests that start a task. -/
inductive AgentTask where
  | stop
  | apply (spec : ApplySpec)
  | mountDisk (disk : DiskCid)
  | unmountDisk (disk : DiskCid)
  | migrateDisk

/-- The request that starts a task. -/
def AgentTask.request : AgentTask → AgentRequest
  | .stop => .stop
  | .apply spec => .apply spec
  | .mountDisk disk => .mountDisk disk
  | .unmountDisk disk => .unmountDisk disk
  | .migrateDisk => .migrateDisk

namespace AgentClient

variable {σ : Type} {env : Environment exchanges σ} {client : AgentClient} {task : AgentTask}
  {id method : String} {s s₁ s' : σ} {ms : List (Moment exchanges σ)} {patience asked : Nat}

/-- Performs a request that starts a task. -/
def carryOut (client : AgentClient) (patience : Nat) :
    AgentTask → Program exchanges (Option (Except AgentError Unit))
  | .stop => client.perform patience .stop
  | .apply spec => client.perform patience (.apply spec)
  | .mountDisk disk => client.perform patience (.mountDisk disk)
  | .unmountDisk disk => client.perform patience (.unmountDisk disk)
  | .migrateDisk => client.perform patience .migrateDisk

/-- The five requests differ in their messages alone. -/
theorem carryOut_eq :
    client.carryOut patience task
      = client.performTask patience task.request.method task.request.arguments := by
  cases task <;> rfl

/-- The message that starts a task. -/
def startMessage (client : AgentClient) (task : AgentTask) : AgentMessage :=
  client.message task.request.method task.request.arguments

/-- The message that asks for a task. -/
def taskMessage (client : AgentClient) (id : String) : AgentMessage :=
  client.message "get_task" [.string id]

/-- A number of times that a task is asked for, is running, and is left alone for the delay. -/
inductive Rounds (client : AgentClient) (env : Environment exchanges σ) (id : String) :
    (asked : Nat) → σ → List (Moment exchanges σ) → σ → Prop
  | none {s : σ} : Rounds client env id 0 s [] s
  | again {asked : Nat} {reply : Option AgentReply} {s s₁ s₂ s' : σ}
      {ms : List (Moment exchanges σ)} (sent : env s (.send (client.taskMessage id)) reply s₁)
      (running : SaysRunning reply) (slept : env s₁ (.sleep client.taskPollDelay) () s₂)
      (rest : Rounds client env id asked s₂ ms s') :
      Rounds client env id (asked + 1) s
        (⟨s, .send (client.taskMessage id), reply⟩ :: ⟨s₁, .sleep client.taskPollDelay, ()⟩ :: ms)
        s'

/-- The polling of a task: the task is asked for until a reply does not say that it is running. -/
inductive Polls (client : AgentClient) (env : Environment exchanges σ) (id : String) :
    (asked : Nat) → σ → List (Moment exchanges σ) → (last : Option AgentReply) → σ → Prop
  | intro {asked : Nat} {last : Option AgentReply} {s s₁ s' : σ} {ms : List (Moment exchanges σ)}
      (rounds : client.Rounds env id asked s ms s₁)
      (sent : env s₁ (.send (client.taskMessage id)) last s') (settled : ¬ SaysRunning last) :
      Polls client env id (asked + 1) s (ms ++ [⟨s₁, .send (client.taskMessage id), last⟩]) last s'

/-- How the last reply about a task is told: every success is one, and an error is told with the
method and the task. -/
inductive LastWord (method id : String) : Option AgentReply → Except AgentError Unit → Prop
  | success {reply : Option AgentReply} {v : Json} (tells : Tells reply (.ok v)) :
      LastWord method id reply (.ok ())
  | failure {reply : Option AgentReply} {e : AgentError} (tells : Tells reply (.error e)) :
      LastWord method id reply (.error (.taskPolling method id .notRetryable e))

/-- How a request goes that starts a task, how often the task is asked for, and how it ends. -/
inductive Carries (client : AgentClient) (env : Environment exchanges σ) (task : AgentTask) :
    (asked : Nat) → σ → List (Moment exchanges σ) → Except AgentError Unit → σ → Prop
  /-- The request fails, with its own error. -/
  | failed {reply : Option AgentReply} {e : AgentError} {s s' : σ}
      (sent : env s (.send (client.startMessage task)) reply s')
      (tells : Tells reply (.error e)) :
      Carries client env task 0 s [⟨s, .send (client.startMessage task), reply⟩] (.error e) s'
  /-- Its value names no task. -/
  | unexpected {reply : Option AgentReply} {v : Json} {fault : Json.ShapeFault} {s s' : σ}
      (sent : env s (.send (client.startMessage task)) reply s') (tells : Tells reply (.ok v))
      (unnamed : ∀ id state, ¬ NamesTask id state v)
      (refused : TaskHandle.decoder v = .error fault) :
      Carries client env task 0 s [⟨s, .send (client.startMessage task), reply⟩]
        (.error (.unexpectedResponse task.request.method fault.message)) s'
  /-- Its value names a task that is not running. -/
  | done {reply : Option AgentReply} {v : Json} {id state : String} {s s' : σ}
      (sent : env s (.send (client.startMessage task)) reply s') (tells : Tells reply (.ok v))
      (named : NamesTask id state v) (settled : state ≠ "running") :
      Carries client env task 0 s [⟨s, .send (client.startMessage task), reply⟩] (.ok ()) s'
  /-- Its value names a running task, which is asked for until a reply says otherwise. -/
  | polled {asked : Nat} {reply last : Option AgentReply} {v : Json} {id : String}
      {r : Except AgentError Unit} {s s₁ s' : σ} {ms : List (Moment exchanges σ)}
      (sent : env s (.send (client.startMessage task)) reply s₁) (tells : Tells reply (.ok v))
      (named : NamesTask id "running" v) (polls : client.Polls env id asked s₁ ms last s')
      (told : LastWord task.request.method id last r) :
      Carries client env task asked s (⟨s, .send (client.startMessage task), reply⟩ :: ms) r s'

/-- How a request goes on whose task is still running after a number of questions. -/
inductive Waits (client : AgentClient) (env : Environment exchanges σ) (task : AgentTask)
    (asked : Nat) : σ → List (Moment exchanges σ) → σ → Prop
  | intro {reply : Option AgentReply} {v : Json} {id : String} {s s₁ s' : σ}
      {ms : List (Moment exchanges σ)}
      (sent : env s (.send (client.startMessage task)) reply s₁) (tells : Tells reply (.ok v))
      (named : NamesTask id "running" v) (rounds : client.Rounds env id asked s₁ ms s') :
      Waits client env task asked s (⟨s, .send (client.startMessage task), reply⟩ :: ms) s'

/-! ## Runs of the client -/

/-- A request is one message. -/
theorem runs_request_iff {arguments : List Json} {r : Except AgentError Json} :
    Program.Runs env (client.request method arguments) s ms r s' ↔
      ∃ reply, r = valueOf reply ∧ ms = [⟨s, .send (client.message method arguments), reply⟩] ∧
        env s (.send (client.message method arguments)) reply s' := by
  have sends {reply : Option AgentReply} {s s' : σ} {ms : List (Moment exchanges σ)} :
      Program.Runs env (MonadExchange.exchange (client.message method arguments) :
          Program exchanges (Option AgentReply)) s ms reply s' ↔
        ms = [⟨s, .send (client.message method arguments), reply⟩] ∧
          env s (.send (client.message method arguments)) reply s' :=
    Program.runs_question_iff
  have whole : (client.request method arguments : Program exchanges _) =
      do return valueOf (← MonadExchange.exchange (client.message method arguments)) := by
    refine congrArg _ (funext fun reply => ?_)
    cases reply <;> rfl
  rw [whole, Program.runs_map_iff]
  exact exists_congr fun _ => and_congr_right fun _ => sends

/-- What a look at a task makes of what came back. -/
def attemptOf (id : String) : Except AgentError Json → Attempt AgentError
  | .error e => .refused e
  | .ok value => if VmDeploy.saysRunning value then .failed (.taskRunning id) else .succeeded

/-- One look at a task is one message. -/
theorem runs_pollTask_iff {attempt : Attempt AgentError} :
    Program.Runs env (client.pollTask id) s ms attempt s' ↔
      ∃ reply, attempt = attemptOf id (valueOf reply) ∧
        ms = [⟨s, .send (client.taskMessage id), reply⟩] ∧
        env s (.send (client.taskMessage id)) reply s' := by
  have whole : (client.pollTask id : Program exchanges _) =
      do return attemptOf id (← client.request "get_task" [.string id]) := by
    refine congrArg _ (funext fun r => ?_)
    cases r <;> rfl
  rw [whole, Program.runs_map_iff]
  constructor
  · rintro ⟨_, rfl, run⟩
    obtain ⟨reply, rfl, sent⟩ := runs_request_iff.mp run
    exact ⟨reply, rfl, sent⟩
  · rintro ⟨reply, rfl, sent⟩
    exact ⟨_, rfl, runs_request_iff.mpr ⟨reply, rfl, sent⟩⟩

theorem runs_sleep_iff {span : Duration} {u : Unit} :
    Program.Runs env (MonadSleep.sleep span : Program exchanges Unit) s ms u s' ↔
      ms = [⟨s, .sleep span, u⟩] ∧ env s (.sleep span) u s' :=
  Program.runs_question_iff

/-- What polling makes of the last reply. -/
def verdictOf : Except AgentError Json → Except (RetryError AgentError) Unit
  | .ok _ => .ok ()
  | .error e => .error ⟨.notRetryable, e⟩

/-- A look at a running task is worth another one. -/
theorem attemptOf_of_running {reply : Option AgentReply} (running : SaysRunning reply) :
    attemptOf id (valueOf reply) = .failed (.taskRunning id) := by
  obtain ⟨fields, tells, told⟩ := running
  simp [attemptOf, tells.valueOf_eq, saysRunning_iff.mpr ⟨fields, rfl, told⟩]

/-- Any other look is the last one. -/
theorem attemptOf_of_settled (id : String) {reply : Option AgentReply}
    (settled : ¬ SaysRunning reply) :
    attemptOf id (valueOf reply) = .succeeded ∧ verdictOf (valueOf reply) = .ok () ∨
      ∃ e, attemptOf id (valueOf reply) = .refused e ∧
        verdictOf (valueOf reply) = .error ⟨.notRetryable, e⟩ := by
  cases came : valueOf reply with
  | error e => exact .inr ⟨e, rfl, rfl⟩
  | ok v =>
    have silent : VmDeploy.saysRunning v = false := by
      refine Bool.eq_false_iff.mpr fun running => settled ?_
      obtain ⟨fields, rfl, told⟩ := saysRunning_iff.mp running
      exact ⟨fields, tells_iff.mpr came, told⟩
    exact .inl ⟨by simp [attemptOf, silent], rfl⟩

/-- The word about the last reply is the verdict, told with the method and the task. -/
theorem lastWord_iff {last : Option AgentReply} {r : Except AgentError Unit} :
    LastWord method id last r ↔
      ((verdictOf (valueOf last)).mapError fun e => .taskPolling method id e.stop e.source) = r := by
  constructor
  · rintro (tells | tells) <;> rw [tells.valueOf_eq] <;> rfl
  · rintro rfl
    cases came : valueOf last with
    | ok v => exact .success (tells_iff.mpr came)
    | error e => exact .failure (tells_iff.mpr came)

/-- The retries around the looks at a task, as far as `patience` allows. -/
abbrev polling (client : AgentClient) (id : String) (patience : Nat) :
    Program exchanges (Option (Except (RetryError AgentError) Unit)) :=
  Retry.unlimited client.taskPollDelay (client.pollTask id) patience

/-- One step of polling: a look, and then a delay and more polling if the task is running. -/
theorem runs_polling_succ_iff {outcome : Option (Except (RetryError AgentError) Unit)} :
    Program.Runs env (client.polling id (patience + 1)) s ms outcome s' ↔
      ∃ reply s₁, env s (.send (client.taskMessage id)) reply s₁ ∧
        (¬ SaysRunning reply ∧ outcome = some (verdictOf (valueOf reply)) ∧ s' = s₁ ∧
            ms = [⟨s, .send (client.taskMessage id), reply⟩] ∨
          SaysRunning reply ∧ ∃ s₂ rest, env s₁ (.sleep client.taskPollDelay) () s₂ ∧
            Program.Runs env (client.polling id patience) s₂ rest outcome s' ∧
            ms = ⟨s, .send (client.taskMessage id), reply⟩ ::
              ⟨s₁, .sleep client.taskPollDelay, ()⟩ :: rest) := by
  constructor
  · intro run
    rw [polling, Retry.unlimited] at run
    obtain ⟨_, s₁, _, ms₂, rfl, look, later⟩ := Program.runs_bind_iff.mp run
    obtain ⟨reply, rfl, rfl, sent⟩ := runs_pollTask_iff.mp look
    refine ⟨reply, s₁, sent, ?_⟩
    by_cases running : SaysRunning reply
    · rw [attemptOf_of_running running] at later
      obtain ⟨_, s₂, _, rest, rfl, sleeps, again⟩ := Program.runs_bind_iff.mp later
      obtain ⟨rfl, slept⟩ := runs_sleep_iff.mp sleeps
      exact .inr ⟨running, s₂, rest, slept, again, rfl⟩
    · refine .inl ⟨running, ?_⟩
      rcases attemptOf_of_settled id running with ⟨ended, told⟩ | ⟨e, ended, told⟩ <;>
      · rw [ended] at later
        obtain ⟨rfl, rfl, rfl⟩ := Program.runs_pure_iff.mp later
        exact ⟨by rw [told], rfl, rfl⟩
  · rintro ⟨reply, s₁, sent, ⟨settled, rfl, rfl, rfl⟩ | ⟨running, s₂, rest, slept, again, rfl⟩⟩ <;>
      rw [polling, Retry.unlimited] <;>
      have look := runs_pollTask_iff.mpr ⟨reply, rfl, rfl, sent⟩
    · refine Program.runs_bind_iff.mpr ⟨_, _, _, [], rfl, look, ?_⟩
      rcases attemptOf_of_settled id settled with ⟨ended, told⟩ | ⟨e, ended, told⟩ <;>
      · rw [ended, told]
        exact .done
    · refine Program.runs_bind_iff.mpr ⟨_, _, _, _, rfl, look, ?_⟩
      rw [attemptOf_of_running running]
      exact Program.runs_bind_iff.mpr ⟨(), s₂, _, rest, rfl, runs_sleep_iff.mpr ⟨rfl, slept⟩, again⟩

/-- A round before a polling is a round more of it. -/
theorem Polls.again {reply last : Option AgentReply} {s₂ : σ}
    (sent : env s (.send (client.taskMessage id)) reply s₁) (running : SaysRunning reply)
    (slept : env s₁ (.sleep client.taskPollDelay) () s₂)
    (polls : client.Polls env id asked s₂ ms last s') :
    client.Polls env id (asked + 1) s
      (⟨s, .send (client.taskMessage id), reply⟩ :: ⟨s₁, .sleep client.taskPollDelay, ()⟩ :: ms)
      last s' := by
  obtain ⟨rounds, sentLast, settled⟩ := polls
  exact ⟨.again sent running slept rounds, sentLast, settled⟩

/-- Polling without a result is a round for each time that patience allows. -/
theorem runs_polling_none_iff :
    Program.Runs env (client.polling id patience) s ms none s' ↔
      client.Rounds env id patience s ms s' := by
  constructor
  · intro run
    induction patience generalizing s ms with
    | zero =>
      obtain ⟨rfl, -, rfl⟩ := Program.runs_pure_iff.mp run
      exact .none
    | succ patience ih =>
      obtain ⟨reply, s₁, sent, ⟨_, impossible, _⟩ | ⟨running, s₂, rest, slept, again, rfl⟩⟩ :=
        runs_polling_succ_iff.mp run
      · cases impossible
      · exact .again sent running slept (ih again)
  · intro rounds
    induction rounds with
    | none => exact .done
    | again sent running slept _ ih =>
      exact runs_polling_succ_iff.mpr ⟨_, _, sent, .inr ⟨running, _, _, slept, ih, rfl⟩⟩

/-- Polling with a result is a polling with at most as many questions as patience allows. -/
theorem runs_polling_some_iff {r : Except (RetryError AgentError) Unit} :
    Program.Runs env (client.polling id patience) s ms (some r) s' ↔
      ∃ asked ≤ patience, ∃ last, client.Polls env id asked s ms last s' ∧
        r = verdictOf (valueOf last) := by
  constructor
  · intro run
    induction patience generalizing s ms with
    | zero =>
      obtain ⟨-, impossible, -⟩ := Program.runs_pure_iff.mp run
      cases impossible
    | succ patience ih =>
      obtain ⟨reply, s₁, sent, ⟨settled, told, rfl, rfl⟩ |
        ⟨running, s₂, rest, slept, again, rfl⟩⟩ := runs_polling_succ_iff.mp run
      · cases told
        exact ⟨1, Nat.le_add_left 1 patience, reply, ⟨.none, sent, settled⟩, rfl⟩
      · obtain ⟨asked, enough, last, polls, rfl⟩ := ih again
        exact ⟨asked + 1, Nat.succ_le_succ enough, last, polls.again sent running slept, rfl⟩
  · rintro ⟨_, enough, last, ⟨rounds, sent, settled⟩, rfl⟩
    -- By induction on the rounds before the last question, each of which takes one of patience.
    induction rounds generalizing patience with
    | none =>
      obtain ⟨patience, rfl⟩ := Nat.exists_eq_succ_of_ne_zero (Nat.ne_zero_of_lt enough)
      exact runs_polling_succ_iff.mpr ⟨last, _, sent, .inl ⟨settled, rfl, rfl, rfl⟩⟩
    | again asks running slept _ ih =>
      obtain ⟨patience, rfl⟩ := Nat.exists_eq_succ_of_ne_zero (Nat.ne_zero_of_lt enough)
      have rest := ih (Nat.le_of_succ_le_succ enough) sent
      exact runs_polling_succ_iff.mpr ⟨_, _, asks, .inr ⟨running, _, _, slept, rest, rfl⟩⟩

/-- What is done with what came back for the message that starts a task. -/
def afterStart (client : AgentClient) (patience : Nat) (method : String) :
    Except AgentError Json → Program exchanges (Option (Except AgentError Unit))
  | .error e => return some (.error e)
  | .ok value =>
    match TaskHandle.decoder value with
    | .error e => return some (.error (.unexpectedResponse method e.message))
    | .ok named =>
      if named.state ≠ "running" then return some (.ok ())
      else do
        return (← client.polling named.id patience).map fun result =>
          result.mapError fun e => .taskPolling method named.id e.stop e.source

/-- The request is sent once and first. -/
theorem runs_carryOut_iff {outcome : Option (Except AgentError Unit)} :
    Program.Runs env (client.carryOut patience task) s ms outcome s' ↔
      ∃ reply s₁ rest, env s (.send (client.startMessage task)) reply s₁ ∧
        ms = ⟨s, .send (client.startMessage task), reply⟩ :: rest ∧
        Program.Runs env (client.afterStart patience task.request.method (valueOf reply))
          s₁ rest outcome s' := by
  have whole : client.carryOut patience task =
      client.request task.request.method task.request.arguments >>=
        client.afterStart patience task.request.method := by
    rw [carryOut_eq, performTask]
    refine congrArg (_ >>= ·) (funext fun r => ?_)
    cases r <;> rfl
  rw [whole, Program.runs_bind_iff]
  constructor
  · rintro ⟨_, s₁, _, rest, rfl, asks, later⟩
    obtain ⟨reply, rfl, rfl, sent⟩ := runs_request_iff.mp asks
    exact ⟨reply, s₁, rest, sent, rfl, later⟩
  · rintro ⟨reply, s₁, rest, sent, rfl, later⟩
    exact ⟨_, s₁, _, rest, rfl, runs_request_iff.mpr ⟨reply, rfl, rfl, sent⟩, later⟩

/-- A task that is not running is done. -/
theorem afterStart_of_settled {v : Json} {state : String} (named : NamesTask id state v)
    (settled : state ≠ "running") :
    client.afterStart patience method (.ok v) = pure (some (.ok ())) := by
  have read : TaskHandle.decoder v = .ok ⟨id, state⟩ := TaskHandle.decoder_eq_ok_iff.mpr named
  simp [afterStart, read, settled]

/-- A task that is running is polled. -/
theorem afterStart_of_running {v : Json} (named : NamesTask id "running" v) :
    client.afterStart patience method (.ok v) =
      do return (← client.polling id patience).map fun result =>
        result.mapError fun e => .taskPolling method id e.stop e.source := by
  have read : TaskHandle.decoder v = .ok ⟨id, "running"⟩ := TaskHandle.decoder_eq_ok_iff.mpr named
  simp [afterStart, read]

/-- What comes back for the request is an error, names no task, names one that is not running, or
names one that is; only the last is polled. -/
theorem afterStart_cases (client : AgentClient) (patience : Nat) (method : String)
    (reply : Option AgentReply) :
    (∃ e, Tells reply (.error e) ∧
        client.afterStart patience method (valueOf reply) = pure (some (.error e))) ∨
      (∃ v fault, Tells reply (.ok v) ∧ (∀ id state, ¬ NamesTask id state v) ∧
        TaskHandle.decoder v = .error fault ∧ client.afterStart patience method (valueOf reply) =
          pure (some (.error (.unexpectedResponse method fault.message)))) ∨
      (∃ v id state, Tells reply (.ok v) ∧ NamesTask id state v ∧ state ≠ "running" ∧
        client.afterStart patience method (valueOf reply) = pure (some (.ok ()))) ∨
      ∃ v id, Tells reply (.ok v) ∧ NamesTask id "running" v ∧
        client.afterStart patience method (valueOf reply) =
          do return (← client.polling id patience).map fun result =>
            result.mapError fun e => .taskPolling method id e.stop e.source := by
  simp only [tells_iff]
  cases valueOf reply with
  | error e => exact .inl ⟨e, rfl, rfl⟩
  | ok v =>
    refine .inr ?_
    cases read : TaskHandle.decoder v with
    | error fault =>
      exact .inl ⟨v, fault, rfl, TaskHandle.decoder_eq_error read, read, by simp [afterStart, read]⟩
    | ok named =>
      obtain ⟨id, state⟩ := named
      have names := TaskHandle.decoder_eq_ok_iff.mp read
      by_cases running : state = "running"
      · subst running
        exact .inr (.inr ⟨v, id, rfl, names, afterStart_of_running names⟩)
      · exact .inr (.inl ⟨v, id, state, rfl, names, running, afterStart_of_settled names running⟩)

/-- The requests that end are told by `Carries`, those that ask at most as often as patience
allows. -/
theorem runs_carryOut_some_iff {r : Except AgentError Unit} :
    Program.Runs env (client.carryOut patience task) s ms (some r) s' ↔
      ∃ asked ≤ patience, client.Carries env task asked s ms r s' := by
  rw [runs_carryOut_iff]
  constructor
  · rintro ⟨reply, s₁, rest, sent, rfl, later⟩
    rcases client.afterStart_cases patience task.request.method reply with
      ⟨e, tells, next⟩ | ⟨v, fault, tells, unnamed, refused, next⟩ |
      ⟨v, id, state, tells, named, settled, next⟩ | ⟨v, id, tells, named, next⟩ <;>
      rw [next] at later
    · obtain ⟨rfl, told, rfl⟩ := Program.runs_pure_iff.mp later
      cases told
      exact ⟨0, Nat.zero_le _, .failed sent tells⟩
    · obtain ⟨rfl, told, rfl⟩ := Program.runs_pure_iff.mp later
      cases told
      exact ⟨0, Nat.zero_le _, .unexpected sent tells unnamed refused⟩
    · obtain ⟨rfl, told, rfl⟩ := Program.runs_pure_iff.mp later
      cases told
      exact ⟨0, Nat.zero_le _, .done sent tells named settled⟩
    · obtain ⟨_ | verdict, told, polled⟩ := Program.runs_map_iff.mp later
      · cases told
      · obtain ⟨asked, enough, last, polls, rfl⟩ := runs_polling_some_iff.mp polled
        cases told
        exact ⟨asked, enough, .polled sent tells named polls (lastWord_iff.mpr rfl)⟩
  · rintro ⟨asked, enough, ⟨sent, tells⟩ | ⟨sent, tells, -, refused⟩ |
      ⟨sent, tells, named, settled⟩ |
      @⟨_, reply, last, v, id, r, _, _, _, rest, sent, tells, named, polls, told⟩⟩
    · exact ⟨_, _, [], sent, rfl, by rw [tells.valueOf_eq]; exact .done⟩
    · refine ⟨_, _, [], sent, rfl, ?_⟩
      rw [tells.valueOf_eq, afterStart, refused]
      exact .done
    · refine ⟨_, _, [], sent, rfl, ?_⟩
      rw [tells.valueOf_eq, afterStart_of_settled named settled]
      exact .done
    · refine ⟨_, _, rest, sent, rfl, ?_⟩
      rw [tells.valueOf_eq, afterStart_of_running named]
      refine Program.runs_map_iff.mpr ⟨some (verdictOf (valueOf last)), ?_, ?_⟩
      · exact congrArg some (lastWord_iff.mp told).symm
      · exact runs_polling_some_iff.mpr ⟨asked, enough, last, polls, rfl⟩

/-- The requests that are given up are told by `Waits`. -/
theorem runs_carryOut_none_iff :
    Program.Runs env (client.carryOut patience task) s ms none s' ↔
      client.Waits env task patience s ms s' := by
  rw [runs_carryOut_iff]
  constructor
  · rintro ⟨reply, s₁, rest, sent, rfl, later⟩
    rcases client.afterStart_cases patience task.request.method reply with
      ⟨e, tells, next⟩ | ⟨v, fault, tells, unnamed, refused, next⟩ |
      ⟨v, id, state, tells, named, settled, next⟩ | ⟨v, id, tells, named, next⟩ <;>
      rw [next] at later
    iterate 3
      obtain ⟨-, impossible, -⟩ := Program.runs_pure_iff.mp later
      cases impossible
    obtain ⟨_ | verdict, told, polled⟩ := Program.runs_map_iff.mp later
    · exact ⟨sent, tells, named, runs_polling_none_iff.mp polled⟩
    · cases told
  · rintro @⟨reply, v, id, _, _, _, rest, sent, tells, named, rounds⟩
    refine ⟨_, _, rest, sent, rfl, ?_⟩
    rw [tells.valueOf_eq, afterStart_of_running named]
    exact Program.runs_map_iff.mpr ⟨none, rfl, runs_polling_none_iff.mpr rounds⟩

/-! ## Scripts of replies -/

/-- An agent that answers the messages with the replies of a script, one after the other. -/
def scripted (replies : Nat → Option AgentReply) : Program.Handler exchanges Nat
  | .send _, n => (replies n, n + 1)
  | .sleep _, n => ((), n)

/-- The replies start a task that is running for ever. -/
def RunsForever (replies : Nat → Option AgentReply) : Prop :=
  ∃ v id, Tells (replies 0) (.ok v) ∧ NamesTask id "running" v ∧
    ∀ n, SaysRunning (replies (n + 1))

variable {replies : Nat → Option AgentReply}

/-- Each round uses one reply up, which says that the task is running. -/
theorem Rounds.of_scripted {n n' : Nat} {ms : List (Moment exchanges Nat)}
    (rounds : client.Rounds (Program.ofHandler (scripted replies)) id asked n ms n') :
    n' = n + asked ∧ ∀ i < asked, SaysRunning (replies (n + i)) := by
  induction rounds with
  | none => exact ⟨rfl, nofun⟩
  | @again asked _ n _ _ _ _ sent running slept _ ih =>
    cases sent
    cases slept
    obtain ⟨rfl, later⟩ := ih
    refine ⟨by omega, fun i below => ?_⟩
    cases i with
    | zero => exact running
    | succ i => exact Nat.add_right_comm n 1 i ▸ later i (Nat.lt_of_succ_lt_succ below)

/-- A request does not end whose task is running for ever. -/
theorem Carries.not_runsForever {n : Nat} {r : Except AgentError Unit}
    {ms : List (Moment exchanges Nat)}
    (carries : client.Carries (Program.ofHandler (scripted replies)) task asked 0 ms r n) :
    ¬ RunsForever replies := by
  rintro ⟨v, id, tells, named, running⟩
  cases carries with
  | failed sent tells' =>
    cases sent
    cases tells.unique tells'
  | unexpected sent tells' unnamed =>
    cases sent
    cases tells.unique tells'
    exact unnamed _ _ named
  | done sent tells' named' settled =>
    cases sent
    cases tells.unique tells'
    exact settled (named'.unique named).2
  | polled sent _ _ polls =>
    cases sent
    obtain ⟨rounds, sentLast, settled⟩ := polls
    obtain ⟨rfl, -⟩ := rounds.of_scripted
    cases sentLast
    exact settled (Nat.add_comm _ 1 ▸ running _)

/-- A request ends, with enough patience, exactly if its task is not running for ever. -/
theorem ends_iff :
    (∃ patience r, ((client.carryOut patience task).run (scripted replies) 0).1 = some r) ↔
      ¬ RunsForever replies := by
  constructor
  · rintro ⟨patience, r, ended⟩
    have run := Program.runs_ofHandler (scripted replies) (client.carryOut patience task) 0
    rw [ended] at run
    obtain ⟨asked, -, carries⟩ := runs_carryOut_some_iff.mp run
    exact carries.not_runsForever
  · intro ending
    by_contra endless
    -- With any patience the request waits, and with enough of it past any given reply.
    have waits (patience : Nat) : ∃ ms n, client.Waits (Program.ofHandler (scripted replies)) task
        patience 0 ms n := by
      have run := Program.runs_ofHandler (scripted replies) (client.carryOut patience task) 0
      cases outcome : ((client.carryOut patience task).run (scripted replies) 0).1 with
      | some r => exact absurd ⟨patience, r, outcome⟩ endless
      | none =>
        rw [outcome] at run
        exact ⟨_, _, runs_carryOut_none_iff.mp run⟩
    refine ending ?_
    obtain ⟨_, _, @⟨_, v, id, _, _, _, _, sent, tells, named, _⟩⟩ := waits 0
    cases sent
    refine ⟨v, id, tells, named, fun n => ?_⟩
    obtain ⟨_, _, @⟨_, _, _, _, _, _, _, sent, _, _, rounds⟩⟩ := waits (n + 1)
    cases sent
    exact Nat.add_comm 1 n ▸ rounds.of_scripted.2 n (Nat.lt_succ_self n)

/-- How the requests go that start tasks. -/
structure TaskProtocol (client : AgentClient) (task : AgentTask) : Prop where
  /-- Whatever comes back for a message says one thing, by its status and its body. -/
  replies (came : Option AgentReply) : ∃! r, Tells came r
  /-- A request of any method is one message, and it ends with what comes back says. -/
  requests {σ : Type} (env : Environment exchanges σ) (method : String) (arguments : List Json)
    (s : σ) (ms : List (Moment exchanges σ)) (r : Except AgentError Json) (s' : σ) :
    Program.Runs env (client.request method arguments) s ms r s' ↔
      ∃ reply, Tells reply r ∧ ms = [⟨s, .send (client.message method arguments), reply⟩] ∧
        env s (.send (client.message method arguments)) reply s'
  /-- In every world, the runs that end are those that `Carries` tells, if patience allows as many
  questions. -/
  ended {σ : Type} (env : Environment exchanges σ) (patience : Nat) (s : σ)
    (ms : List (Moment exchanges σ)) (r : Except AgentError Unit) (s' : σ) :
    Program.Runs env (client.carryOut patience task) s ms (some r) s' ↔
      ∃ asked ≤ patience, client.Carries env task asked s ms r s'
  /-- Those without an end have used patience up on a task that is running. -/
  unended {σ : Type} (env : Environment exchanges σ) (patience : Nat) (s : σ)
    (ms : List (Moment exchanges σ)) (s' : σ) :
    Program.Runs env (client.carryOut patience task) s ms none s' ↔
      client.Waits env task patience s ms s'
  /-- For every script of replies there is an end unless the task is running for ever. -/
  ends (replies : Nat → Option AgentReply) :
    (∃ patience r, ((client.carryOut patience task).run (scripted replies) 0).1 = some r) ↔
      ¬ RunsForever replies

end AgentClient

end VmDeploy
