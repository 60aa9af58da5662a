import VmDeploy.Time.Duration

/-!
# Retrying

An operation is tried until it succeeds, or fails in a way that is not worth
trying again, or the patience of a strategy ends: after a number of attempts,
or when the next attempt would start behind a deadline, or never. Between two
attempts the same delay is slept, and none behind the last.

The strategies are programs over any monad that can sleep and, for the
deadline, read a clock. The attempts of a deadline are counted in thirty-two
bits, and the count wraps around, as it does in a build without checks for
overflow. What ends the recursion is the time: from one attempt to the next the
clock goes on by a nanosecond at least, so no more attempts are made than the
timeout has nanoseconds and one. A strategy without bound is given the number
of attempts after which nobody looks any more.

These are the three strategies of the reconcile library, `attempts` its
`AttemptRetryStrategy`, `untilTimeout` its `TimeoutRetryStrategy` and
`unlimited` its `UnlimitedRetryStrategy`, each with its `try_run`. The number of
an attempt goes to the log as well, which is left out.
-/

set_option autoImplicit false

namespace VmDeploy

/-- A monad in which time can be let pass. -/
class MonadSleep (m : Type → Type) where
  sleep : Duration → m Unit

/-- A monad with a clock, which shows the time since some start. -/
class MonadClock (m : Type → Type) extends MonadSleep m where
  now : m Duration

/-- How one attempt ended. -/
inductive Attempt (ε : Type) where
  | succeeded
  /-- It failed and may be tried again. -/
  | failed (error : ε)
  /-- It failed for good. -/
  | refused (error : ε)
  deriving DecidableEq, Repr

/-- Why a strategy stopped without success. -/
inductive RetryStop where
  | exhausted (attempts : UInt32)
  | timedOut (elapsed : Duration) (attempts : UInt32)
  | notRetryable
  deriving DecidableEq, Repr

/-- A strategy stopped without success; the error is that of the last attempt. -/
structure RetryError (ε : Type) where
  stop : RetryStop
  source : ε
  deriving DecidableEq, Repr

/-- The wording of a stop. -/
def RetryStop.message : RetryStop → String
  | .exhausted attempts => s!"gave up after {attempts} attempts"
  | .timedOut elapsed attempts => s!"timed out after {elapsed.text} ({attempts} attempts)"
  | .notRetryable => "attempt failed and is not retryable"

/-- Whether a strategy stopped at its deadline. -/
def RetryStop.isTimeout : RetryStop → Bool
  | .timedOut _ _ => true
  | .exhausted _ | .notRetryable => false

namespace Retry

variable {m : Type → Type} {ε : Type} [Monad m]

/-- The attempts that are left of a number of them. -/
def attemptsLeft [MonadSleep m] (max : UInt32) (delay : Duration) (attempt : m (Attempt ε)) :
    (left : Nat) → m (Except (RetryError ε) Unit)
  | 0 => return .ok ()
  | left + 1 => do
    match ← attempt with
    | .succeeded => return .ok ()
    | .refused e => return .error ⟨.notRetryable, e⟩
    | .failed e =>
      match left with
      | 0 => return .error ⟨.exhausted max, e⟩
      | left + 1 =>
        MonadSleep.sleep delay
        attemptsLeft max delay attempt (left + 1)

/-- Tries at most so many times. No attempt at all is a success. -/
def attempts [MonadSleep m] (max : UInt32) (delay : Duration) (attempt : m (Attempt ε)) :
    m (Except (RetryError ε) Unit) :=
  attemptsLeft max delay attempt max.toNat

/-- The attempts before a deadline, when `made` were made and the time before the deadline has room
for `left` more behind the one that is made now. -/
def untilDeadlineFrom [MonadClock m] (started deadline delay : Duration)
    (attempt : m (Attempt ε)) (left : Nat) (made : UInt32) : m (Except (RetryError ε) Unit) := do
  let made := made + 1
  match ← attempt with
  | .succeeded => return .ok ()
  | .refused e => return .error ⟨.notRetryable, e⟩
  | .failed e =>
    let now ← MonadClock.now
    if deadline < now + delay then return .error ⟨.timedOut (now - started) made, e⟩
    else
      MonadSleep.sleep delay
      match left with
      | 0 => return .error ⟨.timedOut (now - started) made, e⟩
      | left + 1 => untilDeadlineFrom started deadline delay attempt left made

/-- Tries as long as the next attempt starts at most `timeout` behind the first. -/
def untilTimeout [MonadClock m] (timeout delay : Duration) (attempt : m (Attempt ε)) :
    m (Except (RetryError ε) Unit) := do
  let started ← MonadClock.now
  untilDeadlineFrom started (started + timeout) delay attempt timeout.nanos 0

/-- Tries as long as attempts may be tried again; there is no result if that is still so
after `patience` attempts. -/
def unlimited [MonadSleep m] (delay : Duration) (attempt : m (Attempt ε)) :
    (patience : Nat) → m (Option (Except (RetryError ε) Unit))
  | 0 => return none
  | patience + 1 => do
    match ← attempt with
    | .succeeded => return some (.ok ())
    | .refused e => return some (.error ⟨.notRetryable, e⟩)
    | .failed _ =>
      MonadSleep.sleep delay
      unlimited delay attempt patience

end Retry

end VmDeploy
