import VmDeploy.Tunnel.Error

/-!
# Copying a stream

Bytes are read into a buffer and written out of it, until nothing more can be
read; then what was written is flushed. A passing error means "again": of a
read and of a write both kinds of it, of a flush only the one that says that
the operation would block. Any other error ends the copy at once. Before what
would block is tried again, the copy rests.

The stream that is read and the one that is written are scripts of results. A
script that is used up reads nothing, writes everything and flushes well.

This is the `copy` that a tunnel runs in either direction of a connection.
-/

set_option autoImplicit false

namespace VmDeploy

/-- Whether an operation that failed so may be tried again. -/
def StreamError.isPassing : StreamError → Bool
  | .wouldBlock | .interrupted => true
  | .writeZero | .other _ => false

/-- What reads yield: bytes, none of them at the end of the stream. -/
abbrev ReadScript := List (Except StreamError (List UInt8))

/-- How many bytes writes take at most. -/
abbrev WriteScript := List (Except StreamError Nat)

/-- How flushes go. -/
abbrev FlushScript := List (Except StreamError Unit)

namespace Copy

/-- What happens during a copy: a call and what comes of it, or a rest. -/
inductive Event where
  | read (result : Except StreamError (List UInt8))
  /-- Bytes are offered, of which a number is taken. -/
  | write (offered : List UInt8) (result : Except StreamError Nat)
  | flush (result : Except StreamError Unit)
  | rest

/-- The bytes that were read. -/
def Event.bytesRead : Event → List UInt8
  | .read (.ok bytes) => bytes
  | .read (.error _) | .write _ _ | .flush _ | .rest => []

/-- The bytes that were written. -/
def Event.bytesWritten : Event → List UInt8
  | .write offered (.ok taken) => offered.take taken
  | .write _ (.error _) | .read _ | .flush _ | .rest => []

/-- What happens before a call that failed so is made again. -/
def pause : StreamError → List Event
  | .wouldBlock => [.rest]
  | .interrupted | .writeZero | .other _ => []

/-- What became of a buffer: what happened, the rest of the script, and the error that
ended the copy. -/
structure Drain where
  events : List Event
  writes : WriteScript
  fault : Option StreamError

/-- The same behind other events. -/
def Drain.behind (earlier : List Event) (d : Drain) : Drain :=
  { d with events := earlier ++ d.events }

/-- Writes a buffer out. -/
def drain : (writes : WriteScript) → (buffer : List UInt8) → Drain
  | writes, [] => ⟨[], writes, none⟩
  | [], buffer => ⟨[.write buffer (.ok buffer.length)], [], none⟩
  | .ok 0 :: writes, buffer => ⟨[.write buffer (.ok 0)], writes, some .writeZero⟩
  | .ok n :: writes, buffer =>
    let taken := min n buffer.length
    (drain writes (buffer.drop taken)).behind [.write buffer (.ok taken)]
  | .error e :: writes, buffer =>
    if e.isPassing then (drain writes buffer).behind (.write buffer (.error e) :: pause e)
    else ⟨[.write buffer (.error e)], writes, some e⟩

/-- A copy: what happened, and how many bytes were copied. -/
structure Run where
  events : List Event
  result : Except StreamError Nat

/-- The same behind other events. -/
def Run.behind (earlier : List Event) (r : Run) : Run :=
  { r with events := earlier ++ r.events }

/-- Flushes what was written when so many bytes were copied. -/
def flush (total : Nat) : FlushScript → Run
  | [] => ⟨[.flush (.ok ())], .ok total⟩
  | .error .wouldBlock :: rest =>
    (flush total rest).behind (.flush (.error .wouldBlock) :: pause .wouldBlock)
  | result :: _ => ⟨[.flush result], result.map fun _ => total⟩

/-- Copies the rest of a stream when so many bytes were copied. -/
def runFrom (flushes : FlushScript) :
    (total : Nat) → (reads : ReadScript) → (writes : WriteScript) → Run
  | total, [], _ | total, .ok [] :: _, _ => (flush total flushes).behind [.read (.ok [])]
  | total, .ok buffer :: reads, writes =>
    let drained := drain writes buffer
    let earlier := .read (.ok buffer) :: drained.events
    match drained.fault with
    | some e => ⟨earlier, .error e⟩
    | none => (runFrom flushes (total + buffer.length) reads drained.writes).behind earlier
  | total, .error e :: reads, writes =>
    if e.isPassing then
      (runFrom flushes total reads writes).behind (.read (.error e) :: pause e)
    else ⟨[.read (.error e)], .error e⟩

/-- Copies a stream. -/
def run (flushes : FlushScript) (reads : ReadScript) (writes : WriteScript) : Run :=
  runFrom flushes 0 reads writes

/-- The bytes that came out. -/
def Run.delivered (r : Run) : List UInt8 := r.events.flatMap Event.bytesWritten

/-- How many bytes fit into the buffer. -/
def bufferSize : Nat := 32768

/-- Bytes in pieces of a size, of which only the last may be shorter. -/
def pieces (size : Nat) (bytes : List UInt8) : List (List UInt8) :=
  if _h : bytes.length ≤ size ∨ size = 0 then [bytes]
  else bytes.take size :: pieces size (bytes.drop size)
  termination_by bytes.length
  decreasing_by
    simp only [List.length_drop]
    omega

/-- The reads that bytes take which are there at once. -/
def buffers (bytes : List UInt8) : ReadScript := (pieces bufferSize bytes).map .ok

end Copy

end VmDeploy
