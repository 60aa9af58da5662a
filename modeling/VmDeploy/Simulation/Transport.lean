import VmDeploy.Simulation.FileTree
import VmDeploy.Tunnel.Basic
import VmDeploy.Tunnel.Copy

/-!
# A scripted transport for tunnels

The remote server and the local server of one tunnel as scripts of what they
do, and the files among which it finds its key. While the remote server is dialed or asked to listen,
somebody may stop the tunnel.

A connection is served to its end before the next poll. What both sides
received is kept with the errors that were reported meanwhile.
-/

set_option autoImplicit false

namespace VmDeploy.Simulation

/-- The error of a dial that nobody takes. -/
def refusedDial : StreamError := .other "Connection refused (os error 111)"

/-- How a dial or a request to listen goes. -/
structure Meeting where
  fault : Option StreamError := none
  /-- Whether the tunnel is stopped meanwhile. -/
  stops : Bool := false
  deriving DecidableEq, Repr

/-- What happens on an accepted connection. -/
structure ConnectionScript where
  /-- What the remote side sends. -/
  reads : List (Except StreamError (List UInt8)) := []
  /-- What the local side sends. -/
  localSends : List UInt8 := []
  /-- How the remote side takes it. -/
  writes : WriteScript := []
  flushes : FlushScript := []

/-- What a poll yields. -/
inductive Arrival where
  | fault (error : StreamError)
  | nothing
  | connection (script : ConnectionScript)

/-- What the transport sees. -/
inductive TransportEvent where
  | connect (server user : String) (auth : List AuthMethod)
  | listen (host : String) (port : UInt16)
  | stopDuring (what : String) (result : Except TunnelError Unit)
  | close

/-- What became of an arrival: the errors, and what both sides received. -/
structure ArrivalOutcome where
  errors : List TunnelError := []
  toLocal : Option (List UInt8) := none
  toRemote : Option (List UInt8) := none

/-- A scripted transport, and what was seen of it so far. -/
structure Transport where
  files : FileTree := .system
  connects : List Meeting := []
  listen : Meeting := {}
  closeFault : Option StreamError := none
  arrivals : List Arrival := []
  /-- Whether the local server can be dialed. -/
  localFault : Option StreamError := none
  /-- The connection that is served, and the errors told of it. -/
  current : Option ConnectionScript := none
  outcomes : List ArrivalOutcome := []
  events : List TransportEvent := []
  /-- What was told of readiness. -/
  told : List (Except TunnelError Unit) := []
  clock : Duration := .zero

namespace Transport

/-- Notes what is seen. -/
def see (event : TransportEvent) (t : Transport) : Transport :=
  { t with events := t.events ++ [event] }

/-- Changes the outcome of the last arrival. -/
def amend (change : ArrivalOutcome → ArrivalOutcome) (t : Transport) : Transport :=
  match t.outcomes.reverse with
  | [] => t
  | last :: earlier => { t with outcomes := (change last :: earlier).reverse }

/-- Starts the outcome of an arrival. -/
def arrive (outcome : ArrivalOutcome) (t : Transport) : Transport :=
  { t with outcomes := t.outcomes ++ [outcome] }

/-- Polls the listener. -/
def accept (t : Transport) : Except StreamError (Option ConnectionRef) × Transport :=
  match t.arrivals with
  | [] => (.ok none, t)
  | .nothing :: rest => (.ok none, { t with arrivals := rest })
  | .fault e :: rest => (.error e, { t with arrivals := rest }.arrive {})
  | .connection script :: rest =>
    (.ok (some ⟨t.outcomes.length⟩),
      { t with arrivals := rest, current := some script }.arrive { toRemote := some [] })

/-- The reads that the remote side yields. -/
def ConnectionScript.remoteReads (c : ConnectionScript) : ReadScript :=
  c.reads.flatMap fun
    | .ok bytes => Copy.buffers bytes
    | .error e => [.error e]

/-- The error of a copy, if it failed. -/
def copyError (error : StreamError → TunnelError) (run : Copy.Run) : List TunnelError :=
  match run.result with
  | .ok _ => []
  | .error e => [error e]

/-- Copies a connection and the local one to each other until both are done. -/
def serve (c : ConnectionScript) (outcome : ArrivalOutcome) : ArrivalOutcome :=
  let fromRemote := Copy.run [] (ConnectionScript.remoteReads c) []
  let fromLocal := Copy.run c.flushes (Copy.buffers c.localSends) c.writes
  { errors := outcome.errors ++ copyError .copyRemoteToLocal fromRemote
      ++ copyError .copyLocalToRemote fromLocal
    toLocal := some fromRemote.delivered
    toRemote := some fromLocal.delivered }

/-- Whether an operation succeeds. -/
def orFault (fault : Option StreamError) : Except StreamError Unit :=
  match fault with
  | some e => .error e
  | none => .ok ()

/-- Answers what a tunnel asks of the world. -/
def answer : Program.Handler tunnelWorld Transport
  | .readKey path, t => ((t.files.read path).mapError fun fault => .other fault.message, t)
  | .connect server user auth, t =>
    let meeting := t.connects.head?.getD {}
    (orFault meeting.fault,
      { t with connects := t.connects.drop 1 }.see (.connect server user auth))
  | .listen host port, t =>
    ((orFault t.listen.fault).map fun _ => ListenerRef.mk 0, t.see (.listen host port))
  | .accept _, t => t.accept
  | .close _, t => (orFault t.closeFault, t.see .close)
  | .dialLocal _, t => (orFault t.localFault, t)
  | .splitLocal, t => (.ok (), t)
  | .forward _, t =>
    match t.current with
    | none => ((), t)
    | some script => ((), { t with current := none }.amend (serve script))
  | .sleep span, t => ((), { t with clock := t.clock + span })
  | .report e, t => ((), t.amend fun o => { o with errors := o.errors ++ [e] })
  | .ready result, t => ((), { t with told := t.told ++ [result] })

/-- A tunnel with its callers and its transport. -/
abbrev Scene := TunnelCore × Transport

/-- The steps on a tunnel that nobody stops meanwhile. -/
def plain : Program.Handler tunnelSteps Scene := TunnelCore.handler answer

/-- Stops a tunnel in the middle of something else. -/
def stopDuring (what : String) (scene : Scene) : Scene :=
  let (result, core, t) := VmDeploy.Tunnel.stop.run.run plain scene
  (core, t.see (.stopDuring what result))

/-- The steps on a tunnel that may be stopped while it is started. -/
def handler : Program.Handler tunnelSteps Scene
  | .world (.connect server user auth), scene =>
    let stops := (scene.2.connects.head?.getD {}).stops
    let (answer, scene) := plain (.world (.connect server user auth)) scene
    (answer, if stops then stopDuring "connect" scene else scene)
  | .world (.listen host port), scene =>
    let stops := scene.2.listen.stops
    let (answer, scene) := plain (.world (.listen host port)) scene
    (answer, if stops then stopDuring "listen" scene else scene)
  | step, scene => plain step scene

/-- Starts a tunnel and serves what arrives. -/
def start (tunnel : VmDeploy.Tunnel) (scene : Scene) : TunnelRun × Scene :=
  (tunnel.start scene.2.arrivals.length).run handler scene

/-- Performs an operation of a tunnel. -/
def perform {α : Type} (action : TunnelAction α) (scene : Scene) :
    Except TunnelError α × Scene :=
  action.run.run plain scene

/-- Forgets what was seen. -/
def clearNotes (t : Transport) : Transport :=
  { t with events := [], outcomes := [], told := [] }

end Transport

end VmDeploy.Simulation
