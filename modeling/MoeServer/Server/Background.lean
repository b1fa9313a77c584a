import MoeServer.Python.Builtins

/-!
# `background_server` and `_server_runner`: the handshake over the pipe

`background_server` is a generator-based context manager running in the parent process;
`_server_runner` runs in the child.  They share a duplex pipe:

* the child builds the server; if that raises it sends `(False, message)` and returns;
  otherwise it asks the DHT for its visible addresses, sends `(True, PeerInfo(...))`, waits for
  a message, and in its `finally` shuts the server down;
* the parent starts the child, waits in `pipe.recv()` for the status, yields the `PeerInfo` to
  the `with` block, sends `"SHUTDOWN"` when the block is left, and in its `finally` joins the
  child with a timeout, killing it if it is still alive.

Two exits are missing a message.  If the child fails between building the server and sending
the status (the address query or the `PeerInfo` raising), it leaves through its `finally`
without sending anything, while the parent, which never closed its own copy of the child's end
of the pipe, waits in `recv()` forever.  And if the `with` block raises, the exception is thrown
into the generator at `yield`, so `pipe.send("SHUTDOWN")` is skipped: the child keeps waiting and
is killed at the join's timeout, without its server ever being shut down.  Both are schedules of
`background_server_handshake_breaks`.

`stepWith shutdownTimeout` is the transition function of the two processes and the pipe, one
statement per move, each outcome of a statement that can raise a move of its own.  The join can
time out only when `shutdown_timeout` is not `None`; with `None`, a child left waiting for
`"SHUTDOWN"` is joined forever.  `Server.create(..., start=True)` can also never return: its
`run_in_background(await_ready=True)` waits on `ready` with no timeout.  `step` is the default
call, `shutdown_timeout=5`.
-/

namespace MoeServer

/-- The messages on the pipe. -/
inductive Msg
  /-- `(False, f"{type(e).__name__} {e}")`. -/
  | failed (text : String)
  /-- `(True, PeerInfo(dht.peer_id, dht_maddrs))`. -/
  | ready (peerInfo : String)
  /-- `"SHUTDOWN"`. -/
  | shutdownToken
  deriving DecidableEq

/-- Where the parent is in `background_server`. -/
inductive ParentPc
  | spawn
  | recv
  /-- Suspended at `yield data`, the `with` block running. -/
  | inBlock
  | sendShutdown
  /-- In `finally`, at `runner.join(timeout=shutdown_timeout)`. -/
  | join
  | done
  deriving DecidableEq

/-- Where the child is in `_server_runner`. -/
inductive ChildPc
  | notStarted
  | create
  | maddrs
  | sendReady
  | recvShutdown
  /-- In `finally`: `server.shutdown(); server.join()`. -/
  | finallyShutdown
  | exited
  | killed
  /-- In `Server.create`, waiting on `ready` for good. -/
  | blocked
  deriving DecidableEq

/-- The two processes and the pipe between them. -/
structure Handshake where
  parent : ParentPc
  child : ChildPc
  toParent : List Msg
  toChild : List Msg
  /-- The parent has yielded a `PeerInfo` to the `with` block. -/
  yielded : Bool
  /-- The child's server has been shut down. -/
  serverShutdown : Bool
  deriving DecidableEq

/-- Before `runner.start()`. -/
def Handshake.init : Handshake := ⟨.spawn, .notStarted, [], [], false, false⟩

/-- The statements either process can execute next, with the outcome of those that can raise. -/
inductive Move
  | spawn
  | parentRecv
  /-- The `with` block is left, normally or by an exception. -/
  | blockExit (normal : Bool)
  | sendShutdown
  /-- `runner.join` returns because the child has exited. -/
  | joined
  /-- `runner.join` times out; `runner.kill()`. -/
  | joinTimeout
  /-- `Server.create(...)` returns or raises. -/
  | create (ok : Bool)
  /-- `Server.create(...)` never returns. -/
  | createBlocks
  /-- `server.dht.get_visible_maddrs()` returns or raises. -/
  | maddrs (ok : Bool)
  /-- `PeerInfo(...)` is built and sent, or raises. -/
  | sendReady (ok : Bool)
  | childRecv
  | childFinally
  deriving DecidableEq

/-- The transition function for a given `shutdown_timeout`; `none` when the move is not
enabled. -/
def Handshake.stepWith (shutdownTimeout : Option Nat) (s : Handshake) : Move → Option Handshake
  | .spawn => if s.parent = .spawn then some { s with parent := .recv, child := .create } else none
  | .parentRecv =>
    match s.parent, s.toParent with
    | .recv, .ready _ :: rest => some { s with parent := .inBlock, toParent := rest, yielded := true }
    | .recv, _ :: rest => some { s with parent := .join, toParent := rest }
    | _, _ => none
  | .blockExit normal =>
    if s.parent = .inBlock then some { s with parent := if normal then .sendShutdown else .join }
    else none
  | .sendShutdown =>
    if s.parent = .sendShutdown then
      some { s with parent := .join, toChild := s.toChild ++ [.shutdownToken] }
    else none
  | .joined => if s.parent = .join ∧ s.child = .exited then some { s with parent := .done } else none
  | .joinTimeout =>
    if shutdownTimeout.isSome ∧ s.parent = .join ∧ s.child ≠ .exited then
      some { s with parent := .done, child := .killed }
    else none
  | .create ok =>
    if s.child = .create then
      some (if ok then { s with child := .maddrs }
        else { s with child := .exited, toParent := s.toParent ++ [.failed "Exception"] })
    else none
  | .createBlocks => if s.child = .create then some { s with child := .blocked } else none
  | .maddrs ok =>
    if s.child = .maddrs then some { s with child := if ok then .sendReady else .finallyShutdown }
    else none
  | .sendReady ok =>
    if s.child = .sendReady then
      some (if ok then { s with child := .recvShutdown, toParent := s.toParent ++ [.ready "peer"] }
        else { s with child := .finallyShutdown })
    else none
  | .childRecv =>
    match s.child, s.toChild with
    | .recvShutdown, _ :: rest => some { s with child := .finallyShutdown, toChild := rest }
    | _, _ => none
  | .childFinally =>
    if s.child = .finallyShutdown then some { s with child := .exited, serverShutdown := true }
    else none

/-- `background_server`'s default, `shutdown_timeout=5`. -/
def Handshake.step (s : Handshake) (m : Move) : Option Handshake := s.stepWith (some 5) m

/-- Running a schedule of moves. -/
def Handshake.runWith (shutdownTimeout : Option Nat) : Handshake → List Move → Option Handshake
  | s, [] => some s
  | s, m :: rest => (s.stepWith shutdownTimeout m).bind (runWith shutdownTimeout · rest)

/-- Running a schedule with the default timeout. -/
def Handshake.run (s : Handshake) (ms : List Move) : Option Handshake := s.runWith (some 5) ms

/-- The parent is blocked in `pipe.recv()` with nothing to read, and the child has left. -/
def Handshake.parentStranded (s : Handshake) : Prop :=
  s.parent = .recv ∧ s.toParent = [] ∧ s.child = .exited

/-- A stranded parent waits forever: no move is enabled. -/
lemma step_of_parentStranded {s : Handshake} (h : s.parentStranded) (shutdownTimeout : Option Nat)
    (m : Move) : s.stepWith shutdownTimeout m = none := by
  obtain ⟨hp, hq, hc⟩ := h
  cases m <;> simp [Handshake.stepWith, hp, hq, hc]

/-- **The handshake breaks in two ways.**  (a) When `get_visible_maddrs()` raises in the child,
the child shuts its server down and exits without a status message, and the parent is left in
`recv()` with nothing to read and no move that could bring it one.  (b) When the `with` block
raises after the parent yielded the `PeerInfo`, the parent reaches `runner.join` without sending
`"SHUTDOWN"`; the join times out and the child is killed while waiting, its server never shut
down. -/
theorem background_server_handshake_breaks :
    (∃ s, Handshake.init.run [.spawn, .create true, .maddrs false, .childFinally] = some s ∧
      s.parentStranded ∧ ∀ m, s.step m = none) ∧
    (Handshake.init.run [.spawn, .create true, .maddrs true, .sendReady true, .parentRecv,
      .blockExit false]).map (fun s => (s.yielded, s.parent, s.toChild, s.child)) =
        some (true, .join, [], .recvShutdown) ∧
    (Handshake.init.run [.spawn, .create true, .maddrs true, .sendReady true, .parentRecv,
      .blockExit false, .joinTimeout]).map (fun s => (s.child, s.serverShutdown)) =
        some (.killed, false) :=
  ⟨⟨_, rfl, ⟨rfl, rfl, rfl⟩, step_of_parentStranded ⟨rfl, rfl, rfl⟩ _⟩, by decide⟩

end MoeServer
