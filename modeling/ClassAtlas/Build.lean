/-
Building the index once. A handle starts unstarted, builds, and ends ready with an index or failed
with an error, for good: only the first start counts, and only the first result that arrives while
it is building. A result that arrives at any other time is ignored, which is logged.

A call may wait for the build to end. It is given a ticket, and its ticket is released by the very
step that ends the build; outside a build it is released at once. Released calls go on with the
index that the handle then holds, if it does.
-/
import ClassAtlas.Index

namespace ClassAtlas.Build

/-- How far a build has come. -/
inductive State
  | unstarted
  | building
  | ready (index : Index)
  | failed (e : IndexError)

namespace State

/-- Whether a build is going on. -/
def isBuilding : State → Bool
  | .building => true
  | _ => false

/-- Whether a build could still start. -/
def isUnstarted : State → Bool
  | .unstarted => true
  | _ => false

/-- Whether there is an index. -/
def isReady : State → Bool
  | .ready _ => true
  | _ => false

/-- The index, if there is one. -/
def index? : State → Option Index
  | .ready i => some i
  | _ => none

/-- The state that a result leads to. -/
def ofResult : Except IndexError Index → State
  | .ok i => .ready i
  | .error e => .failed e

end State

/-- A handle: its state, the stylesheet whose build was spawned and has not come to its end, and
the tickets of the calls that wait, the first to wait first. -/
structure Handle (Ticket : Type) where
  state : State
  job : Option (Sheet × String)
  waiting : List Ticket

/-- What a step of a handle comes to: the handle after it, its events, the tickets it releases in
the order in which they waited, and its own value. -/
structure Change (Ticket α : Type) where
  handle : Handle Ticket
  events : List Event
  released : List Ticket
  value : α

namespace Handle

variable {Ticket : Type}

/-- The handle before everything. -/
def new : Handle Ticket := ⟨.unstarted, none, []⟩

/-- Starts building; the value tells whether this is the first start. -/
def start (h : Handle Ticket) : Change Ticket Bool :=
  if h.state.isUnstarted then ⟨{ h with state := .building }, [], [], true⟩
  else ⟨h, [], [], false⟩

/-- Brings a result. It ends a build that is going on, and is ignored otherwise. -/
def publish (h : Handle Ticket) (result : Except IndexError Index) : Change Ticket Unit :=
  if h.state.isBuilding then
    ⟨{ h with state := .ofResult result, waiting := [] }, [], h.waiting, ()⟩
  else
    ⟨h, [.resultIgnored], [], ()⟩

/-- The first half of a failure, before its error is brought: starts building if nothing has
started yet, and tells whether a build is going on. -/
def prepareFailure (h : Handle Ticket) : Change Ticket Bool :=
  let started := h.start
  { started with value := started.handle.state.isBuilding }

/-- Marks the build as failed before anything was parsed, unless it has ended already. -/
def fail (h : Handle Ticket) (e : IndexError) : Change Ticket Unit :=
  let prepared := h.prepareFailure
  if prepared.value then prepared.handle.publish (.error e) else { prepared with value := () }

/-- Starts the build of a stylesheet, to be run later; the value tells whether it was started. -/
def spawn (h : Handle Ticket) (sheet : Sheet) (css : String) : Change Ticket Bool :=
  let started := h.start
  if started.value then
    { started with handle := { started.handle with job := some (sheet, css) } }
  else
    started

/-- The events that tell how a build ended. -/
def outcomeEvents (sheet : Sheet) : Except IndexError Index → List Event
  | .ok i => [.built i.size sheet.path]
  | .error e => [.buildFailed e]

/-- Ends the build that was spawned and brings its result, which is made of its stylesheet, with
the events of making it; the value tells whether there was such a build. -/
def conclude (h : Handle Ticket) (make : Sheet → String → Except IndexError Index × List Event) :
    Change Ticket Bool :=
  match h.job with
  | none => ⟨h, [], [], false⟩
  | some (sheet, css) =>
    let (result, making) := make sheet css
    let published := { h with job := none }.publish result
    ⟨published.handle, making ++ outcomeEvents sheet result ++ published.events,
      published.released, true⟩

/-- Runs the build that was spawned to its end. -/
def run (h : Handle Ticket) : Change Ticket Bool :=
  h.conclude Index.ofText

/-- Breaks off the build that was spawned, with a text that says why. -/
def interrupt (h : Handle Ticket) (text : String) : Change Ticket Bool :=
  h.conclude fun _ _ => (.error (.interrupted text), [])

/-- Begins to wait. -/
def wait (h : Handle Ticket) (t : Ticket) : Change Ticket Unit :=
  if h.state.isBuilding then ⟨{ h with waiting := h.waiting ++ [t] }, [], [], ()⟩
  else ⟨h, [], [t], ()⟩

end Handle

end ClassAtlas.Build
