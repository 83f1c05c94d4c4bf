import SdbusExamples.LockOrders
import SdbusExamples.Runs

namespace SdbusExamples.ConnmanManager

open Function LockOrders Runs

inductive Thread
  | calling
  | eventLoop
deriving DecidableEq

/-- The mutex of the connection is recursive, `maps_mutex_` is not. -/
inductive Mutex
  | connection
  | maps
deriving DecidableEq

inductive Clients
  | technologies
  | services
deriving DecidableEq

/-- `ensure` looks a path up and constructs the client that is missing, which
`insert` then puts into the map. -/
inductive Act
  | registerProxy
  | unregisterProxy
  | ensure (map : Clients) (path : String)
  | insert (map : Clients) (path : String)
  | erase (map : Clients) (path : String)
deriving DecidableEq

abbrev Code := List (Op Mutex Act)

def call : Code := [.lock .connection, .unlock .connection]

/-- The calls made to register the signals of a proxy; how many is up to the library. -/
def calls : Nat → Code
  | 0 => []
  | n + 1 => .lock .connection :: .unlock .connection :: calls n

def ensureAll (map : Clients) (paths : List String) : Code := (paths.map (Act.ensure map)).map .act

/-- The constructor, by the replies to its two calls. The proxy of the manager has
six signals, that of a technology or a service only one. -/
def connmanManagerClient (own : Nat) (technologies services : List String) : Code :=
  .act .registerProxy :: calls own ++ .lock .maps :: call ++ ensureAll .technologies technologies ++
    call ++ ensureAll .services services ++ [.unlock .maps]

inductive Message
  | technologyAdded (path : String)
  | technologyRemoved (path : String)
  | servicesChanged (changed removed : List String)
  | other
deriving DecidableEq

def onTechnologyAdded (path : String) : Code :=
  .lock .maps :: ensureAll .technologies [path] ++ [.unlock .maps]

def onTechnologyRemoved (path : String) : Code :=
  [.lock .maps, .act (.erase .technologies path), .unlock .maps]

def onServicesChanged (changed removed : List String) : Code :=
  .lock .maps :: ensureAll .services changed ++ (removed.map (Act.erase .services)).map .act ++
    [.unlock .maps]

def Message.handler : Message → Code
  | .technologyAdded path => onTechnologyAdded path
  | .technologyRemoved path => onTechnologyRemoved path
  | .servicesChanged changed removed => onServicesChanged changed removed
  | .other => []

abbrev Maps := Clients → List String

def Maps.add (maps : Maps) (map : Clients) (path : String) : Maps :=
  update maps map (maps map ++ [path])

def Maps.remove (maps : Maps) (map : Clients) (path : String) : Maps :=
  update maps map ((maps map).filter (· ≠ path))

structure State where
  held : Held Thread Mutex
  todo : Thread → Code
  registered : Bool
  clients : Maps

namespace State

/-- The event loop runs on its thread before the constructor starts. -/
def start (own : Nat) (technologies services : List String) : State where
  held := fun _ _ => 0
  todo
    | .calling => connmanManagerClient own technologies services
    | .eventLoop => []
  registered := false
  clients := fun _ => []

def setTodo (s : State) (t : Thread) (code : Code) : State :=
  { s with todo := update s.todo t code }

@[simp] theorem todo_setTodo (s : State) (t : Thread) (code : Code) :
    (s.setTodo t code).todo t = code := update_self ..

/-- A client that is constructed makes `n` calls for its proxy. -/
def perform (n : Nat) (s : State) (t : Thread) (rest : Code) : Act → State
  | .registerProxy => { s.setTodo t rest with registered := true }
  | .unregisterProxy => { s.setTodo t rest with registered := false }
  | .ensure map path =>
      if path ∈ s.clients map then s.setTodo t rest
      else s.setTodo t (calls n ++ .act (.insert map path) :: rest)
  | .insert map path => { s.setTodo t rest with clients := s.clients.add map path }
  | .erase map path => { s.setTodo t rest with clients := s.clients.remove map path }

def step (n : Nat) (s : State) (t : Thread) : State :=
  match s.todo t with
  | [] => s
  | .lock m :: rest => { s.setTodo t rest with held := acquire s.held t m }
  | .unlock m :: rest => { s.setTodo t rest with held := release s.held t m }
  | .act a :: rest => s.perform n t rest a

/-- What is left to do when a call in progress throws: what is held is released
from the inside out, and the constructor takes the proxy back. -/
def unwind (s : State) (t : Thread) : Code :=
  .unlock .connection :: List.replicate (s.held t .maps) (.unlock .maps) ++
    List.replicate (s.held t .connection - 1) (.unlock .connection) ++
    if t = .calling then [.act .unregisterProxy] else []

def Calling (s : State) (t : Thread) : Prop :=
  (s.todo t).head? = some (.unlock .connection) ∧ (t = .eventLoop → 0 < s.held t .maps)

instance (s : State) (t : Thread) : Decidable (s.Calling t) := inferInstanceAs (Decidable (_ ∧ _))

def Free (s : State) (t : Thread) (m : Mutex) : Prop :=
  (t ≠ .calling ∨ m = .maps → s.held .calling m = 0) ∧
    (t ≠ .eventLoop ∨ m = .maps → s.held .eventLoop m = 0)

instance (s : State) (t : Thread) (m : Mutex) : Decidable (s.Free t m) :=
  inferInstanceAs (Decidable (_ ∧ _))

end State

inductive Event
  | step (t : Thread)
  | message (m : Message)
  | throws (t : Thread)

def Enabled (s : State) : Event → Prop
  | .step t => s.todo t ≠ [] ∧ (wanted (s.todo t)).all (s.Free t ·) = true
  | .message _ => s.todo .eventLoop = [] ∧ s.Free .eventLoop .connection
  | .throws t => s.Calling t

instance (s : State) : (e : Event) → Decidable (Enabled s e)
  | .step t =>
      inferInstanceAs (Decidable (s.todo t ≠ [] ∧ (wanted (s.todo t)).all (s.Free t ·) = true))
  | .message _ =>
      inferInstanceAs (Decidable (s.todo .eventLoop = [] ∧ s.Free .eventLoop .connection))
  | .throws t => inferInstanceAs (Decidable (s.Calling t))

/-- The loop's thread holds the mutex of the connection while it processes a message. -/
def handle (n : Nat) (s : State) : Event → State
  | .step t => s.step n t
  | .message m =>
      let code := if s.registered then m.handler else []
      { s.setTodo .eventLoop (code ++ [.unlock .connection]) with
        held := acquire s.held .eventLoop .connection }
  | .throws t => s.setTodo t (s.unwind t)

def system (n : Nat) : System State Event := ⟨Enabled, handle n⟩

instance (n : Nat) (s : State) (e : Event) : Decidable ((system n).enabled s e) :=
  inferInstanceAs (Decidable (Enabled s e))

def rank : Thread → Mutex → Nat
  | .calling, .maps => 0
  | .calling, .connection => 1
  | .eventLoop, .connection => 0
  | .eventLoop, .maps => 1

/-- The maps are used with their mutex held; a handler also runs under the connection's. -/
def guards : Thread → Act → List Mutex
  | _, .registerProxy | _, .unregisterProxy => []
  | .calling, _ => [.maps]
  | .eventLoop, _ => [.maps, .connection]

end SdbusExamples.ConnmanManager
