import ProcessorSockets.Session.Outcome

/-! Sessions: steps on objects that go by names.  Objects of one descriptor share it, and it
is given up with the last name that leads to it. -/

namespace ProcessorSockets

namespace Session

inductive Interference
  | create (kind : SocketKind)
  | close
  deriving DecidableEq, Repr

def Interference.deed? : Interference → Object → Option Deed
  | .create kind, .endpoint ep => some (.create ep kind)
  | .create _, _ => none
  | .close, .endpoint ep => some (.close ep)
  | .close, .socket s => some (.closeSocket s)
  | .close, .server s => some (.release s.endpoint)
  | .close, .input s => some (.release s.endpoint)
  | .close, .output s => some (.release s.endpoint)

structure Meanwhile where
  during : Method
  after : Nat := 0
  on : String
  interference : Interference
  depth : Nat := 0
  deriving DecidableEq, Repr

inductive Step
  | act (verb : Verb) (on as : Option String) (meanwhile : List Meanwhile)
  /-- Steps under a guard over an endpoint. -/
  | guarded (on : String) (commit : Bool) (steps : List Step)

/-- What came of a step: what it told, what happened in it, what then shows of its object,
and what came of the steps inside. -/
inductive Answer
  | mk (value : Value) (log : List Entry) (view : Option View) (inner : List Answer)

end Session

structure Session (σ : Type) where
  world : World σ
  names : List (String × Object) := []
  /-- Endpoints that guards hold. -/
  held : List Endpoint := []

namespace Session

variable {σ α : Type}

def within (m : StateM (World σ) α) : StateM (Session σ) α := fun s =>
  let (a, world) := m s.world
  (a, { s with world })

def find? (s : Session σ) (name : String) : Option Object := s.names.lookup name

def refers (s : Session σ) (ep : Endpoint) : Bool :=
  s.held.contains ep || s.names.any (·.2.base = ep)

def settle (L : Link σ) (ep : Endpoint) : StateM (Session σ) Unit := do
  if !(← get).refers ep then within (ep.discard L)

def abandon (L : Link σ) : Option Object → StateM (Session σ) Unit
  | some o => settle L o.base
  | none => pure ()

def forget (L : Link σ) (name : String) : StateM (Session σ) Unit := do
  let s ← get
  set { s with names := s.names.filter (·.1 ≠ name) }
  abandon L (s.find? name)

def name (L : Link σ) (name : String) (o : Object) : StateM (Session σ) Unit := do
  let s ← get
  set { s with names := (name, o) :: s.names.filter (·.1 ≠ name) }
  abandon L (s.find? name)

def place (L : Link σ) (as : Option String) : Option Object → StateM (Session σ) Unit
  | some o =>
    match as with
    | some n => name L n o
    | none => settle L o.base
  | none => pure ()

def view (s : Session σ) : Object → Option View
  | .endpoint ep => some (.endpoint (s.world.handle ep))
  | .socket k => some (.socket (s.world.handle k.endpoint) (s.world.socket k))
  | .server k => some (.server (s.world.handle k.endpoint) k.address?)
  | .input _ => none
  | .output _ => none

def sameStream (s : Session σ) (a b : String) : Value :=
  match s.find? a, s.find? b with
  | some (.input x), some (.input y) => .truth (x = y)
  | some (.output x), some (.output y) => .truth (x = y)
  | _, _ => .incomparable

def disturbances (s : Session σ) (ms : List Meanwhile) : List Disturbance :=
  ms.filterMap fun m => do
    let deed ← m.interference.deed? (← s.find? m.on)
    return { during := m.during, after := m.after, deed, depth := m.depth }

def outcome (L : Link σ) (around : Surroundings σ) (s : Session σ) (verb : Verb)
    (on : Option String) : StateM (World σ) Outcome :=
  match on with
  | none =>
    match verb with
    | .same a b => pure (s.sameStream a b, none)
    | _ => onNone L around verb
  | some name =>
    match s.find? name with
    | none => pure (.noObject, none)
    | some (.endpoint ep) =>
      let into := match verb with
        | .acceptInto other => (s.find? other).bind fun
          | .endpoint ep => some ep
          | _ => none
        | _ => none
      onEndpoint L ep into verb
    | some (.socket k) => onSocket L k verb
    | some (.server k) => onServer L k verb
    | some (.input i) => onInput L i verb
    | some (.output o) => onOutput L o verb

def act (L : Link σ) (around : Surroundings σ) (verb : Verb) (on as : Option String) :
    StateM (Session σ) Value := do
  let s ← get
  match verb, on with
  | .drop, some n =>
    forget L n
    return .truth (s.find? n).isSome
  | _, _ =>
    let (value, object) ← within (outcome L around s verb on)
    place L as object
    return value

def viewOf (s : Session σ) (on as : Option String) : Option View :=
  (on.or as).bind fun n => (s.find? n).bind s.view

def among (ms : List Meanwhile) (step : StateM (Session σ) α) : StateM (Session σ) α :=
  fun s =>
    if ms = [] then step s
    else
      let (a, s') := step { s with world := { s.world with disturbances := s.disturbances ms } }
      (a, { s' with world := { s'.world with disturbances := s.world.disturbances } })

def logSince (mark : Nat) : StateM (Session σ) (List Entry) :=
  return (← get).world.log.drop mark

def letGo (L : Link σ) (g : Guard) : StateM (Session σ) Unit := do
  within (g.discard L)
  modify fun s => { s with held := s.held.erase g.endpoint }
  settle L g.endpoint

mutual

def runStep (L : Link σ) (around : Surroundings σ) : Step → StateM (Session σ) Answer
  | .act verb on as meanwhile => do
    let mark := (← get).world.log.length
    let value ← among meanwhile (act L around verb on as)
    return .mk value (← logSince mark) ((← get).viewOf on as) []
  | .guarded on commit steps => do
    match (← get).find? on with
    | some (.endpoint ep) =>
      modify fun s => { s with held := ep :: s.held }
      let inner ← runSteps L around steps
      let mark := (← get).world.log.length
      let g := Guard.around ep
      letGo L (if commit then g.commit else g)
      return .mk (.guarded g.active) (← logSince mark) ((← get).viewOf (some on) none) inner
    | _ => return .mk .noObject [] none []

def runSteps (L : Link σ) (around : Surroundings σ) : List Step → StateM (Session σ) (List Answer)
  | [] => pure []
  | step :: rest => do
    let answer ← runStep L around step
    return answer :: (← runSteps L around rest)

end

def forgetAll (L : Link σ) : List String → StateM (Session σ) Unit
  | [] => pure ()
  | n :: rest => do
    forget L n
    forgetAll L rest

def close (L : Link σ) : StateM (Session σ) (List Entry) := do
  let s ← get
  forgetAll L ((s.names.map (·.1)).mergeSort (· ≤ ·))
  logSince s.world.log.length

def start (transport : σ) : Session σ := { world := { transport } }

def run (T : Transport σ) (around : Surroundings σ) (steps : List Step) (s : Session σ) :
    (List Answer × List Entry) × Session σ :=
  (do
    let answers ← runSteps (.disturbed T) around steps
    return (answers, ← close (.disturbed T))).run s

end Session

end ProcessorSockets
