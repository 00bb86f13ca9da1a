import ProcessorSockets.Endpoint

namespace ProcessorSockets

structure Guard where
  endpoint : Endpoint
  /-- Whether the guard will still release the endpoint. -/
  active : Bool := true
  deriving DecidableEq, Repr

namespace Guard

variable {σ : Type}

def around (ep : Endpoint) : Guard := { endpoint := ep }

def commit (g : Guard) : Guard := { g with active := false }

def discard (L : Link σ) (g : Guard) : StateM (World σ) Unit := do
  if g.active then
    match ← (g.endpoint.release L).run with
    | .ok _ => World.emit .debug "Closed partially set up endpoint"
    | .error _ => World.emit .error "Failed to close partially set up endpoint"

@[simp] theorem discard_commit (L : Link σ) (g : Guard) (w : World σ) :
    (g.commit.discard L).run w = ((), w) := rfl

end Guard

end ProcessorSockets
