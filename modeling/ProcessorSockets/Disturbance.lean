import ProcessorSockets.Socket

/-! Links on which others act in the middle of requests, as other threads would.  A deed
that is due happens after the request was made and before the transport answers it.  It makes
requests of its own, in the middle of which others act again. -/

namespace ProcessorSockets

variable {σ : Type}

def Deed.perform (L : Link σ) : Deed → Action σ Unit
  | .create ep kind => ep.create L kind
  | .close ep => ep.close L
  | .release ep => ep.release L
  | .closeSocket s => s.close L

namespace Disturbance

/-- Whether the deed happens in the next request of a kind.  Nobody gets at an endpoint that
waits for its descriptor. -/
def due (w : World σ) (depth : Nat) (m : Method) (d : Disturbance) : Bool :=
  d.depth = depth && d.during = m && d.after = 0 && !(w.endpoint d.deed.target).creating

def passed (depth : Nat) (m : Method) (d : Disturbance) : Disturbance :=
  if d.depth = depth ∧ d.during = m then { d with after := d.after - 1 } else d

end Disturbance

namespace World

def disturb (L : Link σ) (depth : Nat) (m : Method) : StateM (World σ) Unit := do
  let w ← get
  let (now, later) := w.disturbances.partition (Disturbance.due w depth m)
  set { w with disturbances := later.map (Disturbance.passed depth m) }
  for d in now do
    let result ← (d.deed.perform L).run
    record [.disturbed result]

/-- What others do in the middle of a request, and in the middle of their requests in turn, so
many levels down. -/
def amidst (T : Transport σ) (depth : Nat) : Nat → Method → StateM (World σ) Unit
  | 0, _ => pure ()
  | levels + 1, m => disturb (.via T (amidst T (depth + 1) levels)) depth m

/-- Every level takes a disturbance, so there are no more levels than disturbances. -/
def interrupt (T : Transport σ) (m : Method) : StateM (World σ) Unit := fun w =>
  amidst T 0 w.disturbances.length m w

def among {α : Type} (ds : List Disturbance) (step : StateM (World σ) α) :
    StateM (World σ) α := fun w =>
  let (a, w') := step { w with disturbances := ds }
  (a, { w' with disturbances := w.disturbances })

end World

def Link.disturbed (T : Transport σ) : Link σ := .via T (World.interrupt T)

end ProcessorSockets
