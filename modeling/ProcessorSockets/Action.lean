import ProcessorSockets.World

/-! Steps in a world, and the links through which they reach the transport.

A link hands a request to the transport and logs both ways.  Steps are written over any
link, so that the same steps can run undisturbed or with somebody else closing and creating
in the middle of their requests. -/

namespace ProcessorSockets

abbrev Action (σ α : Type) := ExceptT SocketError (StateM (World σ)) α

abbrev Traced (σ α : Type) := ExceptT SocketError (StateT Span (StateM (World σ))) α

structure Link (σ : Type) where
  /-- Of the transport. -/
  name : String
  send : Option Endpoint → (r : Request) → StateM (World σ) (Except NativeError r.Reply)
  /-- No more than so many requests will still be interrupted, or deliver anything. -/
  patience : World σ → Nat
  /-- How long it takes to come from one world to another. -/
  elapsed : World σ → World σ → Duration

variable {σ α : Type}

def World.record (entries : List Entry) : StateM (World σ) Unit := modify (·.add entries)

def World.emit (level : Level) (message : String) : StateM (World σ) Unit :=
  record [.event ⟨level, message⟩]

namespace Note

def entry : Note → Entry
  | .event e => .event e
  | .syscall c => .syscall c

end Note

def Transport.respond (T : Transport σ) (caller : Option Endpoint) (r : Request) :
    StateM (World σ) (Except NativeError r.Reply) := fun w =>
  let answer := T.handle r w.transport
  (answer.reply,
    { w with transport := answer.state }.add
      (answer.notes.map Note.entry ++ [Entry.reply caller r answer.reply]))

def Link.via (T : Transport σ) (meanwhile : Method → StateM (World σ) Unit) : Link σ where
  name := T.name
  send caller r := do
    World.record [.request caller r]
    meanwhile r.method
    T.respond caller r
  patience w := T.patience w.transport
  elapsed w w' := T.elapsed w.transport w'.transport

def Link.direct (T : Transport σ) : Link σ := .via T fun _ => pure ()

namespace Action

def attempt (a : Action σ α) : Action σ (Except SocketError α) := fun w =>
  let (r, w) := a w
  (.ok r, w)

def plain (m : StateM (World σ) α) : Action σ α := fun w =>
  let (a, w) := m w
  (.ok a, w)

def ofExcept (r : Except SocketError α) : Action σ α := ExceptT.mk (pure r)

theorem run_bind {β : Type} (a : Action σ α) (f : α → Action σ β) (w : World σ) :
    (a >>= f) w = match a w with
      | (.ok x, w) => f x w
      | (.error e, w) => (.error e, w) := by
  change ExceptT.bindCont f (a w).1 (a w).2 = _
  cases a w with
  | mk r w => cases r <;> rfl

@[simp] theorem run_pure (a : α) (w : World σ) : (pure a : Action σ α) w = (.ok a, w) := rfl

@[simp] theorem run_throw (e : SocketError) (w : World σ) :
    (throw e : Action σ α) w = (.error e, w) := rfl

@[simp] theorem run_plain (m : StateM (World σ) α) (w : World σ) :
    plain m w = (.ok (m w).1, (m w).2) := rfl

@[simp] theorem run_attempt (a : Action σ α) (w : World σ) :
    a.attempt w = (.ok (a w).1, (a w).2) := rfl

@[simp] theorem run_ofExcept (r : Except SocketError α) (w : World σ) :
    ofExcept r w = (r, w) := rfl

end Action

namespace Traced

def finish (a : Action σ α) : Traced σ α := fun span w =>
  let (r, w) := a.run w
  ((r, span.finish SocketError.message r), w)

def plain (m : StateM (World σ) α) : Traced σ α := fun span w =>
  let (a, w) := m w
  ((.ok a, span), w)

def note (f : Span → Span) : Traced σ Unit := fun span w => ((.ok (), f span), w)

end Traced

def traced (L : Link σ) (operation : String) (body : Traced σ α) : Action σ α := fun w =>
  let opened := w.add (Entry.opening operation)
  let ((r, span), w) := body (.opened operation) opened
  (r, w.add (Entry.closing operation span (L.elapsed opened w)))

end ProcessorSockets
