import ProcessorSockets.Proofs.Pipe

namespace ProcessorSockets

namespace End

variable {α : Type}

def set (f : End → α) (x : End) (a : α) : End → α := fun y => if y = x then a else f y

@[simp] theorem set_same (f : End → α) (x : End) (a : α) : set f x a x = a := if_pos rfl

@[simp] theorem set_other (f : End → α) (x : End) (a : α) : set f x a x.other = f x.other :=
  if_neg x.other_ne

theorem forall_of {P : End → Prop} {x : End} (here : P x) (there : P x.other) (y : End) : P y := by
  by_cases same : y = x
  · exact same ▸ here
  · exact eq_other same ▸ there

end End

namespace Call

theorem interrupted_error (r : Request) (e : NativeError) :
    (Call.mk r (.error e)).interrupted = e.isInterrupted := by
  simp [interrupted, error?]

theorem carries_nothing {c : Call} (interrupted : c.interrupted = true) :
    c.got = [] ∧ c.sent = [] := by
  obtain ⟨r, answer⟩ := c
  cases answer with
  | ok => cases interrupted
  | error => cases r <;> exact ⟨rfl, rfl⟩

end Call

namespace Echo

/-- What a wire knows about one of its ends. -/
structure Port where
  bound : Option String := none
  listening : Bool := false
  /-- The end's descriptor for the connection. -/
  connection : Option Descriptor := none
  closed : Bool := false

def Port.shut (fd : Descriptor) (port : Port) : Port :=
  if port.connection = some fd then { port with closed := true } else port

structure Wire where
  ports : End → Port := fun _ => {}
  lanes : Pipe.Lanes := fun _ => []
  /-- So many calls will still be interrupted. -/
  interruptions : Nat

namespace Wire

def set (q : Wire) (x : End) (port : Port) : Wire := { q with ports := End.set q.ports x port }

theorem ports_set (q : Wire) (x : End) (port : Port) : (q.set x port).ports x = port :=
  End.set_same _ _ _

/-- The answers that a wire gives.  Whoever has nothing to read, no room to write or nobody to
connect to is not answered before that changes. -/
inductive Answers (capacity : Nat) (q : Wire) (x : End) : Call → Wire → Prop
  | created {type protocol : Int} {fd : Descriptor} :
      Answers capacity q x ⟨.create type protocol, .ok fd⟩ q
  | bound {fd : Descriptor} {a : Address} :
      Answers capacity q x ⟨.bind fd a, .ok ()⟩
        (q.set x { q.ports x with bound := some a.name })
  | listening {fd : Descriptor} {backlog : Int} (bound : (q.ports x).bound.isSome = true) :
      Answers capacity q x ⟨.listen fd backlog, .ok ()⟩
        (q.set x { q.ports x with listening := true })
  | connected {fd : Descriptor} {a : Address} (listens : (q.ports x.other).listening = true)
      (named : (q.ports x.other).bound = some a.name) :
      Answers capacity q x ⟨.connect fd a, .ok ()⟩
        (q.set x { q.ports x with connection := some fd })
  | accepted {fd peer : Descriptor} (listens : (q.ports x).listening = true)
      (called : (q.ports x.other).connection.isSome = true) :
      Answers capacity q x ⟨.accept fd, .ok peer⟩
        (q.set x { q.ports x with connection := some peer })
  | carried {c : Call} {lanes : Pipe.Lanes} (own : c.request.descriptor? = (q.ports x).connection)
      (step : Pipe.Step x c q.lanes lanes) (room : (lanes x.other).length ≤ capacity)
      (went : c.interrupted = false) : Answers capacity q x c { q with lanes }
  | interrupted {c : Call} {n : Nat} (piped : c.Piped) (interrupted : c.interrupted = true)
      (still : q.interruptions = n + 1) : Answers capacity q x c { q with interruptions := n }
  /-- Who has closed sends nothing more. -/
  | ended {fd : Descriptor} {length : Nat} (closed : (q.ports x.other).closed = true)
      (empty : q.lanes x = []) : Answers capacity q x ⟨.read fd length, .ok []⟩ q
  | broken {fd : Descriptor} {bytes : List UInt8} {e : NativeError}
      (closed : (q.ports x.other).closed = true) :
      Answers capacity q x ⟨.write fd bytes, .error e⟩ q
  | shut {fd : Descriptor} {half : Half} {answer : Except NativeError Unit} :
      Answers capacity q x ⟨.shutdown fd half, answer⟩ (q.set x ((q.ports x).shut fd))
  | closed {fd : Descriptor} :
      Answers capacity q x ⟨.close fd, .ok ()⟩ (q.set x ((q.ports x).shut fd))

namespace Answers

variable {capacity : Nat} {q q' : Wire} {x : End} {c : Call}

theorem kept (answers : q.Answers capacity x c q') : q'.ports x.other = q.ports x.other := by
  cases answers with
  | bound => exact End.set_other _ _ _
  | listening => exact End.set_other _ _ _
  | connected => exact End.set_other _ _ _
  | accepted => exact End.set_other _ _ _
  | shut => exact End.set_other _ _ _
  | closed => exact End.set_other _ _ _
  | _ => rfl

theorem front (answers : q.Answers capacity x c q') : q.lanes x = c.got ++ q'.lanes x := by
  cases answers with
  | carried _ step => exact step.front
  | interrupted _ interrupted =>
    rw [(Call.carries_nothing interrupted).1]
    rfl
  | _ => rfl

theorem back (answers : q.Answers capacity x c q') :
    q'.lanes x.other = q.lanes x.other ++ c.sent := by
  cases answers with
  | carried _ step => exact step.back
  | interrupted _ interrupted =>
    rw [(Call.carries_nothing interrupted).2]
    exact (List.append_nil _).symm
  | _ => exact (List.append_nil _).symm

theorem room (answers : q.Answers capacity x c q')
    (room : (q.lanes x.other).length ≤ capacity) : (q'.lanes x.other).length ≤ capacity := by
  cases answers with
  | carried _ _ room => exact room
  | _ => exact room

theorem write {fd : Descriptor} {bytes : List UInt8} {answer : Except NativeError Nat}
    (answers : q.Answers capacity x ⟨.write fd bytes, answer⟩ q')
    (listens : (q.ports x.other).closed = false) :
    q'.ports = q.ports ∧
      ((∃ n, answer = .ok n ∧ n ≠ 0 ∧ q'.interruptions = q.interruptions) ∨
        ∃ e, answer = .error e ∧ e.isInterrupted = true ∧
          q.interruptions = q'.interruptions + 1) := by
  cases answers with
  | carried _ step _ went =>
    cases step.piped with
    | @write _ _ n some => exact ⟨rfl, .inl ⟨n, rfl, Nat.ne_of_gt some, rfl⟩⟩
    | writeInterrupted interrupted =>
      rw [Call.interrupted_error, interrupted] at went
      cases went
  | interrupted piped interrupted still =>
    cases piped with
    | write => cases interrupted
    | @writeInterrupted _ _ e interrupted => exact ⟨rfl, .inr ⟨e, rfl, interrupted, still⟩⟩
  | broken closed =>
    rw [listens] at closed
    cases closed

theorem read {fd : Descriptor} {length : Nat} {answer : Except NativeError (List UInt8)}
    (answers : q.Answers capacity x ⟨.read fd length, answer⟩ q')
    (comes : q.lanes x = [] → (q.ports x.other).closed = false) :
    q'.ports = q.ports ∧
      ((∃ bytes, answer = .ok bytes ∧ bytes ≠ [] ∧ q'.interruptions = q.interruptions) ∨
        ∃ e, answer = .error e ∧ e.isInterrupted = true ∧
          q.interruptions = q'.interruptions + 1) := by
  cases answers with
  | carried _ step _ went =>
    cases step.piped with
    | @read _ _ bytes some => exact ⟨rfl, .inl ⟨bytes, rfl, some, rfl⟩⟩
    | readInterrupted interrupted =>
      rw [Call.interrupted_error, interrupted] at went
      cases went
  | interrupted piped interrupted still =>
    cases piped with
    | read => cases interrupted
    | @readInterrupted _ _ e interrupted => exact ⟨rfl, .inr ⟨e, rfl, interrupted, still⟩⟩
  | ended closed empty =>
    rw [comes empty] at closed
    cases closed

end Answers

end Wire

end Echo

end ProcessorSockets
