import ProcessorSockets.Proofs.Echo.Duty

/-! What the two parts in the round trip have to do, call by call.  An agenda has the duties that
are left and the descriptors that were obtained and not closed yet; the answer to a call decides how
it goes on, and after a failure only closing is left.  Who follows one to its end is safe. -/

namespace ProcessorSockets.Echo

/-- What is left of a part in the round trip, with the descriptors that it holds, the one that was
obtained last at the head. -/
inductive Agenda
  | going (held : List Descriptor) (duties : List Duty)
  /-- A descriptor that could not be set up is shut before it is closed. -/
  | undoing (held : List Descriptor)
  | leaving (held : List Descriptor)
  deriving DecidableEq, Repr

def hold (c : Call) (held : List Descriptor) : List Descriptor :=
  match c.closing? with
  | some _ => held.tail
  | none => c.obtained?.toList ++ held

namespace Agenda

def held : Agenda → List Descriptor
  | going held _ => held
  | undoing held => held
  | leaving held => held

def duties : Agenda → List Duty
  | going _ duties => duties
  | _ => []

def isGoing : Agenda → Bool
  | going _ _ => true
  | _ => false

def request? : Agenda → Option Request
  | going held (d :: _) => d.request? held
  | undoing (fd :: _) => some (.shutdown fd .both)
  | leaving (fd :: _) => some (.close fd)
  | _ => none

def proceed (held : List Descriptor) (after : List Duty) (guarded : Bool) :
    Option (List Duty) → Agenda
  | some left => going held (left ++ after)
  | none => if guarded then undoing held else leaving held

def next (c : Call) : Agenda → Agenda
  | going held (d :: after) => proceed (hold c held) after d.guarded (d.left? c)
  | undoing held => leaving held
  | leaving held => leaving (hold c held)
  | g => g

/-- A call that an agenda asks for, and what becomes of the agenda.  Who is not patient may give up
on an interrupted transfer. -/
inductive Step (patient : Prop) : Agenda → Call → Agenda → Prop
  | answered {g : Agenda} {c : Call} (asked : g.request? = some c.request) :
      Step patient g c (g.next c)
  | tired {held : List Descriptor} {d : Duty} {after : List Duty} {c : Call}
      (impatient : ¬patient) (asked : d.request? held = some c.request)
      (again : d.left? c = some [d]) (interrupted : c.interrupted = true) :
      Step patient (going held (d :: after)) c (leaving held)

inductive Advance : Agenda → Call → Agenda → Prop
  | moves {held : List Descriptor} {d : Duty} {left after : List Duty} {c : Call}
      (moves : d.Moves held c left) :
      Advance (going held (d :: after)) c (going (hold c held) (left ++ after))
  | stops {held : List Descriptor} {d : Duty} {after : List Duty} {c : Call} {g : Agenda}
      (asked : d.request? held = some c.request) (stopped : g.isGoing = false)
      (holds : g.held = hold c held) : Advance (going held (d :: after)) c g
  | undoes {fd : Descriptor} {held : List Descriptor} {answer : Except NativeError Unit} :
      Advance (undoing (fd :: held)) ⟨.shutdown fd .both, answer⟩ (leaving (fd :: held))
  | leaves {fd : Descriptor} {held : List Descriptor} {answer : Except NativeError Unit} :
      Advance (leaving (fd :: held)) ⟨.close fd, answer⟩ (leaving held)

variable {patient : Prop} {g g' g'' : Agenda} {c : Call} {calls more : List Call}

theorem duties_of_stopped (stopped : g.isGoing = false) : g.duties = [] := by
  cases g with
  | going => cases stopped
  | _ => rfl

theorem Step.advance (step : Step patient g c g') : Advance g c g' := by
  cases step with
  | tired _ asked again interrupted =>
    refine .stops asked rfl ?_
    have moves := Duty.moves asked again
    generalize is : [_] = left at moves
    cases moves with
    | unsaid => rfl
    | unheard => rfl
    | shut => cases is
    | _ => cases interrupted
  | answered asked =>
    cases g with
    | going held duties =>
      cases duties with
      | nil => cases asked
      | cons d after =>
        change Advance _ c (proceed (hold c held) after d.guarded (d.left? c))
        cases leaves : d.left? c with
        | some left => exact .moves (Duty.moves asked leaves)
        | none =>
          rw [proceed]
          split
          · exact .stops asked rfl rfl
          · exact .stops asked rfl rfl
    | undoing held =>
      obtain ⟨r, answer⟩ := c
      cases held <;> cases asked
      exact .undoes
    | leaving held =>
      obtain ⟨r, answer⟩ := c
      cases held <;> cases asked
      exact .leaves

theorem next_moves {held : List Descriptor} {d : Duty} {left after : List Duty}
    (moves : d.Moves held c left) :
    (going held (d :: after)).next c = going (hold c held) (left ++ after) := by
  rw [next, moves.leaves, proceed]

theorem Step.moves {held : List Descriptor} {d : Duty} {left after : List Duty}
    (moves : d.Moves held c left) :
    Step patient (going held (d :: after)) c (going (hold c held) (left ++ after)) := by
  have step : Step patient (going held (d :: after)) c _ := .answered moves.asked
  rwa [next_moves moves] at step

theorem Step.fails {held : List Descriptor} {d : Duty} {after : List Duty}
    (asked : d.request? held = some c.request) (fails : d.left? c = none)
    (unguarded : d.guarded = false) :
    Step patient (going held (d :: after)) c (leaving (hold c held)) := by
  have step : Step patient (going held (d :: after)) c _ := .answered asked
  rw [next, fails, unguarded] at step
  exact step

namespace Advance

theorem held (advance : Advance g c g') : g'.held = hold c g.held := by
  cases advance with
  | stops _ _ holds => exact holds
  | _ => rfl

theorem closing {fd : Descriptor} (advance : Advance g c g') (closing : c.closing? = some fd) :
    g.held.head? = some fd := by
  cases advance with
  | moves moves => exact Duty.closing_of_asked moves.asked closing
  | stops asked => exact Duty.closing_of_asked asked closing
  | undoes => cases closing
  | leaves => exact closing

theorem balance (advance : Advance g c g') (fd : Descriptor) :
    (if c.obtained? = some fd then 1 else 0) + g.held.count fd =
      (if c.closing? = some fd then 1 else 0) + g'.held.count fd := by
  rw [advance.held, hold]
  cases closing : c.closing? with
  | none =>
    rw [List.count_append]
    cases c.obtained? <;> simp [List.count_singleton, beq_iff_eq]
  | some other =>
    have top := advance.closing closing
    rw [Call.obtained?_of_closing closing]
    cases held : g.held with
    | nil =>
      rw [held] at top
      cases top
    | cons fd' rest =>
      rw [held] at top
      cases top
      simp [List.count_cons, beq_iff_eq, Nat.add_comm]

theorem sent (advance : Advance g c g') :
    c.sent ++ g'.duties.flatMap Duty.due <+: g.duties.flatMap Duty.due := by
  cases advance with
  | moves moves =>
    rw [duties, List.flatMap_append, ← List.append_assoc, moves.sent]
    exact List.prefix_rfl
  | stops asked stopped =>
    rw [duties_of_stopped stopped, List.flatMap_nil, List.append_nil]
    exact (Duty.sent_of_asked asked).trans (List.prefix_append _ _)
  | undoes => exact List.prefix_rfl
  | leaves => exact List.prefix_rfl

theorem outgoing (advance : Advance g c g') (out : c.outgoing = true) :
    g.isGoing = true ∧ ∃ left after, g.duties = .say left :: after := by
  cases advance with
  | moves moves =>
    obtain ⟨left, rfl⟩ := Duty.outgoing_of_asked moves.asked out
    exact ⟨rfl, left, _, rfl⟩
  | stops asked =>
    obtain ⟨left, rfl⟩ := Duty.outgoing_of_asked asked out
    exact ⟨rfl, left, _, rfl⟩
  | undoes => cases out
  | leaves => cases out

end Advance

inductive Runs (patient : Prop) : Agenda → List Call → Agenda → Prop
  | nil (g : Agenda) : Runs patient g [] g
  | cons {g g' g'' : Agenda} {c : Call} {calls : List Call} (step : Step patient g c g')
      (rest : Runs patient g' calls g'') : Runs patient g (c :: calls) g''

namespace Runs

theorem one (step : Step patient g c g') : Runs patient g [c] g' := .cons step (.nil g')

theorem trans (first : Runs patient g calls g') (second : Runs patient g' more g'') :
    Runs patient g (calls ++ more) g'' := by
  induction first with
  | nil => exact second
  | cons step _ ih => exact .cons step (ih second)

theorem split (runs : Runs patient g (calls ++ more) g'') :
    ∃ g', Runs patient g calls g' ∧ Runs patient g' more g'' := by
  induction calls generalizing g with
  | nil => exact ⟨g, .nil g, runs⟩
  | cons c calls ih =>
    cases runs with
    | cons step rest =>
      obtain ⟨g', first, second⟩ := ih rest
      exact ⟨g', .cons step first, second⟩

theorem stopped (runs : Runs patient g calls g') (stopped : g.isGoing = false) :
    g'.isGoing = false := by
  induction runs with
  | nil => exact stopped
  | cons step _ ih =>
    apply ih
    cases step.advance with
    | moves => cases stopped
    | stops => cases stopped
    | undoes => rfl
    | leaves => rfl

theorem balance (runs : Runs patient g calls g') (fd : Descriptor) :
    calls.countP (·.obtained? = some fd) + g.held.count fd =
      calls.countP (·.closing? = some fd) + g'.held.count fd := by
  induction runs with
  | nil => rfl
  | cons step _ ih =>
    have balance := step.advance.balance fd
    simp only [List.countP_cons, decide_eq_true_eq]
    omega

theorem sent (runs : Runs patient g calls g') :
    calls.flatMap Call.sent <+: g.duties.flatMap Duty.due := by
  induction runs with
  | nil => exact List.nil_prefix
  | cons step _ ih =>
    rw [List.flatMap_cons]
    exact ((List.prefix_append_right_inj _).mpr ih).trans step.advance.sent

/-- What each call contributes to its duty makes up, on the way, all that the duties were for. -/
theorem fulfils {α : Type} {f : Call → List α} {e : Duty → List α}
    (each : ∀ {d held c left}, Duty.Moves d held c left → f c ++ left.flatMap e = e d)
    (runs : Runs patient g calls g') (going : g'.isGoing = true) :
    calls.flatMap f ++ g'.duties.flatMap e = g.duties.flatMap e := by
  -- An agenda that still goes has never stopped, so every call so far has moved a duty.
  induction runs with
  | nil => rfl
  | @cons g g' g'' c calls step rest ih =>
    cases alive : g'.isGoing with
    | false =>
      rw [rest.stopped alive] at going
      cases going
    | true =>
      rw [List.flatMap_cons, List.append_assoc, ih going]
      cases step.advance with
      | moves moves =>
        rw [duties, List.flatMap_append, ← List.append_assoc, each moves, duties,
          List.flatMap_cons]
      | stops _ stopped =>
        rw [alive] at stopped
        cases stopped
      | undoes => cases alive
      | leaves => cases alive

theorem heard {eager : Bool} {got : List UInt8} (runs : Runs patient g calls g')
    (going : g'.isGoing = true) (heard : Duty.Heard eager got g.duties) :
    Duty.Heard eager (got ++ calls.flatMap Call.got) g'.duties := by
  induction runs generalizing got with
  | nil =>
    rw [List.flatMap_nil, List.append_nil]
    exact heard
  | @cons g g' g'' c calls step rest ih =>
    rw [List.flatMap_cons, ← List.append_assoc]
    apply ih going
    cases alive : g'.isGoing with
    | false =>
      rw [rest.stopped alive] at going
      cases going
    | true =>
      cases step.advance with
      | moves moves => exact moves.hears heard
      | stops _ stopped =>
        rw [alive] at stopped
        cases stopped
      | undoes => cases alive
      | leaves => cases alive

end Runs

end Agenda

open Agenda (Runs)

namespace Mode

def duties : Mode → List Duty
  | server name =>
    [.create, .bind (.here name), .listen, .accept, .say pattern, .hear [], .shut, .close, .shut,
      .close]
  | client cpu name => [.create, .connect ⟨cpu, name⟩, .hear [], .say pattern, .shut, .close]

def eager : Mode → Bool
  | server _ => true
  | client _ _ => false

def descriptors : Mode → Nat
  | server _ => 2
  | client _ _ => 1

def agenda (mode : Mode) : Agenda := .going [] mode.duties

theorem due_duties (mode : Mode) : mode.duties.flatMap Duty.due = pattern := by
  cases mode <;> rfl

theorem ends_duties (mode : Mode) :
    mode.duties.flatMap Duty.ends = List.replicate mode.descriptors (.ok ()) := by
  cases mode <;> rfl

theorem heard_duties (mode : Mode) : Duty.Heard mode.eager [] mode.duties := by
  cases mode with
  | server name => exact ⟨nofun, rfl, rfl⟩
  | client cpu name => exact ⟨rfl, fun _ => rfl, rfl⟩

end Mode

/-- Calls by which a part in the round trip does no harm, however it ends. -/
structure Safe (mode : Mode) (calls : List Call) (r : Except Report Unit) : Prop where
  sent : calls.flatMap Call.sent <+: pattern
  /-- A client answers nothing but the pattern. -/
  hears : mode.eager = false → ∀ before c after, calls = before ++ c :: after →
    c.outgoing = true → before.flatMap Call.got = pattern
  done : r = .ok () → calls.flatMap Call.got = pattern ∧ calls.flatMap Call.sent = pattern ∧
    calls.flatMap Call.closings = List.replicate mode.descriptors (.ok ())
  closes : ∀ fd, calls.countP (·.closing? = some fd) = calls.countP (·.obtained? = some fd)
  /-- Nothing is closed that was not obtained before. -/
  obtains : ∀ before after, calls = before ++ after → ∀ fd,
    before.countP (·.closing? = some fd) ≤ before.countP (·.obtained? = some fd)

def Agenda.ended : Except Report Unit → Agenda
  | .ok _ => going [] []
  | .error _ => leaving []

theorem Agenda.held_ended (r : Except Report Unit) : (ended r).held = [] := by
  cases r <;> rfl

theorem Agenda.request?_ended (r : Except Report Unit) : (ended r).request? = none := by
  cases r <;> rfl

theorem Mode.safe {patient : Prop} {mode : Mode} {calls : List Call} {r : Except Report Unit}
    (runs : Runs patient mode.agenda calls (.ended r)) : Safe mode calls r where
  sent := by
    have sent := runs.sent
    rwa [agenda, Agenda.duties, due_duties] at sent
  hears reserved before c after is out := by
    subst is
    obtain ⟨g₁, first, second⟩ := runs.split
    cases second with
    | cons step rest =>
      obtain ⟨going, left, more, duties⟩ := step.advance.outgoing out
      have heard := first.heard going mode.heard_duties
      rw [duties] at heard
      exact heard.1 reserved
  done ok := by
    subst ok
    rw [Agenda.ended] at runs
    have sent := runs.fulfils Duty.Moves.sent rfl
    have closings := runs.fulfils Duty.Moves.closings rfl
    rw [agenda, Agenda.duties, Agenda.duties, List.flatMap_nil, List.append_nil] at sent closings
    exact ⟨runs.heard rfl mode.heard_duties, sent.trans mode.due_duties,
      closings.trans mode.ends_duties⟩
  closes fd := by
    have balance := runs.balance fd
    rw [Agenda.held_ended, agenda, Agenda.held] at balance
    exact balance.symm
  obtains before after is fd := by
    subst is
    obtain ⟨g₁, first, _⟩ := runs.split
    have balance := first.balance fd
    rw [agenda, Agenda.held, List.count_nil] at balance
    omega

end ProcessorSockets.Echo
