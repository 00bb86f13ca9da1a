import ProcessorSockets.Echo.Program
import ProcessorSockets.Proofs.Pipe

namespace ProcessorSockets

namespace Call

def obtained? (c : Call) : Option Descriptor := c.created?.or c.accepted?

def closing? (c : Call) : Option Descriptor :=
  match c.request with
  | .close fd => some fd
  | _ => none

def closings : Call → List (Except NativeError Unit)
  | ⟨.close _, answer⟩ => [answer]
  | _ => []

theorem obtained?_of_closing {c : Call} {fd : Descriptor} (closing : c.closing? = some fd) :
    c.obtained? = none := by
  obtain ⟨r, answer⟩ := c
  cases r with
  | close => rfl
  | _ => cases closing

end Call

namespace Echo

inductive Duty
  | create
  | bind (a : Address)
  | listen
  | accept
  | connect (a : Address)
  /-- To write these bytes. -/
  | say (left : List UInt8)
  /-- To read the pattern, of which so much was read. -/
  | hear (heard : List UInt8)
  | shut
  | close
  deriving DecidableEq, Repr

namespace Duty

def request? : Duty → List Descriptor → Option Request
  | create, _ => some (.create 1 0)
  | _, [] => none
  | bind a, fd :: _ => some (.bind fd a)
  | listen, fd :: _ => some (.listen fd Limits.listenBacklog)
  | accept, fd :: _ => some (.accept fd)
  | connect a, fd :: _ => some (.connect fd a)
  | say left, fd :: _ => some (.write fd left)
  | hear heard, fd :: _ => some (.read fd (pattern.length - heard.length))
  | shut, fd :: _ => some (.shutdown fd .both)
  | close, fd :: _ => some (.close fd)

def saying (left : List UInt8) : List Duty := if left = [] then [] else [say left]

def hearing (heard : List UInt8) : Option (List Duty) :=
  if heard.length < pattern.length then some [hear heard]
  else if heard = pattern then some []
  else none

def left? (c : Call) : Duty → Option (List Duty)
  | say left =>
    match c with
    | ⟨.write _ _, .ok n⟩ => if n = 0 then none else some (saying (left.drop n))
    | _ => if c.interrupted then some [say left] else none
  | hear heard =>
    match c with
    | ⟨.read _ _, .ok bytes⟩ => if bytes = [] then none else hearing (heard ++ bytes)
    | _ => if c.interrupted then some [hear heard] else none
  | shut => some []
  | _ => if c.error? = none then some [] else none

def guarded : Duty → Bool
  | bind _ => true
  | listen => true
  | _ => false

/-- How a call brings a duty forward, and what it leaves of it. -/
inductive Moves : Duty → List Descriptor → Call → List Duty → Prop
  | created {held : List Descriptor} {fd : Descriptor} :
      Moves create held ⟨.create 1 0, .ok fd⟩ []
  | bound {held : List Descriptor} {fd : Descriptor} {a : Address} :
      Moves (bind a) (fd :: held) ⟨.bind fd a, .ok ()⟩ []
  | listening {held : List Descriptor} {fd : Descriptor} :
      Moves listen (fd :: held) ⟨.listen fd Limits.listenBacklog, .ok ()⟩ []
  | accepted {held : List Descriptor} {fd peer : Descriptor} :
      Moves accept (fd :: held) ⟨.accept fd, .ok peer⟩ []
  | connected {held : List Descriptor} {fd : Descriptor} {a : Address} :
      Moves (connect a) (fd :: held) ⟨.connect fd a, .ok ()⟩ []
  | said {held : List Descriptor} {fd : Descriptor} {left : List UInt8} {n : Nat} (some : n ≠ 0) :
      Moves (say left) (fd :: held) ⟨.write fd left, .ok n⟩ (saying (left.drop n))
  | unsaid {held : List Descriptor} {fd : Descriptor} {left : List UInt8} {e : NativeError}
      (interrupted : e.isInterrupted = true) :
      Moves (say left) (fd :: held) ⟨.write fd left, .error e⟩ [say left]
  | heard {held : List Descriptor} {fd : Descriptor} {heard bytes : List UInt8} {left : List Duty}
      (some : bytes ≠ []) (leaves : hearing (heard ++ bytes) = .some left) :
      Moves (hear heard) (fd :: held) ⟨.read fd (pattern.length - heard.length), .ok bytes⟩ left
  | unheard {held : List Descriptor} {fd : Descriptor} {heard : List UInt8} {e : NativeError}
      (interrupted : e.isInterrupted = true) :
      Moves (hear heard) (fd :: held) ⟨.read fd (pattern.length - heard.length), .error e⟩
        [hear heard]
  | shut {held : List Descriptor} {fd : Descriptor} {answer : Except NativeError Unit} :
      Moves shut (fd :: held) ⟨.shutdown fd .both, answer⟩ []
  | closed {held : List Descriptor} {fd : Descriptor} :
      Moves close (fd :: held) ⟨.close fd, .ok ()⟩ []

variable {d : Duty} {held : List Descriptor} {c : Call} {left : List Duty}

theorem answered {r : Request} {answer : Except NativeError r.Reply}
    (leaves : (if (Call.mk r answer).error? = none then some [] else none) = some left) :
    left = [] ∧ ∃ x, answer = .ok x := by
  cases answer with
  | error e => cases leaves
  | ok x =>
    cases leaves
    exact ⟨rfl, x, rfl⟩

theorem retried {interrupted : Bool}
    (leaves : (if interrupted then some [d] else none) = some left) :
    interrupted = true ∧ left = [d] := by
  cases interrupted with
  | false => cases leaves
  | true =>
    cases leaves
    exact ⟨rfl, rfl⟩

theorem moves (asked : d.request? held = some c.request) (leaves : d.left? c = some left) :
    d.Moves held c left := by
  obtain ⟨r, answer⟩ := c
  cases d with
  | create =>
    cases asked
    obtain ⟨rfl, fd, rfl⟩ := answered leaves
    exact .created
  | bind a =>
    cases held <;> cases asked
    obtain ⟨rfl, _, rfl⟩ := answered leaves
    exact .bound
  | listen =>
    cases held <;> cases asked
    obtain ⟨rfl, _, rfl⟩ := answered leaves
    exact .listening
  | accept =>
    cases held <;> cases asked
    obtain ⟨rfl, peer, rfl⟩ := answered leaves
    exact .accepted
  | connect a =>
    cases held <;> cases asked
    obtain ⟨rfl, _, rfl⟩ := answered leaves
    exact .connected
  | say bytes =>
    cases held <;> cases asked
    cases answer with
    | ok n =>
      obtain ⟨some, leaves⟩ := Option.ite_none_left_eq_some.mp leaves
      cases leaves
      exact .said some
    | error e =>
      obtain ⟨interrupted, rfl⟩ := retried leaves
      exact .unsaid interrupted
  | hear heard =>
    cases held <;> cases asked
    cases answer with
    | ok bytes =>
      obtain ⟨some, leaves⟩ := Option.ite_none_left_eq_some.mp leaves
      exact .heard some leaves
    | error e =>
      obtain ⟨interrupted, rfl⟩ := retried leaves
      exact .unheard interrupted
  | shut =>
    cases held <;> cases asked
    cases leaves
    exact .shut
  | close =>
    cases held <;> cases asked
    obtain ⟨rfl, _, rfl⟩ := answered leaves
    exact .closed

theorem Moves.asked (moves : d.Moves held c left) : d.request? held = some c.request := by
  cases moves <;> rfl

theorem Moves.leaves (moves : d.Moves held c left) : d.left? c = some left := by
  cases moves with
  | said some => exact if_neg some
  | unsaid interrupted => exact if_pos interrupted
  | heard some leaves => exact (if_neg some).trans leaves
  | unheard interrupted => exact if_pos interrupted
  | _ => rfl

def due : Duty → List UInt8
  | say left => left
  | _ => []

def ends : Duty → List (Except NativeError Unit)
  | close => [.ok ()]
  | _ => []

theorem flatMap_saying {α : Type} (f : Duty → List α) (nothing : f (say []) = [])
    (left : List UInt8) : (saying left).flatMap f = f (say left) := by
  rw [saying]
  split
  case isTrue empty => rw [empty, nothing, List.flatMap_nil]
  case isFalse => exact List.flatMap_singleton f _

theorem flatMap_hearing {α : Type} {f : Duty → List α}
    (nothing : ∀ heard, f (hear heard) = []) {heard : List UInt8}
    (leaves : hearing heard = some left) : left.flatMap f = [] := by
  rw [hearing] at leaves
  split at leaves
  case isTrue =>
    cases leaves
    exact (List.flatMap_singleton f _).trans (nothing heard)
  case isFalse =>
    obtain ⟨_, leaves⟩ := Option.ite_none_right_eq_some.mp leaves
    cases leaves
    rfl

theorem Moves.sent (moves : d.Moves held c left) : c.sent ++ left.flatMap due = d.due := by
  cases moves with
  | said =>
    rw [flatMap_saying due rfl]
    exact List.take_append_drop _ _
  | unsaid => exact List.append_nil _
  | heard _ leaves => exact flatMap_hearing (fun _ => rfl) leaves
  | _ => rfl

theorem Moves.closings (moves : d.Moves held c left) :
    c.closings ++ left.flatMap ends = d.ends := by
  cases moves with
  | said => exact flatMap_saying ends rfl _
  | heard _ leaves => exact flatMap_hearing (fun _ => rfl) leaves
  | _ => rfl

theorem sent_of_asked (asked : d.request? held = some c.request) : c.sent <+: d.due := by
  obtain ⟨r, answer⟩ := c
  cases d with
  | say left =>
    cases held <;> cases asked
    cases answer with
    | ok n => exact List.take_prefix n left
    | error e => exact List.nil_prefix
  | create =>
    cases asked
    exact List.nil_prefix
  | _ =>
    cases held <;> cases asked
    exact List.nil_prefix

theorem closing_of_asked {fd : Descriptor} (asked : d.request? held = some c.request)
    (closing : c.closing? = some fd) : held.head? = some fd := by
  obtain ⟨r, answer⟩ := c
  cases d with
  | close =>
    cases held <;> cases asked
    exact closing
  | create =>
    cases asked
    cases closing
  | _ =>
    cases held <;> cases asked
    cases closing

theorem outgoing_of_asked (asked : d.request? held = some c.request) (out : c.outgoing = true) :
    ∃ left, d = say left := by
  obtain ⟨r, answer⟩ := c
  cases d with
  | say left => exact ⟨left, rfl⟩
  | create =>
    cases asked
    cases out
  | _ =>
    cases held <;> cases asked
    cases out

/-- Whether duties make up for the rest of the pattern when so much of it was read.  Nothing is
written before it is all there, unless by somebody eager. -/
def Heard (eager : Bool) (got : List UInt8) : List Duty → Prop
  | [] => got = pattern
  | hear heard :: after => got = heard ∧ Heard eager pattern after
  | say _ :: after => (eager = false → got = pattern) ∧ Heard eager got after
  | _ :: after => Heard eager got after

theorem Moves.hears {eager : Bool} {got : List UInt8} {after : List Duty}
    (moves : d.Moves held c left) (heard : Heard eager got (d :: after)) :
    Heard eager (got ++ c.got) (left ++ after) := by
  cases moves with
  | said =>
    rw [Call.got_of_outgoing rfl, List.append_nil, saying]
    split
    case isTrue => exact heard.2
    case isFalse => exact heard
  | @heard _ fd before bytes left _ leaves =>
    obtain ⟨rfl, rest⟩ := heard
    rw [hearing] at leaves
    split at leaves
    case isTrue =>
      cases leaves
      exact ⟨rfl, rest⟩
    case isFalse =>
      obtain ⟨all, leaves⟩ := Option.ite_none_right_eq_some.mp leaves
      cases leaves
      change Heard eager (got ++ bytes) after
      rwa [all]
  | _ =>
    rw [show Call.got _ = [] from rfl, List.append_nil]
    exact heard

end Duty

end Echo

end ProcessorSockets
