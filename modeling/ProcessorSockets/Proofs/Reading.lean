import Mathlib.Data.Nat.Find
import ProcessorSockets.Proofs.Conduct.Transfer
import ProcessorSockets.Proofs.Law.Service
import ProcessorSockets.Transport.Scripted

namespace ProcessorSockets

open World (Called)

variable {σ : Type}

abbrev Reading := Except NativeError (List UInt8)

namespace Reading

def bytes : Reading → List UInt8
  | .ok bytes => bytes
  | .error _ => []

def interrupted : Reading → Bool
  | .ok _ => false
  | .error e => e.isInterrupted

def ends : Reading → Bool
  | .ok bytes => bytes.isEmpty
  | .error e => !e.isInterrupted

@[simp] theorem bytes_ok (bytes : List UInt8) : Reading.bytes (.ok bytes) = bytes := rfl

@[simp] theorem bytes_error (e : NativeError) : Reading.bytes (.error e) = [] := rfl

variable (o : Nat → Reading)

def delivered (k : Nat) : List UInt8 := (List.range k).flatMap fun i => (o i).bytes

def interruptions (k : Nat) : Nat := (List.range k).countP fun i => (o i).interrupted

def Done (n k : Nat) : Prop := n ≤ (delivered o k).length ∨ ∃ i < k, (o i).ends = true

instance (n k : Nat) : Decidable (Done o n k) := inferInstanceAs (Decidable (_ ∨ _))

/-- With so many readings it is done, and not with fewer. -/
structure Finishes (n k : Nat) : Prop where
  done : Done o n k
  first : ∀ j < k, ¬Done o n j

def Fits (n k : Nat) : Prop := ∀ i < k, (o i).bytes.length ≤ n - (delivered o i).length

instance (n k : Nat) : Decidable (Fits o n k) := inferInstanceAs (Decidable (∀ i < k, _))

inductive Concludes (n : Nat) : Nat → Except SocketError Unit → Prop
  | full {k : Nat} (full : (delivered o k).length = n) : Concludes n k (.ok ())
  | ended {k : Nat} (short : (delivered o (k + 1)).length < n) (last : o k = .ok []) :
      Concludes n (k + 1)
        (.error (.native "read" (.described .unexpectedEof "peer closed the stream")))
  | failed {k : Nat} {e : NativeError} (short : (delivered o (k + 1)).length < n)
      (last : o k = .error e) (firm : e.isInterrupted = false) :
      Concludes n (k + 1) (.error (.native "read" e))

def calls (fd : Descriptor) (n k : Nat) : List Call :=
  (List.range k).map fun i => ⟨.read fd (n - (delivered o i).length), o i⟩

variable {o} {n k : Nat}

theorem delivered_succ : delivered o (k + 1) = (o 0).bytes ++ delivered (fun i => o (i + 1)) k := by
  rw [delivered, List.range_succ_eq_map, List.flatMap_cons, List.flatMap_map]
  rfl

theorem delivered_one (none : (o 0).bytes = []) : delivered o 1 = [] := by
  rw [delivered_succ, none]
  rfl

theorem short_one (some : n ≠ 0) (none : (o 0).bytes = []) : (delivered o 1).length < n := by
  rw [delivered_one none]
  exact Nat.pos_of_ne_zero some

theorem delivered_snoc : delivered o (k + 1) = delivered o k ++ (o k).bytes := by
  rw [delivered, List.range_succ, List.flatMap_append, List.flatMap_singleton]
  rfl

theorem length_delivered_mono {j : Nat} (le : j ≤ k) :
    (delivered o j).length ≤ (delivered o k).length := by
  induction le with
  | refl => exact Nat.le_refl _
  | step _ ih =>
    rw [delivered_snoc, List.length_append]
    exact Nat.le_add_right_of_le ih

theorem interruptions_succ : interruptions o (k + 1) =
    interruptions (fun i => o (i + 1)) k + if (o 0).interrupted then 1 else 0 := by
  rw [interruptions, List.range_succ_eq_map, List.countP_cons, List.countP_map]
  rfl

theorem patient_tail {patience : Nat} (patient : interruptions o (k + 1) ≤ patience) :
    interruptions (fun i => o (i + 1)) k ≤ patience := by
  rw [interruptions_succ] at patient
  exact Nat.le_of_add_right_le patient

theorem patient_again {patience : Nat} (interrupted : (o 0).interrupted = true)
    (patient : interruptions o (k + 1) ≤ patience + 1) :
    interruptions (fun i => o (i + 1)) k ≤ patience := by
  rw [interruptions_succ, if_pos interrupted] at patient
  exact Nat.le_of_add_le_add_right patient

theorem firm_of_patient {patience : Nat} {e : NativeError} (first : o 0 = .error e)
    (why : patience = 0 ∨ e.isInterrupted = false) (patient : interruptions o (k + 1) ≤ patience) :
    e.isInterrupted = false := by
  obtain rfl | firm := why
  · have heard := Nat.le_of_add_left_le (interruptions_succ ▸ patient)
    simpa [first, interrupted] using heard
  · exact firm

theorem calls_succ {fd : Descriptor} : calls o fd n (k + 1) =
    ⟨.read fd n, o 0⟩ :: calls (fun i => o (i + 1)) fd (n - (o 0).bytes.length) k := by
  rw [calls, List.range_succ_eq_map, List.map_cons, List.map_map]
  refine congrArg (_ :: ·) (List.map_congr_left fun i _ => ?_)
  change (⟨.read fd (n - (delivered o (i + 1)).length), o (i + 1)⟩ : Call) = _
  rw [delivered_succ, List.length_append, Nat.sub_add_eq]

theorem Fits.tail (fits : Fits o n (k + 1)) :
    Fits (fun i => o (i + 1)) (n - (o 0).bytes.length) k := by
  intro i inside
  have fit := fits (i + 1) (Nat.succ_lt_succ inside)
  rwa [delivered_succ, List.length_append, Nat.sub_add_eq] at fit

theorem Fits.head (fits : Fits o n (k + 1)) : (o 0).bytes.length ≤ n := fits 0 (Nat.succ_pos k)

theorem done_zero : Done o n 0 ↔ n = 0 := by simp [Done, delivered]

theorem done_succ (goes : (o 0).ends = false) :
    Done o n (k + 1) ↔ Done (fun i => o (i + 1)) (n - (o 0).bytes.length) k := by
  have later : (∃ i < k + 1, (o i).ends = true) ↔ ∃ i < k, (o (i + 1)).ends = true := by
    constructor
    · rintro ⟨_ | i, inside, ends⟩
      · rw [goes] at ends
        cases ends
      · exact ⟨i, Nat.lt_of_succ_lt_succ inside, ends⟩
    · rintro ⟨i, inside, ends⟩
      exact ⟨i + 1, Nat.succ_lt_succ inside, ends⟩
  rw [Done, Done, later, delivered_succ, List.length_append, Nat.sub_le_iff_le_add']

namespace Finishes

theorem eq_zero (finishes : Finishes o 0 k) : k = 0 := by
  cases k with
  | zero => rfl
  | succ k => exact absurd (done_zero.mpr rfl) (finishes.first 0 (Nat.succ_pos k))

theorem pos (finishes : Finishes o n k) (some : n ≠ 0) : ∃ j, k = j + 1 := by
  cases k with
  | zero => exact absurd (done_zero.mp finishes.done) some
  | succ j => exact ⟨j, rfl⟩

theorem eq_one (finishes : Finishes o n (k + 1)) (ends : (o 0).ends = true) : k = 0 := by
  cases k with
  | zero => rfl
  | succ k => exact absurd (.inr ⟨0, Nat.one_pos, ends⟩) (finishes.first 1 (by omega))

theorem tail (finishes : Finishes o n (k + 1)) (goes : (o 0).ends = false) :
    Finishes (fun i => o (i + 1)) (n - (o 0).bytes.length) k where
  done := (done_succ goes).mp finishes.done
  first j before done :=
    finishes.first (j + 1) (Nat.succ_lt_succ before) ((done_succ goes).mpr done)

end Finishes

theorem Concludes.before {r : Except SocketError Unit} (fit : (o 0).bytes.length ≤ n)
    (concludes : Concludes (fun i => o (i + 1)) (n - (o 0).bytes.length) k r) :
    Concludes o n (k + 1) r := by
  have length (k : Nat) : (delivered o (k + 1)).length =
      (o 0).bytes.length + (delivered (fun i => o (i + 1)) k).length := by
    rw [delivered_succ, List.length_append]
  cases concludes with
  | full full => exact .full (by rw [length, full, Nat.add_sub_cancel' fit])
  | ended short last => exact .ended (by rw [length]; omega) last
  | failed short last firm => exact .failed (by rw [length]; omega) last firm

theorem length_pos {r : Reading} (heard : r.interrupted = false) (goes : r.ends = false) :
    0 < r.bytes.length := by
  rcases r with e | _ | ⟨b, bs⟩
  · simp [ends, show e.isInterrupted = false from heard] at goes
  · cases goes
  · exact Nat.succ_pos _

/-- Where interruptions do not go on for ever, it is done at some time. -/
theorem finishes_of_lively (n : Nat) (lively : ∀ i, ∃ j, i ≤ j ∧ (o j).interrupted = false) :
    ∃ k, Finishes o n k := by
  have done : ∃ k, Done o n k := by
    induction n with
    | zero => exact ⟨0, done_zero.mpr rfl⟩
    | succ n ih =>
      obtain ⟨k, full | ⟨i, before, ends⟩⟩ := ih
      · -- The next reading that is not interrupted brings something, or is the end.
        obtain ⟨j, later, heard⟩ := lively k
        refine ⟨j + 1, ?_⟩
        cases ends : (o j).ends with
        | true => exact .inr ⟨j, Nat.lt_succ_self j, ends⟩
        | false =>
          have some := length_pos heard ends
          have more := length_delivered_mono (o := o) later
          rw [Done, delivered_snoc, List.length_append]
          exact .inl (by omega)
      · exact ⟨k, .inr ⟨i, before, ends⟩⟩
  classical
  exact ⟨Nat.find done, Nat.find_spec done, fun j before => Nat.find_min done before⟩

end Reading

namespace Transport

/-- A transport that has given readings to give, one after the other, to whoever reads from a
descriptor and asks for enough. -/
def Plays (T : Transport σ) (fd : Descriptor) (o : Nat → Reading) (states : Nat → σ) : Prop :=
  ∀ i n, n ≠ 0 → (o i).bytes.length ≤ n → (T.handle (.read fd n) (states i)).reply = o i ∧
    (T.handle (.read fd n) (states i)).state = states (i + 1)

end Transport

namespace Scripted

def Outcome.reading : Outcome → Reading
  | .failure e => .error e
  | .bytes bs => .ok bs
  | _ => .ok []

def State.afterReads (s : State) : Nat → State
  | 0 => s
  | i + 1 => ((s.afterReads i).take .read).2

def State.reading (s : State) (i : Nat) : Reading := ((s.afterReads i).take .read).1.reading

theorem plays (s : State) (fd : Descriptor) : transport.Plays fd s.reading s.afterReads := by
  intro i n _ fit
  rw [State.reading] at fit ⊢
  rw [State.afterReads]
  simp only [transport, handle, Request.method]
  generalize (s.afterReads i).take .read = taken at fit ⊢
  obtain ⟨outcome, next⟩ := taken
  cases outcome with
  | bytes bs => exact ⟨congrArg Except.ok (List.take_of_length_le fit), rfl⟩
  | _ => exact ⟨rfl, rfl⟩

end Scripted

namespace Reading

variable {o : Nat → Reading} {states : Nat → σ} {fd : Descriptor} {n k : Nat} {calls : List Call}
  {bytes : List UInt8} {r : Except SocketError Unit} {t : σ}

/-- Of the readings that there are to come, just so many were called for, and this is what was made
of them. -/
structure Used (o : Nat → Reading) (states : Nat → σ) (fd : Descriptor) (n k : Nat)
    (calls : List Call) (bytes : List UInt8) (r : Except SocketError Unit) (t : σ) : Prop where
  calls : calls = Reading.calls o fd n k
  bytes : bytes = delivered o k
  concludes : Concludes o n k r
  state : t = states k

theorem Used.none : Used o states fd 0 0 [] [] (.ok ()) (states 0) where
  calls := rfl
  bytes := rfl
  concludes := .full rfl
  state := rfl

theorem Used.last (none : (o 0).bytes = []) (concludes : Concludes o n 1 r) :
    Used o states fd n 1 [⟨.read fd n, o 0⟩] [] r (states 1) where
  calls := by rw [calls_succ]; rfl
  bytes := (delivered_one none).symm
  concludes := concludes
  state := rfl

theorem Used.before (fit : (o 0).bytes.length ≤ n)
    (used : Used (fun i => o (i + 1)) (fun i => states (i + 1)) fd (n - (o 0).bytes.length) k calls
      bytes r t) :
    Used o states fd n (k + 1) (⟨.read fd n, o 0⟩ :: calls) ((o 0).bytes ++ bytes) r t where
  calls := by rw [calls_succ, used.calls]
  bytes := by rw [delivered_succ, used.bytes]
  concludes := used.concludes.before fit
  state := used.state

end Reading

namespace Call.Fills

open Reading (Concludes Finishes Fits Used interruptions)

variable {T : Transport σ} {fd : Descriptor} {o : Nat → Reading} {states : Nat → σ} {t : σ}
  {patience n k : Nat} {calls : List Call} {bytes : List UInt8} {r : Except SocketError Unit}

theorem plays_head {answer : Reading} (plays : T.Plays fd o states) (some : n ≠ 0)
    (fits : Fits o n (k + 1)) (serves : T.Serves (states 0) (⟨.read fd n, answer⟩ :: calls) t) :
    o 0 = answer ∧ T.Serves (states 1) calls t := by
  rw [Transport.serves_cons] at serves
  obtain ⟨reply, state⟩ := plays 0 n some fits.head
  exact ⟨reply.symm.trans serves.1, state ▸ serves.2⟩

theorem plays (fills : Fills fd patience n calls bytes r) (serves : T.Serves (states 0) calls t)
    (plays : T.Plays fd o states) (finishes : Finishes o n k) (fits : Fits o n k)
    (patient : interruptions o k ≤ patience) : Used o states fd n k calls bytes r t := by
  -- The first of the readings is that of the first call; the others are those of the rest.
  induction fills generalizing o states k with
  | done =>
    obtain rfl := finishes.eq_zero
    obtain rfl := Transport.serves_nil.mp serves
    exact .none
  | ended some =>
    obtain ⟨k, rfl⟩ := finishes.pos some
    obtain ⟨first, rest⟩ := plays_head plays some fits serves
    obtain rfl := finishes.eq_one (by rw [first]; rfl)
    obtain rfl := Transport.serves_nil.mp rest
    have none : (o 0).bytes = [] := by rw [first]; rfl
    rw [← first]
    exact .last none (.ended (Reading.short_one some none) first)
  | @part patience n b bs bytes rest r some _ ih =>
    obtain ⟨k, rfl⟩ := finishes.pos some
    obtain ⟨first, rest⟩ := plays_head plays some fits serves
    have goes : (o 0).ends = false := by rw [first]; rfl
    have left : n - (bs.length + 1) = n - (o 0).bytes.length := by rw [first]; rfl
    have patient := Reading.patient_tail patient
    rw [left] at ih
    have used := ih rest (fun i => plays (i + 1)) (finishes.tail goes) fits.tail patient
    simpa [first] using used.before fits.head
  | @failed patience n e some why =>
    obtain ⟨k, rfl⟩ := finishes.pos some
    obtain ⟨first, rest⟩ := plays_head plays some fits serves
    obtain rfl := Transport.serves_nil.mp rest
    have firm := Reading.firm_of_patient first why patient
    obtain rfl := finishes.eq_one (by simp [first, Reading.ends, firm])
    have none : (o 0).bytes = [] := by rw [first]; rfl
    rw [← first]
    exact .last none (.failed (Reading.short_one some none) first firm)
  | @again patience n e rest bytes r some interrupted _ ih =>
    obtain ⟨k, rfl⟩ := finishes.pos some
    obtain ⟨first, rest⟩ := plays_head plays some fits serves
    have goes : (o 0).ends = false := by simp [first, Reading.ends, interrupted]
    have left : n = n - (o 0).bytes.length := by rw [first]; rfl
    have patient := Reading.patient_again (by rw [first]; exact interrupted) patient
    rw [left] at ih
    have used := ih rest (fun i => plays (i + 1)) (finishes.tail goes) fits.tail patient
    simpa [first] using used.before fits.head

end Call.Fills

namespace Endpoint

variable (L : Link σ) (ep : Endpoint)

def overwritten (buffer : List UInt8) (position : Nat) (bytes : List UInt8) : List UInt8 :=
  buffer.take position ++ bytes ++ buffer.drop (position + bytes.length)

theorem overwritten_append (front back bytes : List UInt8) :
    overwritten (front ++ back) front.length bytes = front ++ bytes ++ back.drop bytes.length := by
  rw [overwritten, List.take_left, List.drop_length_add_append]

theorem missing_overwritten {buffer : List UInt8} {position : Nat} {bytes : List UInt8}
    (inside : position < buffer.length) (some : bytes ≠ []) :
    (overwritten buffer position bytes).length - (position + bytes.length) <
      buffer.length - position := by
  have some := List.length_pos_iff.mpr some
  simp only [overwritten, List.length_append, List.length_take, List.length_drop]
  omega

def receiveInto (patience : Nat) (buffer : List UInt8) (position : Nat) :
    StateM (World σ) (List UInt8 × Except SocketError Unit) := fun w =>
  if position < buffer.length then
    match ep.receive L (buffer.length - position) w with
    | (.ok [], w) =>
      ((buffer, .error (.native "read" (.described .unexpectedEof "peer closed the stream"))), w)
    | (.ok (b :: bs), w) =>
      receiveInto patience (overwritten buffer position (b :: bs)) (position + (bs.length + 1)) w
    | (.error e, w) =>
      match patience with
      | 0 => ((buffer, .error e), w)
      | patience + 1 =>
        if e.isInterrupted then receiveInto patience buffer position w else ((buffer, .error e), w)
  else ((buffer, .ok ()), w)
  termination_by (patience, buffer.length - position)
  decreasing_by
    · exact .right _ (missing_overwritten ‹_› (List.cons_ne_nil b bs))
    · exact .left _ _ (Nat.lt_succ_self _)

theorem receiveInto_append (patience : Nat) (front back : List UInt8) (w : World σ) :
    ep.receiveInto L patience (front ++ back) front.length w =
      let ((bytes, r), w') := ep.receiveAll L patience back.length w
      ((front ++ bytes ++ back.drop bytes.length, r), w') := by
  rw [receiveInto, receiveAll, List.length_append, Nat.add_sub_cancel_left]
  by_cases none : back = []
  · simp [none]
  have some := List.length_pos_iff.mpr none
  rw [if_pos (Nat.lt_add_of_pos_right some), if_neg (Nat.ne_of_gt some)]
  rcases ep.receive L back.length w with ⟨e | _ | ⟨b, bs⟩, w₁⟩
  · cases patience with
    | zero => simp
    | succ patience =>
      dsimp only
      split
      case isTrue => exact receiveInto_append patience front back w₁
      case isFalse => simp
  · simp
  · have rest := receiveInto_append patience (front ++ b :: bs) (back.drop (bs.length + 1)) w₁
    rw [List.length_drop, List.length_append, List.length_cons] at rest
    dsimp only
    rw [overwritten_append, List.length_cons, rest]
    rcases ep.receiveAll L patience (back.length - (bs.length + 1)) w₁ with ⟨⟨bytes, r⟩, w₂⟩
    simp [List.drop_drop, Nat.add_right_comm]
  termination_by (patience, back.length)

end Endpoint

namespace InputStream

open Reading (Concludes Finishes Fits Used delivered interruptions)

def readInto (L : Link σ) (s : InputStream) (buffer : List UInt8) :
    StateM (World σ) (List UInt8 × Except SocketError Unit) := fun w =>
  s.endpoint.receiveInto L (L.patience w) buffer 0 w

theorem readInto_eq (L : Link σ) (s : InputStream) (buffer : List UInt8) (w : World σ) :
    s.readInto L buffer w =
      let ((bytes, r), w') := s.readExact L buffer.length w
      ((bytes ++ buffer.drop bytes.length, r), w') :=
  s.endpoint.receiveInto_append L (L.patience w) [] buffer w

theorem used_readExact {T : Transport σ} {s : InputStream} {fd : Descriptor} {o : Nat → Reading}
    {states : Nat → σ} {n k : Nat} (plays : T.Plays fd o states) (finishes : Finishes o n k)
    (fits : Fits o n k) (patient : interruptions o k ≤ T.patience (states 0)) {w : World σ}
    (quiet : w.disturbances = []) (has : (w.handle s.endpoint).fd = some fd)
    (start : w.transport = states 0) :
    ∃ calls, w.Called (some s.endpoint) calls (s.readExact (.disturbed T) n w).2 ∧
      Used o states fd n k calls (s.readExact (.disturbed T) n w).1.1
        (s.readExact (.disturbed T) n w).1.2 (s.readExact (.disturbed T) n w).2.transport := by
  rw [← start] at patient
  obtain ⟨calls, called, fills⟩ := Endpoint.fills_receiveAll (Link.straight_disturbed T)
    (T.patience w.transport) n quiet has
  have kept := (Service.admits (T := T) s.endpoint).receiveAll (T.patience w.transport) n w trivial
  refine ⟨calls, called, fills.plays ?_ plays finishes fits patient⟩
  rw [← start]
  exact called.serves kept

/-- Whatever reads come to, a whole buffer is read with just as many of them as bring it or end it,
each for what is missing then; what they brought lies in the buffer, which is else as it was, and
the last of them tells how the reading ends.  It does end unless it is interrupted for ever, and for
an empty buffer nothing is read at all. -/
theorem reads_exactly {T : Transport σ} {fd : Descriptor} {o : Nat → Reading} {states : Nat → σ}
    (plays : T.Plays fd o states) (s : InputStream) (buffer : List UInt8) :
    ((∀ i, ∃ j, i ≤ j ∧ (o j).interrupted = false) → ∃ k, Finishes o buffer.length k) ∧
    (∀ k, Finishes o buffer.length k → Fits o buffer.length k →
      interruptions o k ≤ T.patience (states 0) →
        ∀ w : World σ, w.disturbances = [] → (w.handle s.endpoint).fd = some fd →
          w.transport = states 0 →
            ∃ r w', s.readInto (.disturbed T) buffer w =
                ((delivered o k ++ buffer.drop (delivered o k).length, r), w') ∧
              Concludes o buffer.length k r ∧
              w.Called (some s.endpoint) (Reading.calls o fd buffer.length k) w' ∧
              w'.transport = states k ∧
              s.readExact (.disturbed T) buffer.length w = ((delivered o k, r), w')) ∧
    (∀ (L : Link σ) (w : World σ), s.readInto L [] w = (([], .ok ()), w)) := by
  refine ⟨Reading.finishes_of_lively buffer.length, ?_, fun L w => ?_⟩
  · intro k finishes fits patient w quiet has start
    obtain ⟨calls, called, used⟩ := used_readExact plays finishes fits patient quiet has start
    rw [readInto_eq]
    generalize s.readExact (.disturbed T) buffer.length w = run at called used
    obtain ⟨⟨bytes, r⟩, w'⟩ := run
    obtain ⟨rfl, rfl, concludes, state⟩ := used
    exact ⟨r, w', rfl, concludes, called, state, rfl⟩
  · rw [readInto, Endpoint.receiveInto]
    rfl

theorem reads_exactly_interrupted :
    let script : Scripted.State := {
      outcomes := fun
        | .read => [.bytes [1, 2], .failure (.os Errno.interrupted), .bytes [3]]
        | _ => [] }
    let w : World Scripted.State := {
      transport := script
      endpoints := [{ handle := .owning 5 }] }
    let s : InputStream := ⟨⟨0⟩, 0⟩
    ∃ r w', s.readInto (.disturbed Scripted.transport) [9, 9, 9, 9] w = (([1, 2, 3, 9], r), w') ∧
      Concludes script.reading 4 4 r ∧
      w.Called (some s.endpoint) [
        ⟨.read 5 4, .ok [1, 2]⟩,
        ⟨.read 5 2, .error (.os Errno.interrupted)⟩,
        ⟨.read 5 2, .ok [3]⟩,
        ⟨.read 5 1, .ok []⟩] w' := by
  intro script w s
  obtain ⟨-, reads, -⟩ := reads_exactly (Scripted.plays script 5) s [9, 9, 9, 9]
  have finishes : Finishes script.reading 4 4 := ⟨by decide, by decide⟩
  obtain ⟨r, w', run, concludes, called, -⟩ :=
    reads 4 finishes (by decide) (by decide) w rfl rfl rfl
  exact ⟨r, w', run, concludes, called⟩

end InputStream

end ProcessorSockets
