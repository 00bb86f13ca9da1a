import Mathlib.Data.List.TakeDrop
import ProcessorSockets.Proofs.Pipe
import ProcessorSockets.Proofs.Reading

namespace ProcessorSockets

open World (Called)

variable {σ : Type}

/-- What a write comes to: how much it took. -/
abbrev Writing := Except NativeError Nat

namespace Writing

open Reading (Finishes Fits delivered interruptions)

def tally (writing : Writing) : Reading := writing.map fun n => List.replicate n 0

@[simp] theorem tally_ok (n : Nat) : tally (.ok n) = .ok (List.replicate n 0) := rfl

@[simp] theorem tally_error (e : NativeError) : tally (.error e) = .error e := rfl

variable (o : Nat → Writing)

def tallies (i : Nat) : Reading := (o i).tally

def accepted (k : Nat) : Nat := (delivered (tallies o) k).length

inductive Concludes (n : Nat) : Nat → Except SocketError Unit → Prop
  | full {k : Nat} (full : accepted o k = n) : Concludes n k (.ok ())
  | stuck {k : Nat} (short : accepted o (k + 1) < n) (last : o k = .ok 0) :
      Concludes n (k + 1) (.error (.native "write" (.bare .writeZero)))
  | failed {k : Nat} {e : NativeError} (short : accepted o (k + 1) < n) (last : o k = .error e)
      (firm : e.isInterrupted = false) : Concludes n (k + 1) (.error (.native "write" e))

def calls (fd : Descriptor) (buffer : List UInt8) (k : Nat) : List Call :=
  (List.range k).map fun i => ⟨.write fd (buffer.drop (accepted o i)), o i⟩

variable {o} {fd : Descriptor} {buffer : List UInt8} {n k : Nat} {r : Except SocketError Unit}

theorem accepted_succ : accepted o (k + 1) =
    (o 0).tally.bytes.length + accepted (fun i => o (i + 1)) k := by
  rw [accepted, Reading.delivered_succ, List.length_append]
  rfl

theorem accepted_snoc : accepted o (k + 1) = accepted o k + (o k).tally.bytes.length := by
  rw [accepted, Reading.delivered_snoc, List.length_append]
  rfl

theorem calls_succ : calls o fd buffer (k + 1) =
    ⟨.write fd buffer, o 0⟩ ::
      calls (fun i => o (i + 1)) fd (buffer.drop (o 0).tally.bytes.length) k := by
  rw [calls, List.range_succ_eq_map, List.map_cons, List.map_map]
  refine congrArg (_ :: ·) (List.map_congr_left fun i _ => ?_)
  change (⟨.write fd (buffer.drop (accepted o (i + 1))), o (i + 1)⟩ : Call) = _
  rw [accepted_succ, List.drop_drop]

theorem sent_write (fd : Descriptor) (bytes : List UInt8) (writing : Writing) :
    Call.sent ⟨.write fd bytes, writing⟩ = bytes.take writing.tally.bytes.length := by
  cases writing with
  | ok n =>
    rw [tally_ok, Reading.bytes_ok, List.length_replicate]
    rfl
  | error e => exact (List.take_zero).symm

theorem sent_calls : (calls o fd buffer k).flatMap Call.sent = buffer.take (accepted o k) := by
  induction k with
  | zero => rfl
  | succ k ih =>
    rw [calls, List.range_succ, List.map_append, List.flatMap_append, ← calls, ih,
      List.map_singleton, List.flatMap_singleton, sent_write, ← List.take_add, accepted_snoc]

theorem Concludes.before (fit : (o 0).tally.bytes.length ≤ n)
    (concludes : Concludes (fun i => o (i + 1)) (n - (o 0).tally.bytes.length) k r) :
    Concludes o n (k + 1) r := by
  cases concludes with
  | full full => exact .full (by rw [accepted_succ, full, Nat.add_sub_cancel' fit])
  | stuck short last => exact .stuck (by rw [accepted_succ]; omega) last
  | failed short last firm => exact .failed (by rw [accepted_succ]; omega) last firm

theorem Concludes.ok_iff (concludes : Concludes o n k r) : r = .ok () ↔ accepted o k = n := by
  cases concludes with
  | full full => exact ⟨fun _ => full, fun _ => rfl⟩
  | stuck short => exact ⟨nofun, fun full => absurd full (Nat.ne_of_lt short)⟩
  | failed short => exact ⟨nofun, fun full => absurd full (Nat.ne_of_lt short)⟩

theorem accepted_le (fits : Fits (tallies o) n k) : accepted o k ≤ n := by
  induction k with
  | zero => exact Nat.zero_le n
  | succ k ih =>
    have before := ih fun i inside => fits i (Nat.lt_succ_of_lt inside)
    have fit : (o k).tally.bytes.length ≤ n - accepted o k := fits k (Nat.lt_succ_self k)
    rw [accepted_snoc]
    omega

theorem Concludes.ok_iff_sent (concludes : Concludes o buffer.length k r)
    (fits : Fits (tallies o) buffer.length k) :
    r = .ok () ↔ (calls o fd buffer k).flatMap Call.sent = buffer := by
  rw [concludes.ok_iff, sent_calls, List.take_eq_self_iff]
  exact ⟨Nat.le_of_eq ∘ Eq.symm, fun all => Nat.le_antisymm (accepted_le fits) all⟩

theorem short_one (some : n ≠ 0) (none : (o 0).tally.bytes = []) : accepted o 1 < n :=
  Reading.short_one some none

end Writing

theorem Transport.Serves.unique {T : Transport σ} {calls : List Call} {t t' t'' : σ}
    (first : T.Serves t calls t') (second : T.Serves t calls t'') : t' = t'' := by
  induction first with
  | nil => exact (Transport.serves_nil.mp second).symm
  | cons _ _ ih => exact ih (Transport.serves_cons.mp second).2

namespace Call.Drains

open Reading (Finishes Fits interruptions)
open Writing (Concludes tallies)

variable {T : Transport σ} {fd : Descriptor} {o : Nat → Writing} {t t' t'' : σ}
  {patience k : Nat} {buffer : List UInt8} {calls : List Call} {r : Except SocketError Unit}

theorem serves_head {answer : Writing}
    (serves : T.Serves t (⟨.write fd buffer, answer⟩ :: calls) t')
    (given : T.Serves t (Writing.calls o fd buffer (k + 1)) t'') :
    answer = o 0 ∧ ∃ t₁, T.Serves t₁ calls t' ∧ T.Serves t₁ (Writing.calls (fun i => o (i + 1)) fd
      (buffer.drop (o 0).tally.bytes.length) k) t'' := by
  rw [Writing.calls_succ] at given
  obtain ⟨answers, rest⟩ := Transport.serves_cons.mp serves
  obtain ⟨answers', rest'⟩ := Transport.serves_cons.mp given
  exact ⟨answers.symm.trans answers', _, rest, rest'⟩

theorem given (drains : Drains fd patience buffer calls r) (serves : T.Serves t calls t')
    (given : T.Serves t (Writing.calls o fd buffer k) t'')
    (finishes : Finishes (tallies o) buffer.length k)
    (fits : Fits (tallies o) buffer.length k)
    (patient : interruptions (tallies o) k ≤ patience) :
    calls = Writing.calls o fd buffer k ∧ Concludes o buffer.length k r := by
  -- The first of the writings is that of the first call; the others are those of the rest.
  induction drains generalizing o t k with
  | done =>
    obtain rfl := finishes.eq_zero
    exact ⟨rfl, .full rfl⟩
  | @stuck patience b bs =>
    obtain ⟨k, rfl⟩ := finishes.pos (Nat.succ_ne_zero _)
    obtain ⟨first, -⟩ := serves_head serves given
    obtain rfl := finishes.eq_one (by rw [tallies, ← first]; rfl)
    have none : (o 0).tally.bytes = [] := by rw [← first]; rfl
    rw [Writing.calls_succ, first]
    exact ⟨rfl, .stuck (Writing.short_one (Nat.succ_ne_zero _) none) first.symm⟩
  | @part patience n b bs rest r _ ih =>
    obtain ⟨k, rfl⟩ := finishes.pos (Nat.succ_ne_zero _)
    obtain ⟨first, t₁, serves, given⟩ := serves_head serves given
    have goes : (tallies o 0).ends = false := by rw [tallies, ← first]; rfl
    have count : (o 0).tally.bytes.length = n + 1 := by
      rw [← first, Writing.tally_ok, Reading.bytes_ok, List.length_replicate]
    have left : (bs.drop n).length = (b :: bs).length - (o 0).tally.bytes.length := by
      rw [count, List.length_drop, List.length_cons, Nat.add_sub_add_right]
    have patient : interruptions (tallies fun i => o (i + 1)) k ≤ patience :=
      Reading.patient_tail patient
    rw [left] at ih
    rw [count] at given
    obtain ⟨rfl, concludes⟩ := ih serves given (finishes.tail goes) fits.tail patient
    refine ⟨?_, concludes.before fits.head⟩
    rw [Writing.calls_succ, count, first]
    rfl
  | @failed patience b bs e why =>
    obtain ⟨k, rfl⟩ := finishes.pos (Nat.succ_ne_zero _)
    obtain ⟨first, -⟩ := serves_head serves given
    have firm :=
      Reading.firm_of_patient (o := tallies o) (by rw [tallies, ← first]; rfl) why patient
    obtain rfl := finishes.eq_one (by simp [tallies, ← first, Reading.ends, firm])
    have none : (o 0).tally.bytes = [] := by rw [← first]; rfl
    rw [Writing.calls_succ, first]
    exact ⟨rfl, .failed (Writing.short_one (Nat.succ_ne_zero _) none) first.symm firm⟩
  | @again patience b bs e rest r interrupted _ ih =>
    obtain ⟨k, rfl⟩ := finishes.pos (Nat.succ_ne_zero _)
    obtain ⟨first, t₁, serves, given⟩ := serves_head serves given
    have goes : (tallies o 0).ends = false := by simp [tallies, ← first, Reading.ends, interrupted]
    have count : (o 0).tally.bytes.length = 0 := by rw [← first]; rfl
    have left : (b :: bs).length = (b :: bs).length - (o 0).tally.bytes.length := by
      rw [count, Nat.sub_zero]
    have patient : interruptions (tallies fun i => o (i + 1)) k ≤ patience :=
      Reading.patient_again (by rw [tallies, ← first]; exact interrupted) patient
    rw [left] at ih
    rw [count] at given
    obtain ⟨rfl, concludes⟩ := ih serves given (finishes.tail goes) fits.tail patient
    refine ⟨?_, concludes.before fits.head⟩
    rw [Writing.calls_succ, count, first]
    rfl

end Call.Drains

namespace OutputStream

open Reading (Finishes Fits interruptions)
open Writing (Concludes tallies)

theorem given_writeAll {T : Transport σ} {s : OutputStream} {fd : Descriptor} {o : Nat → Writing}
    {buffer : List UInt8} {k : Nat} {t : σ} {w : World σ}
    (given : T.Serves w.transport (Writing.calls o fd buffer k) t)
    (finishes : Finishes (tallies o) buffer.length k) (fits : Fits (tallies o) buffer.length k)
    (patient : interruptions (tallies o) k ≤ T.patience w.transport)
    (quiet : w.disturbances = []) (has : (w.handle s.endpoint).fd = some fd) :
    Concludes o buffer.length k (s.writeAll (.disturbed T) buffer w).1 ∧
      w.Called (some s.endpoint) (Writing.calls o fd buffer k)
        (s.writeAll (.disturbed T) buffer w).2 ∧
      (s.writeAll (.disturbed T) buffer w).2.transport = t := by
  obtain ⟨calls, called, drains⟩ := Endpoint.drains_transmitAll (Link.straight_disturbed T)
    (T.patience w.transport) buffer quiet has
  have serves := called.serves
    ((Service.admits (T := T) s.endpoint).transmitAll (T.patience w.transport) buffer w trivial)
  obtain ⟨rfl, concludes⟩ := drains.given serves given finishes fits patient
  exact ⟨concludes, called, serves.unique given⟩

/-- Whatever writes come to, a whole buffer is written with just as many of them as take it or end
it, each of what is left then: what they took is always the front of the buffer, it is all of the
buffer just when all is well, and else the last of them tells what was wrong.  It does end unless it
is interrupted for ever, and an empty buffer is not written at all. -/
theorem writes_in_order (T : Transport σ) (fd : Descriptor) (o : Nat → Writing) (s : OutputStream)
    (buffer : List UInt8) :
    ((∀ i, ∃ j, i ≤ j ∧ (tallies o j).interrupted = false) →
      ∃ k, Finishes (tallies o) buffer.length k) ∧
    (∀ k, ∀ w : World σ, ∀ t, Finishes (tallies o) buffer.length k →
      Fits (tallies o) buffer.length k → interruptions (tallies o) k ≤ T.patience w.transport →
        w.disturbances = [] → (w.handle s.endpoint).fd = some fd →
          T.Serves w.transport (Writing.calls o fd buffer k) t →
            ∃ r w', s.writeAll (.disturbed T) buffer w = (r, w') ∧
              Concludes o buffer.length k r ∧
              (r = .ok () ↔ (Writing.calls o fd buffer k).flatMap Call.sent = buffer) ∧
              w.Called (some s.endpoint) (Writing.calls o fd buffer k) w' ∧
              w'.transport = t) ∧
    (∀ k, (Writing.calls o fd buffer k).flatMap Call.sent <+: buffer) ∧
    (∀ (L : Link σ) (w : World σ), s.writeAll L [] w = (.ok (), w)) := by
  refine ⟨Reading.finishes_of_lively buffer.length, ?_, fun k => ?_, fun L w => ?_⟩
  · intro k w t finishes fits patient quiet has given
    obtain ⟨concludes, called, state⟩ := given_writeAll given finishes fits patient quiet has
    exact ⟨_, _, rfl, concludes, concludes.ok_iff_sent fits, called, state⟩
  · rw [Writing.sent_calls]
    exact List.take_prefix _ buffer
  · rw [writeAll, Endpoint.transmitAll]

theorem writes_in_order_interrupted :
    let script : Scripted.State := {
      outcomes := fun
        | .write => [.number 1, .failure (.os Errno.interrupted), .number 2, .number 0]
        | _ => [] }
    let w : World Scripted.State := {
      transport := script
      endpoints := [{ handle := .owning 5 }] }
    let o : Nat → Writing := fun
      | 0 => .ok 1
      | 1 => .error (.os Errno.interrupted)
      | 2 => .ok 2
      | _ => .ok 0
    let s : OutputStream := ⟨⟨0⟩, 0⟩
    ∃ r w', s.writeAll (.disturbed Scripted.transport) [1, 2, 3, 4] w = (r, w') ∧
      Concludes o 4 4 r ∧
      (r = .ok () ↔ [1, 2, 3] = ([1, 2, 3, 4] : List UInt8)) ∧
      w.Called (some s.endpoint) [
        ⟨.write 5 [1, 2, 3, 4], .ok (1 : Nat)⟩,
        ⟨.write 5 [2, 3, 4], .error (.os Errno.interrupted)⟩,
        ⟨.write 5 [2, 3, 4], .ok (2 : Nat)⟩,
        ⟨.write 5 [4], .ok (0 : Nat)⟩] w' := by
  intro script w o s
  obtain ⟨-, writes, -, -⟩ := writes_in_order Scripted.transport 5 o s [1, 2, 3, 4]
  have finishes : Finishes (tallies o) 4 4 := ⟨by decide, by decide⟩
  have given : Scripted.transport.Serves w.transport (Writing.calls o 5 [1, 2, 3, 4] 4) _ :=
    .cons rfl (.cons rfl (.cons rfl (.cons rfl (.nil _))))
  obtain ⟨r, w', run, concludes, all, called, -⟩ :=
    writes 4 w _ finishes (by decide) (by decide) rfl rfl given
  exact ⟨r, w', run, concludes, all, called⟩

end OutputStream

end ProcessorSockets
