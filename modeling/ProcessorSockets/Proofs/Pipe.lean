import ProcessorSockets.Proofs.Conduct.Transfer

namespace ProcessorSockets

namespace Call

def sent : Call → List UInt8
  | ⟨.write _ bytes, .ok n⟩ => bytes.take n
  | _ => []

def got : Call → List UInt8
  | ⟨.read _ _, .ok bytes⟩ => bytes
  | _ => []

def outgoing (c : Call) : Bool :=
  match c.request with
  | .write _ _ => true
  | _ => false

def interrupted (c : Call) : Bool := c.error?.any (·.isInterrupted)

/-- Answers that a pipe gives: some of what was asked for, or that the call was interrupted. -/
inductive Piped : Call → Prop
  | read {fd : Descriptor} {length : Nat} {bytes : List UInt8} (some : bytes ≠ [])
      (fits : bytes.length ≤ length) : Piped ⟨.read fd length, .ok bytes⟩
  | write {fd : Descriptor} {bytes : List UInt8} {n : Nat} (some : 0 < n)
      (fits : n ≤ bytes.length) : Piped ⟨.write fd bytes, .ok n⟩
  | readInterrupted {fd : Descriptor} {length : Nat} {e : NativeError}
      (interrupted : e.isInterrupted = true) : Piped ⟨.read fd length, .error e⟩
  | writeInterrupted {fd : Descriptor} {bytes : List UInt8} {e : NativeError}
      (interrupted : e.isInterrupted = true) : Piped ⟨.write fd bytes, .error e⟩
  | available {fd : Descriptor} {answer : Except NativeError Nat} : Piped ⟨.available fd, answer⟩

theorem sent_of_incoming {c : Call} (incoming : c.outgoing = false) : c.sent = [] := by
  obtain ⟨r, answer⟩ := c
  cases r with
  | write fd bytes => cases incoming
  | _ => rfl

theorem got_of_outgoing {c : Call} (outgoing : c.outgoing = true) : c.got = [] := by
  obtain ⟨r, answer⟩ := c
  cases r with
  | write fd bytes => rfl
  | _ => cases outgoing

theorem Drains.over_pipe {fd : Descriptor} {patience : Nat} {bytes : List UInt8}
    {calls : List Call} {r : Except SocketError Unit} (h : Drains fd patience bytes calls r)
    (piped : ∀ c ∈ calls, c.Piped) (patient : calls.countP interrupted ≤ patience) :
    r = .ok () ∧ calls.flatMap sent = bytes := by
  induction h with
  | done => exact ⟨rfl, rfl⟩
  | stuck =>
    cases piped _ List.mem_cons_self with
    | write some => cases some
  | @part patience n b bs rest r _ ih =>
    obtain ⟨ok, all⟩ := ih (fun c mem => piped c (List.mem_cons_of_mem _ mem)) patient
    refine ⟨ok, ?_⟩
    rw [List.flatMap_cons, all]
    exact congrArg (b :: ·) (List.take_append_drop n bs)
  | failed why =>
    cases piped _ List.mem_cons_self with
    | writeInterrupted interrupted =>
      cases why with
      | inl impatient =>
        subst impatient
        simp [Call.interrupted, error?, interrupted] at patient
      | inr firm =>
        rw [interrupted] at firm
        cases firm
  | again interrupted _ ih =>
    rw [List.countP_cons_of_pos (by simpa [Call.interrupted, error?] using interrupted)] at patient
    obtain ⟨ok, all⟩ := ih (fun c mem => piped c (List.mem_cons_of_mem _ mem)) (by omega)
    exact ⟨ok, all⟩

theorem Fills.hands {fd : Descriptor} {patience missing : Nat} {bytes : List UInt8}
    {calls : List Call} {r : Except SocketError Unit}
    (h : Fills fd patience missing calls bytes r) : bytes = calls.flatMap got := by
  induction h with
  | done => rfl
  | ended => rfl
  | part _ _ ih => exact congrArg (_ ++ ·) ih
  | failed => rfl
  | again _ _ _ ih => exact ih

theorem Fills.over_pipe {fd : Descriptor} {patience missing : Nat} {bytes : List UInt8}
    {calls : List Call} {r : Except SocketError Unit}
    (h : Fills fd patience missing calls bytes r) (piped : ∀ c ∈ calls, c.Piped)
    (patient : calls.countP interrupted ≤ patience) : r = .ok () ∧ bytes.length = missing := by
  induction h with
  | done => exact ⟨rfl, rfl⟩
  | ended =>
    cases piped _ List.mem_cons_self with
    | read some => exact absurd rfl some
  | @part patience missing b bs bytes rest r _ _ ih =>
    obtain ⟨ok, full⟩ := ih (fun c mem => piped c (List.mem_cons_of_mem _ mem)) patient
    cases piped _ List.mem_cons_self with
    | read _ fits =>
      refine ⟨ok, ?_⟩
      simp only [List.length_cons, List.cons_append, List.length_append] at fits ⊢
      omega
  | failed _ why =>
    cases piped _ List.mem_cons_self with
    | readInterrupted interrupted =>
      cases why with
      | inl impatient =>
        subst impatient
        simp [Call.interrupted, error?, interrupted] at patient
      | inr firm =>
        rw [interrupted] at firm
        cases firm
  | again _ interrupted _ ih =>
    rw [List.countP_cons_of_pos (by simpa [Call.interrupted, error?] using interrupted)] at patient
    exact ih (fun c mem => piped c (List.mem_cons_of_mem _ mem)) (by omega)

end Call

inductive End
  | left
  | right
  deriving DecidableEq, Repr

namespace End

def other : End → End
  | left => right
  | right => left

@[simp] theorem other_other (x : End) : x.other.other = x := by cases x <;> rfl

theorem other_ne (x : End) : x.other ≠ x := by cases x <;> nofun

theorem eq_other {x y : End} (ne : y ≠ x) : y = x.other := by
  cases x <;> cases y <;> first | rfl | exact absurd rfl ne

end End

namespace Pipe

abbrev Lanes := End → List UInt8

structure Step (x : End) (c : Call) (q q' : Lanes) : Prop where
  piped : c.Piped
  front : q x = c.got ++ q' x
  back : q' x.other = q x.other ++ c.sent

inductive Run : Lanes → List (End × Call) → Lanes → Prop
  | nil (q : Lanes) : Run q [] q
  | cons {q q' q'' : Lanes} {x : End} {c : Call} {rest : List (End × Call)} (step : Step x c q q')
      (run : Run q' rest q'') : Run q ((x, c) :: rest) q''

def callsAt (x : End) (history : List (End × Call)) : List Call :=
  (history.filter (·.1 = x)).map (·.2)

def toward (x : End) (p : End × Call) : Bool := p.2.outgoing == decide (p.1 ≠ x)

variable {q q' : Lanes} {history : List (End × Call)}

theorem callsAt_cons_self (x : End) (c : Call) :
    callsAt x ((x, c) :: history) = c :: callsAt x history := by
  simp [callsAt]

theorem callsAt_cons_of_ne {x y : End} (ne : y ≠ x) (c : Call) :
    callsAt x ((y, c) :: history) = callsAt x history := by
  simp [callsAt, ne]

theorem Run.piped (run : Run q history q') (x : End) : ∀ c ∈ callsAt x history, c.Piped := by
  induction run with
  | nil => simp [callsAt]
  | @cons _ _ _ y c _ step _ ih =>
    by_cases here : y = x
    · subst here
      rw [callsAt_cons_self]
      simpa using ⟨step.piped, ih⟩
    · rwa [callsAt_cons_of_ne here]

/-- What comes out at an end, and then what is still on its way, went in at the other. -/
theorem Run.conserves (run : Run q history q') (x : End) :
    (callsAt x history).flatMap Call.got ++ q' x =
      q x ++ (callsAt x.other history).flatMap Call.sent := by
  induction run with
  | nil q => exact (List.append_nil _).symm
  | @cons q₀ q₁ q₂ y c rest step run ih =>
    -- A call at this end takes off the front of what comes in; one at the other adds to its back.
    by_cases here : y = x
    · subst here
      rw [callsAt_cons_self, callsAt_cons_of_ne y.other_ne.symm, List.flatMap_cons, step.front,
        List.append_assoc, ih, List.append_assoc]
    · obtain rfl := End.eq_other here
      have back := step.back
      rw [End.other_other] at back
      rw [callsAt_cons_of_ne here, callsAt_cons_self, List.flatMap_cons, ih, back,
        List.append_assoc]

theorem Run.toward (run : Run q history q') (x : End) {r : Lanes} (same : r x = q x) :
    ∃ r', Run r (history.filter (Pipe.toward x)) r' ∧ r' x = q' x := by
  induction run generalizing r with
  | nil q => exact ⟨r, .nil r, same⟩
  | @cons q₀ q₁ q₂ y c rest step run ih =>
    cases way : Pipe.toward x (y, c) with
    | false =>
      -- A call the other way leaves this one as it is.
      have kept : q₁ x = q₀ x := by
        by_cases here : y = x
        · subst here
          have outgoing : c.outgoing = true := by simpa [Pipe.toward] using way
          have front := step.front
          rw [Call.got_of_outgoing outgoing] at front
          exact front.symm
        · obtain rfl := End.eq_other here
          have incoming : c.outgoing = false := by simpa [Pipe.toward, x.other_ne] using way
          have back := step.back
          rwa [Call.sent_of_incoming incoming, End.other_other, List.append_nil] at back
      rw [List.filter_cons_of_neg (by simp [way])]
      exact ih (same.trans kept.symm)
    | true =>
      obtain ⟨r', rest, ends⟩ := ih (r := fun z => if z = x then q₁ x else r z) (if_pos rfl)
      rw [List.filter_cons_of_pos way]
      refine ⟨r', .cons ⟨step.piped, ?_, ?_⟩ rest, ends⟩
      · by_cases here : y = x
        · subst here
          rw [if_pos rfl, same, step.front]
        · have outgoing : c.outgoing = true := by simpa [Pipe.toward, here] using way
          rw [if_neg here, Call.got_of_outgoing outgoing]
          rfl
      · by_cases here : y = x
        · subst here
          have incoming : c.outgoing = false := by simpa [Pipe.toward] using way
          rw [if_neg y.other_ne, Call.sent_of_incoming incoming, List.append_nil]
        · obtain rfl := End.eq_other here
          have back := step.back
          rw [End.other_other] at back ⊢
          rw [if_pos rfl, same, back]

end Pipe

end ProcessorSockets
