import ProcessorSockets.Proofs.Schedule
import ProcessorSockets.Proofs.Writing

namespace ProcessorSockets

variable {σ : Type}

namespace Transport

structure PlaysOn (T : Transport σ) (fd : Descriptor) (o : Nat → Reading) (stage : Nat → σ → Prop)
    (k : Nat) : Prop where
  read : ∀ i < k, ∀ t n, stage i t → n ≠ 0 → (o i).bytes.length ≤ n →
    (T.handle (.read fd n) t).reply = o i ∧ stage (i + 1) (T.handle (.read fd n) t).state
  still : ∀ i r t, r.method.transfers = false → stage i t → stage i (T.handle r t).state

structure TakesOn (T : Transport σ) (fd : Descriptor) (o : Nat → Writing) (stage : Nat → σ → Prop)
    (k : Nat) : Prop where
  write : ∀ i < k, ∀ t bytes, stage i t → bytes ≠ [] → (o i).tally.bytes.length ≤ bytes.length →
    (T.handle (.write fd bytes) t).reply = o i ∧ stage (i + 1) (T.handle (.write fd bytes) t).state
  still : ∀ i r t, r.method.transfers = false → stage i t → stage i (T.handle r t).state

variable {T : Transport σ} {fd : Descriptor} {stage : Nat → σ → Prop} {i k : Nat}

theorem PlaysOn.mono {o : Nat → Reading} (plays : T.PlaysOn fd o stage k) (le : i ≤ k) :
    T.PlaysOn fd o stage i where
  read j inside := plays.read j (Nat.lt_of_lt_of_le inside le)
  still := plays.still

theorem PlaysOn.tail {o : Nat → Reading} (plays : T.PlaysOn fd o stage (k + 1)) :
    T.PlaysOn fd (fun i => o (i + 1)) (fun i => stage (i + 1)) k where
  read i inside := plays.read (i + 1) (Nat.succ_lt_succ inside)
  still i := plays.still (i + 1)

theorem TakesOn.mono {o : Nat → Writing} (takes : T.TakesOn fd o stage k) (le : i ≤ k) :
    T.TakesOn fd o stage i where
  write j inside := takes.write j (Nat.lt_of_lt_of_le inside le)
  still := takes.still

theorem TakesOn.tail {o : Nat → Writing} (takes : T.TakesOn fd o stage (k + 1)) :
    T.TakesOn fd (fun i => o (i + 1)) (fun i => stage (i + 1)) k where
  write i inside := takes.write (i + 1) (Nat.succ_lt_succ inside)
  still i := takes.still (i + 1)

theorem PlaysOn.send {o : Nat → Reading} (plays : T.PlaysOn fd o stage k) (inside : i < k) {n : Nat}
    (some : n ≠ 0) (fit : (o i).bytes.length ≤ n) (ep : Endpoint) {w : World σ}
    (here : stage i w.transport) :
    ((Link.disturbed T).send (.some ep) (.read fd n) w).1 = o i ∧
      stage (i + 1) ((Link.disturbed T).send (.some ep) (.read fd n) w).2.transport := by
  rw [Link.run_disturbed, T.run_respond]
  exact plays.read i inside _ n
    ((World.interlude_interrupt (T := T) .read _).unmoved (plays.still i) here) some fit

theorem TakesOn.send {o : Nat → Writing} (takes : T.TakesOn fd o stage k) (inside : i < k)
    {bytes : List UInt8} (some : bytes ≠ []) (fit : (o i).tally.bytes.length ≤ bytes.length)
    (ep : Endpoint) {w : World σ} (here : stage i w.transport) :
    ((Link.disturbed T).send (.some ep) (.write fd bytes) w).1 = o i ∧
      stage (i + 1) ((Link.disturbed T).send (.some ep) (.write fd bytes) w).2.transport := by
  rw [Link.run_disturbed, T.run_respond]
  exact takes.write i inside _ bytes
    ((World.interlude_interrupt (T := T) .write _).unmoved (takes.still i) here) some fit

end Transport

namespace Scripted

def Outcome.ofReading : Reading → Outcome
  | .ok bs => .bytes bs
  | .error e => .failure e

def Outcome.ofWriting : Writing → Outcome
  | .ok n => .number n
  | .error e => .failure e

theorem outcomes_handle (r : Request) (s : State) :
    (handle r s).state.outcomes = (s.take r.method).2.outcomes := by
  rw [handle]
  generalize s.take r.method = taken
  obtain ⟨o, s'⟩ := taken
  cases r <;> cases o <;> rfl

theorem take_cons {s : State} {m : Method} {o : Outcome} {rest : List Outcome}
    (script : s.outcomes m = o :: rest) :
    (s.take m).1 = o ∧ (s.take m).2.outcomes m = rest := by
  simp [State.take, script]

theorem take_other {s : State} {m n : Method} (other : n ≠ m) :
    (s.take m).2.outcomes n = s.outcomes n := by
  rw [State.take]
  split
  · rfl
  · simp [other]

theorem still {m : Method} (transfers : m.transfers = true) (script : List Outcome) (r : Request)
    (s : State) (plain : r.method.transfers = false) (here : s.outcomes m = script) :
    (transport.handle r s).state.outcomes m = script := by
  have other : m ≠ r.method := by
    rintro rfl
    exact nomatch transfers.symm.trans plain
  exact (congrFun (outcomes_handle r s) m).trans ((take_other other).trans here)

/-- A script of readings gives them in its order, whatever it is asked besides. -/
theorem plays_on (fd : Descriptor) (readings : List Reading) :
    transport.PlaysOn fd (fun i => readings.getD i (.ok []))
      (fun i s => s.outcomes .read = (readings.drop i).map .ofReading) readings.length where
  read i inside s n here some fit := by
    have is : readings.getD i (.ok []) = readings[i] := by simp [inside]
    rw [List.drop_eq_getElem_cons inside, List.map_cons] at here
    obtain ⟨first, rest⟩ := take_cons here
    rw [is] at fit ⊢
    refine ⟨?_, (congrFun (outcomes_handle (.read fd n) s) .read).trans rest⟩
    change (handle (.read fd n) s).reply = _
    simp only [handle, Request.method, first]
    generalize readings[i] = reading at fit
    cases reading with
    | ok bs => exact congrArg Except.ok (List.take_of_length_le fit)
    | error e => rfl
  still i := still rfl _

theorem takes_on (fd : Descriptor) (writings : List Writing) :
    transport.TakesOn fd (fun i => writings.getD i (.ok 0))
      (fun i s => s.outcomes .write = (writings.drop i).map .ofWriting) writings.length where
  write i inside s bytes here some fit := by
    have is : writings.getD i (.ok 0) = writings[i] := by simp [inside]
    rw [List.drop_eq_getElem_cons inside, List.map_cons] at here
    obtain ⟨first, rest⟩ := take_cons here
    rw [is]
    refine ⟨?_, (congrFun (outcomes_handle (.write fd bytes) s) .write).trans rest⟩
    change (handle (.write fd bytes) s).reply = _
    simp only [handle, Request.method, first]
    cases writings[i] with
    | ok n => rfl
    | error e => rfl
  still i := still rfl _

end Scripted

namespace Reading

def cost (reading : Reading) : Nat := if reading.interrupted then 1 else 0

def endOfStream : NativeError := .described .unexpectedEof "peer closed the stream"

/-- How a transfer ends that makes no call after one: with all there, with what that call failed
for, or for want of a descriptor. -/
inductive Halts (operation : String) (none : NativeError) (reading : Reading) (missing : Nat) :
    Except SocketError Unit → Prop
  | full (full : reading.bytes.length = missing) : Halts operation none reading missing (.ok ())
  | ended (last : reading = .ok []) :
      Halts operation none reading missing (.error (.native operation none))
  | failed {e : NativeError} (last : reading = .error e) (firm : e.isInterrupted = false) :
      Halts operation none reading missing (.error (.native operation e))
  | cut (short : reading.bytes.length < missing) (goes : reading.ends = false) :
      Halts operation none reading missing (.error .notCreated)

/-- A transfer of so much comes to one more call after so many, with enough patience to go on. -/
structure Reaches (o : Nat → Reading) (n k patience : Nat) : Prop where
  undone : ∀ j ≤ k, ¬Done o n j
  fits : Fits o n (k + 1)
  patient : interruptions o (k + 1) ≤ patience

theorem interruptions_cons (o : Nat → Reading) (k : Nat) :
    interruptions o (k + 1) = cost (o 0) + interruptions (fun i => o (i + 1)) k := by
  rw [interruptions_succ, cost, Nat.add_comm]

theorem interruptions_snoc (o : Nat → Reading) (k : Nat) :
    interruptions o (k + 1) = interruptions o k + cost (o k) := by
  rw [interruptions, List.range_succ, List.countP_append, List.countP_singleton]
  rfl

namespace Reaches

variable {o : Nat → Reading} {n k patience : Nat} (reaches : Reaches o n k patience)

include reaches

theorem patient_last : cost (o k) ≤ patience - interruptions o k := by
  have patient := reaches.patient
  rw [interruptions_snoc] at patient
  omega

theorem patient_before : interruptions o k ≤ patience := by
  have patient := reaches.patient
  rw [interruptions_snoc] at patient
  exact Nat.le_of_add_right_le patient

theorem missing : n - (delivered o k).length ≠ 0 := fun none =>
  reaches.undone k (Nat.le_refl k) (.inl (Nat.le_of_sub_eq_zero none))

theorem fit_last : (o k).bytes.length ≤ n - (delivered o k).length :=
  reaches.fits k (Nat.lt_succ_self k)

theorem fits_before : Fits o n k := fun i inside => reaches.fits i (Nat.lt_succ_of_lt inside)

end Reaches

theorem calls_snoc (o : Nat → Reading) (fd : Descriptor) (n k : Nat) :
    calls o fd n (k + 1) = calls o fd n k ++ [⟨.read fd (n - (delivered o k).length), o k⟩] := by
  rw [calls, List.range_succ, List.map_append]
  rfl

theorem not_ends {o : Nat → Reading} {n k : Nat} (undone : ¬Done o n (k + 1)) :
    (o k).ends = false := by
  by_contra ends
  exact undone (.inr ⟨k, Nat.lt_succ_self k, by simpa using ends⟩)

theorem bytes_of_ends {reading : Reading} (ends : reading.ends = true) : reading.bytes = [] := by
  rcases reading with e | _ | ⟨b, bs⟩
  · rfl
  · rfl
  · cases ends

end Reading

theorem Writing.calls_snoc (o : Nat → Writing) (fd : Descriptor) (buffer : List UInt8) (k : Nat) :
    calls o fd buffer (k + 1) =
      calls o fd buffer k ++ [⟨.write fd (buffer.drop (accepted o k)), o k⟩] := by
  rw [calls, List.range_succ, List.map_append]
  rfl

namespace Endpoint

variable {T : Transport σ} {ep : Endpoint} {fd : Descriptor} {stage : Nat → σ → Prop}
  {Q : Nat → World σ → Prop}

theorem met_receive {L : Link σ} {P : World σ → Prop} (noted : ∀ w w', P w → w.Noted w' → P w')
    {w : World σ} (owns : w.handle ep = .owning fd) {n : Nat} {reading : Reading}
    (answer : (L.send (some ep) (.read fd n) w).1 = reading)
    (after : P (L.send (some ep) (.read fd n) w).2) :
    ∃ w', ep.receive L n w = (reading.mapError (.native "read"), w') ∧ P w' := by
  rw [run_receive (congrArg Handle.fd owns)]
  rcases asked : L.send (some ep) (.read fd n) w with ⟨r, w₁⟩
  rw [asked] at answer after
  obtain rfl : r = reading := answer
  cases r with
  | error e => exact ⟨w₁, rfl, after⟩
  | ok bytes => exact ⟨_, rfl, noted _ _ after (.one w₁ rfl)⟩

theorem met_transmit {L : Link σ} {P : World σ → Prop} (noted : ∀ w w', P w → w.Noted w' → P w')
    {w : World σ} (owns : w.handle ep = .owning fd) {bytes : List UInt8} {writing : Writing}
    (answer : (L.send (some ep) (.write fd bytes) w).1 = writing)
    (after : P (L.send (some ep) (.write fd bytes) w).2) :
    ∃ w', ep.transmit L bytes w = (writing.mapError (.native "write"), w') ∧ P w' := by
  rw [run_transmit (congrArg Handle.fd owns)]
  rcases asked : L.send (some ep) (.write fd bytes) w with ⟨r, w₁⟩
  rw [asked] at answer after
  obtain rfl : r = writing := answer
  cases r with
  | error e => exact ⟨w₁, rfl, after⟩
  | ok n => exact ⟨_, rfl, noted _ _ after (.one w₁ rfl)⟩

/-- What holds after a call that went as if nobody else was there. -/
structure Gone (Q : World σ → Prop) (here : σ → Prop) (ep : Endpoint) (calls : List Call)
    (w w' : World σ) : Prop where
  lasts : Q w'
  here : here w'.transport
  talk : w'.talk ep = w.talk ep ++ calls.flatMap (·.entries (some ep))

theorem Gone.noted {here : σ → Prop} {calls : List Call} {k : Nat} {m : Method} {w : World σ}
    (lasts : Lasts T ep fd m Q) (w₁ w₂ : World σ) (gone : Gone (Q k) here ep calls w w₁)
    (noted : w₁.Noted w₂) : Gone (Q k) here ep calls w w₂ where
  lasts := lasts.noted _ _ _ gone.lasts noted
  here := by
    obtain ⟨_, _, rfl⟩ := noted
    exact gone.here
  talk := noted.talk.trans gone.talk

theorem goes_receive {o : Nat → Reading} {i k l n : Nat} (lasts : Lasts T ep fd .read Q)
    (plays : T.PlaysOn fd o stage k) (inside : i < k) (some : n ≠ 0) (fit : (o i).bytes.length ≤ n)
    {w : World σ} (here : Q (l + 1) w) (start : stage i w.transport) :
    ∃ w', ep.receive (.disturbed T) n w = ((o i).mapError (.native "read"), w') ∧
      Gone (Q l) (stage (i + 1)) ep [⟨.read fd n, o i⟩] w w' := by
  obtain ⟨answer, moved⟩ := plays.send inside some fit ep start
  obtain ⟨still, talk⟩ := lasts.send l w here (.read fd n) rfl
  rw [answer] at talk
  exact met_receive (Gone.noted lasts) (lasts.owns _ _ here) answer
    ⟨still, moved, by simpa using talk⟩

theorem goes_transmit {o : Nat → Writing} {i k l : Nat} {bytes : List UInt8}
    (lasts : Lasts T ep fd .write Q) (takes : T.TakesOn fd o stage k) (inside : i < k)
    (some : bytes ≠ []) (fit : (o i).tally.bytes.length ≤ bytes.length) {w : World σ}
    (here : Q (l + 1) w) (start : stage i w.transport) :
    ∃ w', ep.transmit (.disturbed T) bytes w = ((o i).mapError (.native "write"), w') ∧
      Gone (Q l) (stage (i + 1)) ep [⟨.write fd bytes, o i⟩] w w' := by
  obtain ⟨answer, moved⟩ := takes.send inside some fit ep start
  obtain ⟨still, talk⟩ := lasts.send l w here (.write fd bytes) rfl
  rw [answer] at talk
  exact met_transmit (Gone.noted lasts) (lasts.owns _ _ here) answer
    ⟨still, moved, by simpa using talk⟩

theorem cut_receive {o : Nat → Reading} {i k n : Nat} (plays : T.PlaysOn fd o stage k)
    (inside : i < k) (some : n ≠ 0) (fit : (o i).bytes.length ≤ n) {w : World σ}
    (poised : w.Poised ep fd .read 0) (start : stage i w.transport) :
    ∃ w', ep.receive (.disturbed T) n w = ((o i).mapError (.native "read"), w') ∧
      w.CutShort ep [] ⟨.read fd n, o i⟩ w' := by
  obtain ⟨answer, -⟩ := plays.send inside some fit ep start
  obtain ⟨during, bare, talk, none⟩ := World.Poised.send (T := T) (r := .read fd n) poised
  rw [answer] at talk
  exact met_receive (fun _ _ => .noted) poised.owns answer ⟨bare, during, by simpa using talk, none⟩

theorem cut_transmit {o : Nat → Writing} {i k : Nat} {bytes : List UInt8}
    (takes : T.TakesOn fd o stage k) (inside : i < k) (some : bytes ≠ [])
    (fit : (o i).tally.bytes.length ≤ bytes.length) {w : World σ}
    (poised : w.Poised ep fd .write 0) (start : stage i w.transport) :
    ∃ w', ep.transmit (.disturbed T) bytes w = ((o i).mapError (.native "write"), w') ∧
      w.CutShort ep [] ⟨.write fd bytes, o i⟩ w' := by
  obtain ⟨answer, -⟩ := takes.send inside some fit ep start
  obtain ⟨during, bare, talk, none⟩ := World.Poised.send (T := T) (r := .write fd bytes) poised
  rw [answer] at talk
  exact met_transmit (fun _ _ => .noted) poised.owns answer
    ⟨bare, during, by simpa using talk, none⟩

theorem Gone.trans {Q' : World σ → Prop} {there here : σ → Prop} {calls more : List Call}
    {w w' w'' : World σ} (first : Gone Q' there ep calls w w')
    {R : World σ → Prop} (second : Gone R here ep more w' w'') :
    Gone R here ep (calls ++ more) w w'' :=
  { second with talk := by rw [second.talk, first.talk, List.flatMap_append, List.append_assoc] }

theorem Gone.cut {here : σ → Prop} {calls : List Call} {last : Call} {R : World σ → Prop}
    {w w' w'' : World σ} (first : Gone R here ep calls w w') (short : w'.CutShort ep [] last w'') :
    w.CutShort ep calls last w'' where
  bare := short.bare
  talk := by
    obtain ⟨during, talk, none⟩ := short.talk
    exact ⟨during, by rw [talk, first.talk]; simp, none⟩

end Endpoint

end ProcessorSockets
