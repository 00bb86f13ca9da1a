import ProcessorSockets.Proofs.Conduct
import ProcessorSockets.Proofs.Law.Stream

namespace ProcessorSockets

open World (Called)

variable {σ : Type} {fd : Descriptor} {r : Except SocketError Unit} {calls : List Call}

@[simp] theorem SocketError.isInterrupted_native (operation : String) (e : NativeError) :
    (native operation e).isInterrupted = e.isInterrupted := rfl

namespace Call

/-- How a buffer is written. -/
inductive Drains (fd : Descriptor) : Nat → List UInt8 → List Call → Except SocketError Unit → Prop
  | done {patience : Nat} : Drains fd patience [] [] (.ok ())
  | stuck {patience : Nat} {b : UInt8} {bs : List UInt8} :
      Drains fd patience (b :: bs) [⟨.write fd (b :: bs), .ok (0 : Nat)⟩]
        (.error (.native "write" (.bare .writeZero)))
  | part {patience n : Nat} {b : UInt8} {bs : List UInt8} {rest : List Call}
      {r : Except SocketError Unit} : Drains fd patience (bs.drop n) rest r →
      Drains fd patience (b :: bs) (⟨.write fd (b :: bs), .ok (n + 1 : Nat)⟩ :: rest) r
  | failed {patience : Nat} {b : UInt8} {bs : List UInt8} {e : NativeError}
      (why : patience = 0 ∨ e.isInterrupted = false) :
      Drains fd patience (b :: bs) [⟨.write fd (b :: bs), .error e⟩] (.error (.native "write" e))
  | again {patience : Nat} {b : UInt8} {bs : List UInt8} {e : NativeError} {rest : List Call}
      {r : Except SocketError Unit} (interrupted : e.isInterrupted = true) :
      Drains fd patience (b :: bs) rest r →
      Drains fd (patience + 1) (b :: bs) (⟨.write fd (b :: bs), .error e⟩ :: rest) r

/-- How a buffer is read full, and what comes into it. -/
inductive Fills (fd : Descriptor) :
    Nat → Nat → List Call → List UInt8 → Except SocketError Unit → Prop
  | done {patience : Nat} : Fills fd patience 0 [] [] (.ok ())
  | ended {patience missing : Nat} (some : missing ≠ 0) :
      Fills fd patience missing [⟨.read fd missing, .ok []⟩] []
        (.error (.native "read" (.described .unexpectedEof "peer closed the stream")))
  | part {patience missing : Nat} {b : UInt8} {bs bytes : List UInt8} {rest : List Call}
      {r : Except SocketError Unit} (some : missing ≠ 0) :
      Fills fd patience (missing - (bs.length + 1)) rest bytes r →
      Fills fd patience missing (⟨.read fd missing, .ok (b :: bs)⟩ :: rest) (b :: bs ++ bytes) r
  | failed {patience missing : Nat} {e : NativeError} (some : missing ≠ 0)
      (why : patience = 0 ∨ e.isInterrupted = false) :
      Fills fd patience missing [⟨.read fd missing, .error e⟩] [] (.error (.native "read" e))
  | again {patience missing : Nat} {e : NativeError} {rest : List Call} {bytes : List UInt8}
      {r : Except SocketError Unit} (some : missing ≠ 0) (interrupted : e.isInterrupted = true) :
      Fills fd patience missing rest bytes r →
      Fills fd (patience + 1) missing (⟨.read fd missing, .error e⟩ :: rest) bytes r

/-- How a stream is read to its end, and all that came.  There is always room, unless more came
before than was asked for. -/
inductive Exhausts (fd : Descriptor) :
    Nat → GrowingBuffer → List Call → List UInt8 → Except NativeError Unit → Prop
  | full {patience : Nat} {buffer : GrowingBuffer} (none : buffer.room = 0) :
      Exhausts fd patience buffer [] buffer.bytes (.ok ())
  | ended {patience : Nat} {buffer : GrowingBuffer} (some : buffer.room ≠ 0) :
      Exhausts fd patience buffer [⟨.read fd buffer.room, .ok []⟩] buffer.bytes (.ok ())
  | spent {buffer : GrowingBuffer} {b : UInt8} {bs : List UInt8} (some : buffer.room ≠ 0) :
      Exhausts fd 0 buffer [⟨.read fd buffer.room, .ok (b :: bs)⟩] (buffer.bytes ++ b :: bs)
        (.ok ())
  | part {patience : Nat} {buffer : GrowingBuffer} {b : UInt8} {bs bytes : List UInt8}
      {rest : List Call} {r : Except NativeError Unit} (some : buffer.room ≠ 0) :
      Exhausts fd patience (buffer.append (b :: bs)) rest bytes r →
      Exhausts fd (patience + 1) buffer (⟨.read fd buffer.room, .ok (b :: bs)⟩ :: rest) bytes r
  | failed {patience : Nat} {buffer : GrowingBuffer} {e : NativeError} (some : buffer.room ≠ 0)
      (why : patience = 0 ∨ e.isInterrupted = false) :
      Exhausts fd patience buffer [⟨.read fd buffer.room, .error e⟩] buffer.bytes (.error e)
  | again {patience : Nat} {buffer : GrowingBuffer} {e : NativeError} {rest : List Call}
      {bytes : List UInt8} {r : Except NativeError Unit} (some : buffer.room ≠ 0)
      (interrupted : e.isInterrupted = true) : Exhausts fd patience buffer rest bytes r →
      Exhausts fd (patience + 1) buffer (⟨.read fd buffer.room, .error e⟩ :: rest) bytes r

namespace Drains

variable {patience : Nat} {bytes : List UInt8}

theorem head {b : UInt8} {bs : List UInt8} (h : Drains fd patience (b :: bs) calls r) :
    ∃ answer rest, calls = ⟨.write fd (b :: bs), answer⟩ :: rest := by
  cases h with
  | _ => exact ⟨_, _, rfl⟩

theorem writes (h : Drains fd patience bytes calls r) :
    ∀ c ∈ calls, ∃ offer, c.request = .write fd offer := by
  induction h with
  | done => simp
  | stuck => simp
  | part _ ih => simpa using ih
  | failed => simp
  | again _ _ ih => simpa using ih

theorem settles (h : Drains fd patience bytes calls r) : Settles calls r := by
  induction h with
  | done => exact Clean.nil
  | stuck => exact ⟨_, _, rfl, rfl⟩
  | part _ ih => exact Settles.append (.ok rfl) ih
  | failed => exact .last rfl
  | again interrupted rest ih =>
    obtain ⟨answer, more, rfl⟩ := rest.head
    exact .passing (by simpa [passes, error?] using interrupted) ih

end Drains

namespace Fills

variable {patience missing : Nat} {bytes : List UInt8}

theorem head (some : missing ≠ 0) (h : Fills fd patience missing calls bytes r) :
    ∃ answer rest, calls = ⟨.read fd missing, answer⟩ :: rest := by
  cases h with
  | done => exact absurd rfl some
  | _ => exact ⟨_, _, rfl⟩

theorem reads (h : Fills fd patience missing calls bytes r) :
    ∀ c ∈ calls, ∃ length, c.request = .read fd length := by
  induction h with
  | done => simp
  | ended => simp
  | part _ _ ih => simpa using ih
  | failed => simp
  | again _ _ _ ih => simpa using ih

theorem settles (h : Fills fd patience missing calls bytes r) : Settles calls r := by
  induction h with
  | done => exact Clean.nil
  | ended => exact ⟨_, _, rfl, rfl⟩
  | part _ _ ih => exact Settles.append (.ok rfl) ih
  | failed => exact .last rfl
  | again some interrupted rest ih =>
    obtain ⟨answer, more, rfl⟩ := rest.head some
    exact .passing (by simpa [passes, error?] using interrupted) ih

end Fills

end Call

theorem InputStream.readNative_eq {L : Link σ} (s : InputStream) {length : Nat}
    (some : length ≠ 0) (w : World σ) : s.readNative L length w =
      (((s.endpoint.receive L length w).1.mapError SocketError.toNative),
        (s.endpoint.receive L length w).2) := by
  rw [readNative, read, if_neg some]
  rfl

theorem OutputStream.writeNative_eq {L : Link σ} (s : OutputStream) {bytes : List UInt8}
    (some : bytes ≠ []) (w : World σ) : s.writeNative L bytes w =
      ((s.endpoint.transmit L bytes w).1.mapError SocketError.toNative,
        (s.endpoint.transmit L bytes w).2) := by
  rw [writeNative, write, if_neg some]
  rfl

namespace Endpoint

open Call (Drains Exhausts Fills)

variable {L : Link σ} {ep : Endpoint}

theorem run_receive {w : World σ} (has : (w.handle ep).fd = some fd) (length : Nat) :
    ep.receive L length w = match L.send (some ep) (.read fd length) w with
      | (.ok bytes, w') => (.ok bytes, w'.add [.event ⟨.trace, "read"⟩])
      | (.error e, w') => (.error (.native "read" e), w') := by
  simp only [receive, Action.run_bind, run_fd, has, run_ask]
  rcases L.send (some ep) (.read fd length) w with ⟨e | bytes, w'⟩
  · rfl
  · rfl

theorem run_transmit {w : World σ} (has : (w.handle ep).fd = some fd) (bytes : List UInt8) :
    ep.transmit L bytes w = match L.send (some ep) (.write fd bytes) w with
      | (.ok n, w') => (.ok n, w'.add [.event ⟨.trace, "write"⟩])
      | (.error e, w') => (.error (.native "write" e), w') := by
  simp only [transmit, Action.run_bind, run_fd, has, run_ask]
  rcases L.send (some ep) (.write fd bytes) w with ⟨e | n, w'⟩
  · rfl
  · rfl

/-- Circumstances in which what an endpoint asks about its descriptor is calls, one after the
other: that they last, and what is told of a world after so many calls. -/
structure Dialogue (L : Link σ) (ep : Endpoint) (fd : Descriptor) (here : World σ → Prop)
    (told : List Call → World σ → World σ → Prop) : Prop where
  has : ∀ {w}, here w → (w.handle ep).fd = some fd
  lasts : ∀ {calls w w'}, here w → told calls w w' → here w'
  noted : ∀ {w w'}, w.Noted w' → told [] w w'
  trans : ∀ {calls more w w' w''}, told calls w w' → told more w' w'' →
    told (calls ++ more) w w''
  send : ∀ {w}, here w → ∀ r : Request,
    told [⟨r, (L.send (some ep) r w).1⟩] w (L.send (some ep) r w).2

namespace Dialogue

variable {here : World σ → Prop} {told : List Call → World σ → World σ → Prop}

section

variable (h : Dialogue L ep fd here told)

include h

theorem refl (w : World σ) : told [] w w := h.noted (.refl w)

theorem after {w w' w'' : World σ} (first : told calls w w') (noted : w'.Noted w'') :
    told calls w w'' := by
  have all := h.trans first (h.noted noted)
  rwa [List.append_nil] at all

theorem receive (length : Nat) {w : World σ} (there : here w) :
    ∃ answer, told [⟨.read fd length, answer⟩] w (ep.receive L length w).2 ∧
      (ep.receive L length w).1 = answer.mapError (.native "read") := by
  have sent := h.send there (.read fd length)
  rw [run_receive (h.has there)]
  rcases asked : L.send (some ep) (.read fd length) w with ⟨e | bytes, w₁⟩
  · rw [asked] at sent
    exact ⟨_, sent, rfl⟩
  · rw [asked] at sent
    exact ⟨_, h.after sent (.one _ rfl), rfl⟩

theorem transmit (bytes : List UInt8) {w : World σ} (there : here w) :
    ∃ answer, told [⟨.write fd bytes, answer⟩] w (ep.transmit L bytes w).2 ∧
      (ep.transmit L bytes w).1 = answer.mapError (.native "write") := by
  have sent := h.send there (.write fd bytes)
  rw [run_transmit (h.has there)]
  rcases asked : L.send (some ep) (.write fd bytes) w with ⟨e | n, w₁⟩
  · rw [asked] at sent
    exact ⟨_, sent, rfl⟩
  · rw [asked] at sent
    exact ⟨_, h.after sent (.one _ rfl), rfl⟩

theorem receiveAll (patience missing : Nat) {w : World σ} (there : here w) :
    ∃ calls, told calls w (ep.receiveAll L patience missing w).2 ∧
      Fills fd patience missing calls (ep.receiveAll L patience missing w).1.1
        (ep.receiveAll L patience missing w).1.2 := by
  rw [Endpoint.receiveAll]
  split
  case isTrue none =>
    subst none
    exact ⟨[], h.refl w, .done⟩
  case isFalse some =>
    obtain ⟨answer, first, is⟩ := h.receive missing there
    generalize ep.receive L missing w = run at first is
    obtain ⟨_, w₁⟩ := run
    have there' := h.lasts there first
    cases is
    rcases answer with e | _ | ⟨b, bs⟩
    · cases patience with
      | zero => exact ⟨_, first, .failed some (.inl rfl)⟩
      | succ patience =>
        dsimp only [Except.mapError]
        split
        case isFalse firm => exact ⟨_, first, .failed some (.inr (by simpa using firm))⟩
        case isTrue interrupted =>
          obtain ⟨calls, more, fills⟩ := receiveAll patience missing there'
          exact ⟨_, h.trans first more, .again some (by simpa using interrupted) fills⟩
    · exact ⟨_, first, .ended some⟩
    · obtain ⟨calls, more, fills⟩ := receiveAll patience (missing - (bs.length + 1)) there'
      exact ⟨_, h.trans first more, .part some fills⟩
  termination_by (patience, missing)

theorem transmitAll (patience : Nat) (bytes : List UInt8) {w : World σ} (there : here w) :
    ∃ calls, told calls w (ep.transmitAll L patience bytes w).2 ∧
      Drains fd patience bytes calls (ep.transmitAll L patience bytes w).1 := by
  cases bytes with
  | nil =>
    rw [Endpoint.transmitAll]
    exact ⟨[], h.refl w, .done⟩
  | cons b bs =>
    rw [Endpoint.transmitAll]
    obtain ⟨answer, first, is⟩ := h.transmit (b :: bs) there
    generalize ep.transmit L (b :: bs) w = run at first is
    obtain ⟨_, w₁⟩ := run
    have there' := h.lasts there first
    cases is
    rcases answer with e | _ | n
    · cases patience with
      | zero => exact ⟨_, first, .failed (.inl rfl)⟩
      | succ patience =>
        dsimp only [Except.mapError]
        split
        case isFalse firm => exact ⟨_, first, .failed (.inr (by simpa using firm))⟩
        case isTrue interrupted =>
          obtain ⟨calls, more, drains⟩ := transmitAll patience (b :: bs) there'
          exact ⟨_, h.trans first more, .again (by simpa using interrupted) drains⟩
    · exact ⟨_, first, .stuck⟩
    · obtain ⟨calls, more, drains⟩ := transmitAll patience (bs.drop n) there'
      exact ⟨_, h.trans first more, .part drains⟩
  termination_by (patience, bytes.length)

end

theorem readNative {s : InputStream} (h : Dialogue L s.endpoint fd here told) {length : Nat}
    (some : length ≠ 0) {w : World σ} (there : here w) :
    told [⟨.read fd length, (s.readNative L length w).1⟩] w (s.readNative L length w).2 := by
  obtain ⟨answer, sent, is⟩ := h.receive length there
  rw [InputStream.readNative_eq s some, is]
  cases answer with
  | error e => exact sent
  | ok bytes => exact sent

theorem toEnd {s : InputStream} (h : Dialogue L s.endpoint fd here told) (patience : Nat)
    (buffer : GrowingBuffer) {w : World σ} (there : here w) :
    let run := Transfer.toEnd (s.readNative L) NativeError.isInterrupted patience buffer w
    ∃ calls, told calls w run.2 ∧ Exhausts fd patience buffer calls run.1.1 run.1.2 := by
  intro run
  by_cases none : buffer.room = 0
  · have idle : run = ((buffer.bytes, .ok ()), w) := by
      simp only [run]
      rw [Transfer.toEnd, World.run_bind, none]
      rfl
    rw [idle]
    exact ⟨[], h.refl w, .full none⟩
  have first := h.readNative none there
  have there' := h.lasts there first
  simp only [run]
  rw [Transfer.toEnd, World.run_bind]
  generalize s.readNative L buffer.room w = run at first there'
  rcases run with ⟨e | _ | ⟨b, bs⟩, w₁⟩
  · cases patience with
    | zero => exact ⟨_, first, .failed none (.inl rfl)⟩
    | succ patience =>
      dsimp only
      split
      case isFalse firm => exact ⟨_, first, .failed none (.inr (by simpa using firm))⟩
      case isTrue interrupted =>
        obtain ⟨calls, more, exhausts⟩ := toEnd h patience buffer there'
        exact ⟨_, h.trans first more, .again none (by simpa using interrupted) exhausts⟩
  · exact ⟨_, first, .ended none⟩
  · cases patience with
    | zero => exact ⟨_, first, .spent none⟩
    | succ patience =>
      obtain ⟨calls, more, exhausts⟩ := toEnd h patience (buffer.append (b :: bs)) there'
      exact ⟨_, h.trans first more, .part none exhausts⟩
  termination_by patience

end Dialogue

variable (straight : L.Straight)

include straight

/-- Where nobody means to disturb them requests are calls and nothing else. -/
theorem dialogue_quiet : Dialogue L ep fd
    (fun w => w.disturbances = [] ∧ (w.handle ep).fd = some fd) (World.Called (some ep)) where
  has here := here.2
  lasts here called := ⟨called.quiet here.1, (congrArg Handle.fd (called.handle ep)).trans here.2⟩
  noted := .noted
  trans := .trans
  send here r := straight (some ep) r _ here.1

theorem called_receive (length : Nat) {w : World σ} (quiet : w.disturbances = [])
    (has : (w.handle ep).fd = some fd) :
    ∃ answer, w.Called (some ep) [⟨.read fd length, answer⟩] (ep.receive L length w).2 ∧
      (ep.receive L length w).1 = answer.mapError (.native "read") :=
  (dialogue_quiet straight).receive length ⟨quiet, has⟩

theorem called_transmit (bytes : List UInt8) {w : World σ} (quiet : w.disturbances = [])
    (has : (w.handle ep).fd = some fd) :
    ∃ answer, w.Called (some ep) [⟨.write fd bytes, answer⟩] (ep.transmit L bytes w).2 ∧
      (ep.transmit L bytes w).1 = answer.mapError (.native "write") :=
  (dialogue_quiet straight).transmit bytes ⟨quiet, has⟩

theorem fills_receiveAll (patience missing : Nat) {w : World σ} (quiet : w.disturbances = [])
    (has : (w.handle ep).fd = some fd) :
    ∃ calls, w.Called (some ep) calls (ep.receiveAll L patience missing w).2 ∧
      Fills fd patience missing calls (ep.receiveAll L patience missing w).1.1
        (ep.receiveAll L patience missing w).1.2 :=
  (dialogue_quiet straight).receiveAll patience missing ⟨quiet, has⟩

theorem drains_transmitAll (patience : Nat) (bytes : List UInt8) {w : World σ}
    (quiet : w.disturbances = []) (has : (w.handle ep).fd = some fd) :
    ∃ calls, w.Called (some ep) calls (ep.transmitAll L patience bytes w).2 ∧
      Drains fd patience bytes calls (ep.transmitAll L patience bytes w).1 :=
  (dialogue_quiet straight).transmitAll patience bytes ⟨quiet, has⟩

end Endpoint

end ProcessorSockets
