import ProcessorSockets.Proofs.Law.Endpoint

namespace ProcessorSockets

variable {σ ε : Type} {law : Law σ} {L : Link σ}

namespace Law

namespace Keeps

theorem fill {read : Nat → StateM (World σ) (Except ε (List UInt8))} {failures : TransferFailures ε}
    (h : ∀ n, law.Keeps (read n)) :
    ∀ patience missing, law.Keeps (Transfer.fill read failures patience missing)
  | patience, missing => by
    rw [Transfer.fill]
    split
    · exact look _
    apply bind (h missing)
    intro r
    match r with
    | .ok [] => exact look _
    | .ok (b :: bs) => exact bind (fill h patience (missing - (b :: bs).length)) fun _ => look _
    | .error e =>
      cases patience with
      | zero => exact look _
      | succ patience =>
        dsimp only
        split
        · exact fill h patience missing
        · exact look _
  termination_by patience missing => (patience, missing)

theorem drain {write : List UInt8 → StateM (World σ) (Except ε Nat)} {failures : TransferFailures ε}
    (h : ∀ bytes, law.Keeps (write bytes)) :
    ∀ patience bytes, law.Keeps (Transfer.drain write failures patience bytes)
  | _, [] => by
    rw [Transfer.drain]
    exact look _
  | patience, b :: bs => by
    rw [Transfer.drain]
    apply bind (h (b :: bs))
    intro r
    cases r with
    | ok n =>
      cases n with
      | zero => exact look _
      | succ n => exact drain h patience (bs.drop n)
    | error e =>
      cases patience with
      | zero => exact look _
      | succ patience =>
        dsimp only
        split
        · exact drain h patience (b :: bs)
        · exact look _
  termination_by patience bytes => (patience, bytes.length)

theorem toEnd {read : Nat → StateM (World σ) (Except ε (List UInt8))} {isInterrupted : ε → Bool}
    (h : ∀ n, law.Keeps (read n)) (patience : Nat) (buffer : GrowingBuffer) :
    law.Keeps (Transfer.toEnd read isInterrupted patience buffer) := by
  induction patience generalizing buffer with
  | zero =>
    rw [Transfer.toEnd]
    apply bind (h _)
    intro r
    match r with
    | .ok [] => exact look _
    | .ok (b :: bs) => exact look _
    | .error e => exact look _
  | succ patience ih =>
    rw [Transfer.toEnd]
    apply bind (h _)
    intro r
    match r with
    | .ok [] => exact look _
    | .ok (b :: bs) => exact ih _
    | .error e =>
      dsimp only
      split
      · exact ih buffer
      · exact look _

end Keeps

namespace Permits

theorem receiveAll {ep : Endpoint} (h : law.Permits L ep) :
    ∀ patience missing, law.Keeps (ep.receiveAll L patience missing)
  | patience, missing => by
    intro w hw
    rw [Endpoint.receiveAll]
    split
    · exact law.refl w
    have kept := h.receive missing w hw
    generalize ep.receive L missing w = answer at kept
    match answer, kept with
    | (.ok [], w'), kept => exact kept
    | (.ok (b :: bs), w'), kept =>
      exact law.trans kept
        (receiveAll h patience (missing - (bs.length + 1)) w' (law.stable hw kept))
    | (.error e, w'), kept =>
      cases patience with
      | zero => exact kept
      | succ patience =>
        dsimp only
        split
        · exact law.trans kept (receiveAll h patience missing w' (law.stable hw kept))
        · exact kept
  termination_by patience missing => (patience, missing)

theorem transmitAll {ep : Endpoint} (h : law.Permits L ep) :
    ∀ patience bytes, law.Keeps (ep.transmitAll L patience bytes)
  | _, [] => by
    intro w _
    rw [Endpoint.transmitAll]
    exact law.refl w
  | patience, b :: bs => by
    intro w hw
    rw [Endpoint.transmitAll]
    have kept := h.transmit (b :: bs) w hw
    generalize ep.transmit L (b :: bs) w = answer at kept
    obtain ⟨r, w'⟩ := answer
    cases r with
    | ok n =>
      cases n with
      | zero => exact kept
      | succ n =>
        exact law.trans kept (transmitAll h patience (bs.drop n) w' (law.stable hw kept))
    | error e =>
      cases patience with
      | zero => exact kept
      | succ patience =>
        dsimp only
        split
        · exact law.trans kept (transmitAll h patience (b :: bs) w' (law.stable hw kept))
        · exact kept
  termination_by patience bytes => (patience, bytes.length)

section

variable {s : InputStream} (h : law.Permits L s.endpoint)

include h

theorem available : law.Keeps (s.available L) := .withFd fun opens _ => h.ask opens _ rfl

theorem read (length : Nat) : law.Keeps (s.read L length) := by
  unfold InputStream.read
  split
  · exact .return' []
  · exact h.receive length

theorem readByte : law.Keeps (s.readByte L) := .andThen (h.read 1) fun _ => .return' _

theorem readExact (length : Nat) : law.Keeps (s.readExact L length) :=
  fun w hw => h.receiveAll (L.patience w) length w hw

theorem readExactNative (length : Nat) : law.Keeps (s.readExactNative L length) :=
  fun w hw => Keeps.fill (fun n => (h.read n).native) (L.patience w) length w hw

theorem readToEndNative : law.Keeps (s.readToEndNative L) :=
  fun w hw => Keeps.toEnd (fun n => (h.read n).native) (L.patience w) {} w hw

end

section

variable {s : OutputStream} (h : law.Permits L s.endpoint)

include h

theorem write (bytes : List UInt8) : law.Keeps (s.write L bytes) := by
  unfold OutputStream.write
  split
  · exact .return' 0
  · exact h.transmit bytes

theorem writeAll (bytes : List UInt8) : law.Keeps (s.writeAll L bytes) :=
  fun w hw => h.transmitAll (L.patience w) bytes w hw

theorem writeAllNative (bytes : List UInt8) : law.Keeps (s.writeAllNative L bytes) :=
  fun w hw => Keeps.drain (fun bs => (h.write bs).native) (L.patience w) bytes w hw

end

end Permits

end Law

end ProcessorSockets
