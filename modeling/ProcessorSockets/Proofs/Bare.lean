import ProcessorSockets.Proofs.Run

namespace ProcessorSockets

variable {σ α β : Type}

def SocketOption.objection (option : SocketOption) (value : Int) : SocketError :=
  if value < 0 then .invalidArgument s!"negative value {value} for {option.name}" else .notCreated

def SocketOption.refusal (id : Int) (known : SocketOption → SocketError) : SocketError :=
  match SocketOption.ofId id with
  | .ok option => known option
  | .error e => e

/-- A step fails, and nothing happens but that something is noted. -/
def Action.Fails (a : Action σ α) (e : SocketError) (w : World σ) : Prop :=
  (a w).1 = .error e ∧ w.Noted (a w).2

namespace Action

variable {a : Action σ α} {e : SocketError} {w : World σ}

theorem Fails.andThen (h : a.Fails e w) (f : α → Action σ β) : (a >>= f).Fails e w := by
  obtain ⟨fails, noted⟩ := h
  rw [Fails, run_bind]
  cases run : a w with
  | mk r w' =>
    rw [run] at fails noted
    cases fails
    exact ⟨rfl, noted⟩

theorem Fails.native (h : a.Fails e w) :
    (a.native w).1 = .error e.toNative ∧ w.Noted (a.native w).2 := by
  obtain ⟨fails, noted⟩ := h
  exact ⟨congrArg (Except.mapError SocketError.toNative) fails, noted⟩

end Action

theorem World.setHandle_self (w : World σ) (ep : Endpoint) :
    w.setHandle ep (w.handle ep) = w := by
  have same : w.endpoints.set ep.index (w.endpoint ep) = w.endpoints := by
    by_cases inside : ep.index < w.endpoints.length
    · simp [endpoint, inside]
    · exact List.set_eq_of_length_le (Nat.le_of_not_lt inside)
  change { w with endpoints := w.endpoints.set ep.index (w.endpoint ep) } = w
  rw [same]

namespace Endpoint

variable {L : Link σ} {ep : Endpoint} {w : World σ}

theorem run_release_bare (bare : w.handle ep = {}) : ep.release L w = (.ok (), w) := by
  rw [release, Action.run_bind]
  simp only [Action.run_plain, run_handle, bare]
  rfl

theorem discard_bare (bare : w.handle ep = {}) : (ep.discard L w).2 = w := by
  have discards := discarding L ep w
  generalize (ep.discard L w).2 = w' at discards
  cases discards with
  | owned has =>
    rw [bare] at has
    cases has
  | other => exact bare ▸ World.setHandle_self w ep

variable (bare : (w.handle ep).fd = none)

include bare

theorem fails_fd (f : Descriptor → Action σ α) : (ep.fd >>= f).Fails .notCreated w := by
  apply Action.Fails.andThen
  rw [Action.Fails, run_fd, bare]
  exact ⟨rfl, .refl w⟩

omit bare in
theorem fails_traced {operation : String} {body : Traced σ α}
    (fails : ∀ span w₁, w.Noted w₁ → ∃ span', body span w₁ = ((.error .notCreated, span'), w₁)) :
    (traced L operation body).Fails .notCreated w := by
  have opened : w.Noted (w.add (Entry.opening operation)) := .opening w operation
  obtain ⟨span, run⟩ := fails (.opened operation) _ opened
  rw [Action.Fails, run_traced, run]
  exact ⟨rfl, opened.trans (.closing ..)⟩

theorem fails_withDescriptor (f : Descriptor → Traced σ α) (span : Span) {w₁ : World σ}
    (noted : w.Noted w₁) : ∃ span', (Traced.finish ep.fd >>= f) span w₁ =
      ((.error .notCreated, span'), w₁) := by
  rw [Traced.run_bind, Traced.run_finish, run_fd, noted.handle, bare]
  exact ⟨_, rfl⟩

theorem fails_bind (a : Address) : (ep.bind L a).Fails .notCreated w :=
  fails_traced fun _ _ noted => fails_withDescriptor bare _ _ noted

theorem fails_listen (backlog : Int) : (ep.listen L backlog).Fails .notCreated w :=
  fails_traced fun _ _ noted => fails_withDescriptor bare _ _ noted

theorem fails_accept (into : Endpoint) : (ep.accept L into).Fails .notCreated w :=
  fails_traced fun _ _ noted => fails_withDescriptor bare _ _ noted

theorem fails_connect (a : Address) (timeout : Int) :
    (ep.connect L a timeout).Fails .notCreated w :=
  fails_traced fun _ _ noted => fails_withDescriptor bare _ _ noted

theorem fails_shutdown (half : Half) : (ep.shutdown L half).Fails .notCreated w :=
  fails_fd bare _

theorem fails_getOption (option : SocketOption) : (ep.getOption L option).Fails .notCreated w :=
  fails_fd bare _

omit bare in
theorem fails_setOption_negative (option : SocketOption) {value : Int} (negative : value < 0) :
    (ep.setOption L option value).Fails (option.objection value) w := by
  unfold setOption SocketOption.objection
  rw [Action.Fails, run_traced, if_pos negative, if_pos negative]
  exact ⟨rfl, .trans (.opening w _) (.closing ..)⟩

theorem fails_setOption (option : SocketOption) (value : Int) :
    (ep.setOption L option value).Fails (option.objection value) w := by
  by_cases negative : value < 0
  · exact fails_setOption_negative option negative
  · unfold setOption SocketOption.objection
    rw [if_neg negative, if_neg negative]
    exact fails_traced fun _ _ noted => fails_withDescriptor bare _ _ noted

theorem fails_inputStream : (Endpoint.inputStream (σ := σ) ep).Fails .notCreated w :=
  fails_fd bare _

theorem fails_outputStream : (Endpoint.outputStream (σ := σ) ep).Fails .notCreated w :=
  fails_fd bare _

theorem fails_receive (length : Nat) : (ep.receive L length).Fails .notCreated w :=
  fails_fd bare _

theorem fails_transmit (bytes : List UInt8) : (ep.transmit L bytes).Fails .notCreated w :=
  fails_fd bare _

theorem fails_receiveAll (patience missing : Nat) :
    (ep.receiveAll L patience missing w).1 =
        ([], if missing = 0 then .ok () else .error .notCreated) ∧
      w.Noted (ep.receiveAll L patience missing w).2 := by
  rw [receiveAll]
  split
  · exact ⟨rfl, .refl w⟩
  · obtain ⟨fails, noted⟩ := fails_receive (L := L) bare missing
    cases run : ep.receive L missing w with
    | mk r w' =>
      rw [run] at fails noted
      cases fails
      cases patience with
      | zero => exact ⟨rfl, noted⟩
      | succ patience => exact ⟨rfl, noted⟩

theorem fails_transmitAll (patience : Nat) {bytes : List UInt8} (some : bytes ≠ []) :
    (ep.transmitAll L patience bytes).Fails .notCreated w := by
  cases bytes with
  | nil => exact absurd rfl some
  | cons b bs =>
    obtain ⟨fails, noted⟩ := fails_transmit (L := L) bare (b :: bs)
    rw [Action.Fails, transmitAll]
    cases run : ep.transmit L (b :: bs) w with
    | mk r w' =>
      rw [run] at fails noted
      cases fails
      cases patience with
      | zero => exact ⟨rfl, noted⟩
      | succ patience => exact ⟨rfl, noted⟩

end Endpoint

namespace InputStream

variable {L : Link σ} {s : InputStream} {w : World σ} (bare : (w.handle s.endpoint).fd = none)

include bare

theorem fails_available : (s.available L).Fails .notCreated w := Endpoint.fails_fd bare _

theorem fails_read {length : Nat} (some : length ≠ 0) : (s.read L length).Fails .notCreated w := by
  rw [read, if_neg some]
  exact Endpoint.fails_receive bare length

theorem fails_readByte : (s.readByte L).Fails .notCreated w :=
  (fails_read bare (by decide)).andThen _

end InputStream

structure World.Shut (w : World σ) (s : Socket) : Prop where
  created : (w.socket s).created = true
  bare : w.handle s.endpoint = {}

namespace Socket

variable {L : Link σ} {s : Socket} {w : World σ}

theorem run_ensureCreated (created : (w.socket s).created = true) :
    s.ensureCreated L w = (.ok (), w) := by
  rw [ensureCreated, Action.run_bind]
  simp only [state, created]
  rfl

theorem fails_after_ensureCreated (created : (w.socket s).created = true)
    {rest : Unit → Action σ α} {e : SocketError} (fails : (rest ()).Fails e w) :
    (s.ensureCreated L >>= rest).Fails e w := by
  rw [Action.Fails, Action.run_bind, run_ensureCreated created]
  exact fails

variable (shut : w.Shut s)

include shut

theorem fd_shut : (w.handle s.endpoint).fd = none := congrArg Handle.fd shut.bare

theorem run_close : s.close L w = (.ok (), w) := by
  rw [close, Action.run_bind]
  simp only [state, shut.created]
  exact Endpoint.run_release_bare shut.bare

theorem fails_connect (a : Address) : (s.connect L a).Fails
    (if (w.socket s).connected then .alreadyConnected else .notCreated) w := by
  rw [Action.Fails, connect, Action.run_bind]
  simp only [state]
  split
  · exact ⟨rfl, .refl w⟩
  · exact fails_after_ensureCreated shut.created
      ((Endpoint.fails_connect (fd_shut shut) a 0).andThen _)

theorem fails_bind (a : Address) : (s.bind L a).Fails
    (if (w.socket s).bound then .alreadyBound else .notCreated) w := by
  apply fails_after_ensureCreated shut.created
  rw [Action.Fails, bindCreated, Action.run_bind]
  simp only [state]
  split
  · exact ⟨rfl, .refl w⟩
  · exact (Endpoint.fails_bind (fd_shut shut) a).andThen _

theorem fails_inputStream : (s.inputStream L).Fails .notCreated w :=
  fails_after_ensureCreated shut.created (Endpoint.fails_inputStream (fd_shut shut))

theorem fails_outputStream : (s.outputStream L).Fails .notCreated w :=
  fails_after_ensureCreated shut.created (Endpoint.fails_outputStream (fd_shut shut))

theorem fails_shutdownInput : (s.shutdownInput L).Fails .notCreated w :=
  fails_after_ensureCreated shut.created (Endpoint.fails_shutdown (fd_shut shut) .read)

theorem fails_shutdownOutput : (s.shutdownOutput L).Fails .notCreated w :=
  fails_after_ensureCreated shut.created (Endpoint.fails_shutdown (fd_shut shut) .write)

theorem fails_option (id : Int) : (s.option L id).Fails
    (SocketOption.refusal id fun _ => .notCreated) w := by
  rw [Action.Fails, option, Action.run_bind, SocketOption.refusal]
  cases SocketOption.ofId id with
  | error e => exact ⟨rfl, .refl w⟩
  | ok o => exact Endpoint.fails_getOption (fd_shut shut) o

theorem fails_setOption (id value : Int) : (s.setOption L id value).Fails
    (SocketOption.refusal id (·.objection value)) w := by
  rw [Action.Fails, setOption, Action.run_bind, SocketOption.refusal]
  cases SocketOption.ofId id with
  | error e => exact ⟨rfl, .refl w⟩
  | ok o => exact Endpoint.fails_setOption (fd_shut shut) o value

end Socket

namespace Transfer

variable {ε : Type} {failures : TransferFailures ε} {w : World σ} {e : ε}

theorem fill_failure {read : Nat → StateM (World σ) (Except ε (List UInt8))} {missing : Nat}
    (some : missing ≠ 0) {w' : World σ} (fails : read missing w = (.error e, w'))
    (final : failures.isInterrupted e = false) (patience : Nat) :
    fill read failures patience missing w = (([], .error e), w') := by
  rw [fill, if_neg some, World.run_bind, fails]
  cases patience with
  | zero => rfl
  | succ patience =>
    simp only [final]
    rfl

theorem drain_failure {write : List UInt8 → StateM (World σ) (Except ε Nat)} {bytes : List UInt8}
    (some : bytes ≠ []) {w' : World σ} (fails : write bytes w = (.error e, w'))
    (final : failures.isInterrupted e = false) (patience : Nat) :
    drain write failures patience bytes w = (.error e, w') := by
  cases bytes with
  | nil => exact absurd rfl some
  | cons b bs =>
    rw [drain, World.run_bind, fails]
    cases patience with
    | zero => rfl
    | succ patience =>
      simp only [final]
      rfl

theorem toEnd_failure {read : Nat → StateM (World σ) (Except ε (List UInt8))}
    {isInterrupted : ε → Bool} {buffer : GrowingBuffer} {w' : World σ}
    (fails : read buffer.room w = (.error e, w')) (final : isInterrupted e = false)
    (patience : Nat) :
    toEnd read isInterrupted patience buffer w = ((buffer.bytes, .error e), w') := by
  cases patience with
  | zero =>
    rw [toEnd, World.run_bind, fails]
    rfl
  | succ patience =>
    rw [toEnd, World.run_bind, fails]
    simp only [final]
    rfl

end Transfer

end ProcessorSockets
