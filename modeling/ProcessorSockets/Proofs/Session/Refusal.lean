import ProcessorSockets.Proofs.Bare
import ProcessorSockets.Proofs.Session.Object

namespace ProcessorSockets

variable {σ α : Type}

namespace Session

def contestRefusal (st : SocketState) : Contest → Value
  | .connect _ => .failure (if st.connected then .alreadyConnected else .notCreated)
  | .bind _ => .failure (if st.bound then .alreadyBound else .notCreated)
  | .inputStream => .failure .notCreated

def socketRefusal (st : SocketState) : Verb → Option Value
  | .connect _ _ => some (.failure (if st.connected then .alreadyConnected else .notCreated))
  | .bind _ => some (.failure (if st.bound then .alreadyBound else .notCreated))
  | .inputStream => some (.failure .notCreated)
  | .outputStream => some (.failure .notCreated)
  | .close => some .done
  | .shutdownInput => some (.failure .notCreated)
  | .shutdownOutput => some (.failure .notCreated)
  | .receiveBufferSize => some (.failure .notCreated)
  | .setReceiveBufferSize value => some (.failure (SocketOption.receiveBufferSize.objection value))
  | .sendBufferSize => some (.failure .notCreated)
  | .setSendBufferSize value => some (.failure (SocketOption.sendBufferSize.objection value))
  | .timeout => some (.failure .notCreated)
  | .setTimeout value => some (.failure (SocketOption.timeout.objection value))
  | .getOptionById id => some (.failure (SocketOption.refusal id fun _ => .notCreated))
  | .setOptionById id value => some (.failure (SocketOption.refusal id (·.objection value)))
  | .race contest callers => some (.several (List.replicate callers (contestRefusal st contest)))
  | _ => none

def inputRefusal : Verb → Option Value
  | .available => some (.failure .notCreated)
  | .read length => some (if length = 0 then .bytes [] else .failure .notCreated)
  | .readByte => some (.failure .notCreated)
  | .readExact length =>
    some (.buffer (if length = 0 then .ok () else .error .notCreated) (filled length []))
  | .close => some .done
  | .readNative length =>
    some (if length = 0 then .bytes [] else .nativeFailure SocketError.notCreated.toNative)
  | .readExactNative length => some (.nativeBuffer
      (if length = 0 then .ok () else .error SocketError.notCreated.toNative) (filled length []))
  | .readToEndNative => some (.nativeFailure SocketError.notCreated.toNative)
  | _ => none

def outputRefusal : Verb → Option Value
  | .write bytes => some (if bytes = [] then .number 0 else .failure .notCreated)
  | .writeByte _ => some (.failure .notCreated)
  | .writeAll bytes => some (if bytes = [] then .done else .failure .notCreated)
  | .close => some .done
  | .writeNative bytes =>
    some (if bytes = [] then .number 0 else .nativeFailure SocketError.notCreated.toNative)
  | .writeAllNative bytes =>
    some (if bytes = [] then .done else .nativeFailure SocketError.notCreated.toNative)
  | _ => none

theorem told_fails {value : α → Value} {a : Action σ α} {e : SocketError} {w : World σ}
    (fails : a.Fails e w) : (told value a w).1 = (.failure e, none) := by
  unfold told
  cases run : a w with
  | mk r w' =>
    have failed := fails.1
    rw [run] at failed
    cases failed
    rfl

theorem told_ok {value : α → Value} {a : Action σ α} {x : α} {w w' : World σ}
    (run : a w = (.ok x, w')) : (told value a w).1 = (value x, none) := by
  rw [told, run]

theorem made_fails {object : α → Object} {a : Action σ α} {e : SocketError} {w : World σ}
    (fails : a.Fails e w) : (made object a w).1 = (.failure e, none) := by
  unfold made
  cases run : a w with
  | mk r w' =>
    have failed := fails.1
    rw [run] at failed
    cases failed
    rfl

theorem toldNative_error {value : α → Value} {m : StateM (World σ) (Except NativeError α)}
    {e : NativeError} {w : World σ} (fails : (m w).1 = .error e) :
    (toldNative value m w).1 = (.nativeFailure e, none) := by
  unfold toldNative
  cases run : m w with
  | mk r w' =>
    rw [run] at fails
    cases fails
    rfl

theorem toldNative_ok {value : α → Value} {m : StateM (World σ) (Except NativeError α)}
    {x : α} {w w' : World σ} (run : m w = (.ok x, w')) :
    (toldNative value m w).1 = (value x, none) := by
  rw [toldNative, run]

section

variable {L : Link σ} {w : World σ}

theorem refused_told {value : α → Value} {a : Action σ α} {e : SocketError} (fails : a.Fails e w) :
    (told value a w).1.1 = .failure e ∧ w.Noted (told value a w).2 := by
  rw [told_fails fails, world_told]
  exact ⟨rfl, fails.2⟩

theorem refusal_compete {k : Socket} (shut : w.Shut k) (c : Contest) :
    (compete L k c w).1.1 = contestRefusal (w.socket k) c ∧ w.Noted (compete L k c w).2 := by
  cases c with
  | connect a => exact refused_told (Socket.fails_connect shut a)
  | bind a => exact refused_told (Socket.fails_bind shut a)
  | inputStream => exact refused_told (Socket.fails_inputStream shut)

theorem refusal_contend {k : Socket} (shut : w.Shut k) (c : Contest) (callers : Nat) :
    (contend L k c callers w).1 = List.replicate callers (contestRefusal (w.socket k) c) := by
  induction callers generalizing w with
  | zero => rfl
  | succ n ih =>
    obtain ⟨first, noted⟩ := refusal_compete (L := L) shut c
    have same : (compete L k c w).2.socket k = w.socket k := by
      rw [World.socket, noted.sockets]
      rfl
    have still : (compete L k c w).2.Shut k :=
      ⟨by rw [same]; exact shut.created, (noted.handle _).trans shut.bare⟩
    have rest := ih still
    rw [same] at rest
    change (compete L k c w).1.1 :: (contend L k c n (compete L k c w).2).1 = _
    rw [first, rest]
    rfl

theorem refusal_onSocket {k : Socket} (shut : w.Shut k) {verb : Verb} {value : Value}
    (refusal : socketRefusal (w.socket k) verb = some value) :
    (onSocket L k verb w).1 = (value, none) := by
  cases verb with
  | connect a timeout =>
    cases refusal
    exact told_fails (Socket.fails_connect shut a)
  | bind a =>
    cases refusal
    exact told_fails (Socket.fails_bind shut a)
  | inputStream =>
    cases refusal
    exact made_fails (Socket.fails_inputStream shut)
  | outputStream =>
    cases refusal
    exact made_fails (Socket.fails_outputStream shut)
  | close =>
    cases refusal
    exact told_ok (Socket.run_close shut)
  | shutdownInput =>
    cases refusal
    exact told_fails (Socket.fails_shutdownInput shut)
  | shutdownOutput =>
    cases refusal
    exact told_fails (Socket.fails_shutdownOutput shut)
  | receiveBufferSize =>
    cases refusal
    exact told_fails (Endpoint.fails_getOption (Socket.fd_shut shut) _)
  | setReceiveBufferSize value =>
    cases refusal
    exact told_fails (Endpoint.fails_setOption (Socket.fd_shut shut) _ value)
  | sendBufferSize =>
    cases refusal
    exact told_fails (Endpoint.fails_getOption (Socket.fd_shut shut) _)
  | setSendBufferSize value =>
    cases refusal
    exact told_fails (Endpoint.fails_setOption (Socket.fd_shut shut) _ value)
  | timeout =>
    cases refusal
    exact told_fails (Endpoint.fails_getOption (Socket.fd_shut shut) _)
  | setTimeout value =>
    cases refusal
    exact told_fails (Endpoint.fails_setOption (Socket.fd_shut shut) _ value)
  | getOptionById id =>
    cases refusal
    exact told_fails (Socket.fails_option shut id)
  | setOptionById id value =>
    cases refusal
    exact told_fails (Socket.fails_setOption shut id value)
  | race contest callers =>
    cases refusal
    exact congrArg (fun values => (Value.several values, none))
      (refusal_contend shut contest callers)
  | _ => cases refusal

theorem refusal_onInput {s : InputStream} (bare : w.handle s.endpoint = {}) {verb : Verb}
    {value : Value} (refusal : inputRefusal verb = some value) :
    (onInput L s verb w).1 = (value, none) := by
  have empty : (w.handle s.endpoint).fd = none := congrArg Handle.fd bare
  have reads {length : Nat} (some : length ≠ 0) : s.readNative L length w =
      (.error SocketError.notCreated.toNative, (s.readNative L length w).2) :=
    Prod.ext (InputStream.fails_read empty some).native.1 rfl
  cases verb with
  | available =>
    cases refusal
    exact told_fails (InputStream.fails_available empty)
  | read length =>
    cases refusal
    by_cases none : length = 0
    · subst none
      rfl
    · rw [if_neg none]
      exact told_fails (InputStream.fails_read empty none)
  | readByte =>
    cases refusal
    exact told_fails (InputStream.fails_readByte empty)
  | readExact length =>
    cases refusal
    have fails := (Endpoint.fails_receiveAll (L := L) empty (L.patience w) length).1
    exact congrArg (fun r => (Value.buffer r.2 (filled length r.1), none)) fails
  | close =>
    cases refusal
    exact told_ok (Endpoint.run_release_bare bare)
  | readNative length =>
    cases refusal
    by_cases none : length = 0
    · subst none
      rfl
    · rw [if_neg none]
      exact toldNative_error (congrArg Prod.fst (reads none))
  | readExactNative length =>
    cases refusal
    have fails : (s.readExactNative L length w).1 = ([], if length = 0 then .ok ()
        else .error SocketError.notCreated.toNative) := by
      unfold InputStream.readExactNative
      by_cases none : length = 0
      · rw [Transfer.fill, if_pos none, if_pos none]
        rfl
      · rw [if_neg none, Transfer.fill_failure none (reads none) rfl]
    exact congrArg (fun r => (Value.nativeBuffer r.2 (filled length r.1), none)) fails
  | readToEndNative =>
    cases refusal
    have fails : (s.readToEndNative L w).1 = ([], .error SocketError.notCreated.toNative) := by
      unfold InputStream.readToEndNative
      rw [Transfer.toEnd_failure (reads (by decide)) rfl]
    rw [onInput, World.run_bind, fails]
    rfl
  | _ => cases refusal

theorem refusal_onOutput {s : OutputStream} (bare : w.handle s.endpoint = {}) {verb : Verb}
    {value : Value} (refusal : outputRefusal verb = some value) :
    (onOutput L s verb w).1 = (value, none) := by
  have empty : (w.handle s.endpoint).fd = none := congrArg Handle.fd bare
  have writes {bytes : List UInt8} (some : bytes ≠ []) : (s.write L bytes).Fails .notCreated w := by
    rw [OutputStream.write, if_neg some]
    exact Endpoint.fails_transmit empty bytes
  cases verb with
  | write bytes =>
    cases refusal
    by_cases none : bytes = []
    · subst none
      rfl
    · rw [if_neg none]
      exact told_fails (writes none)
  | writeByte byte =>
    cases refusal
    exact told_fails (Endpoint.fails_transmitAll empty (L.patience w) (by nofun))
  | writeAll bytes =>
    cases refusal
    by_cases none : bytes = []
    · subst none
      have run : s.writeAll L [] w = (.ok (), w) := by
        rw [OutputStream.writeAll, Endpoint.transmitAll]
      exact told_ok run
    · rw [if_neg none]
      exact told_fails (Endpoint.fails_transmitAll empty (L.patience w) none)
  | close =>
    cases refusal
    exact told_ok (Endpoint.run_release_bare bare)
  | writeNative bytes =>
    cases refusal
    by_cases none : bytes = []
    · subst none
      rfl
    · rw [if_neg none]
      exact toldNative_error (writes none).native.1
  | writeAllNative bytes =>
    cases refusal
    by_cases none : bytes = []
    · subst none
      have run : s.writeAllNative L [] w = (.ok (), w) := by
        rw [OutputStream.writeAllNative, Transfer.drain]
        rfl
      exact toldNative_ok run
    · rw [if_neg none]
      have fails : s.writeNative L bytes w =
          (.error SocketError.notCreated.toNative, (s.writeNative L bytes w).2) :=
        Prod.ext (writes none).native.1 rfl
      apply toldNative_error
      rw [OutputStream.writeAllNative, Transfer.drain_failure none fails rfl]
  | _ => cases refusal

def refusal (st : SocketState) : Object → Verb → Option Value
  | .endpoint _, _ => none
  | .socket _, verb => socketRefusal st verb
  | .server _, _ => none
  | .input _, verb => inputRefusal verb
  | .output _, verb => outputRefusal verb

end

end Session

end ProcessorSockets
