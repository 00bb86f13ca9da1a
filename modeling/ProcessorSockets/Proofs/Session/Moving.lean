import ProcessorSockets.Proofs.Conduct.Dialogue
import ProcessorSockets.Proofs.Session.Once

namespace ProcessorSockets

variable {σ : Type}

variable {L : Link σ} {fd : Descriptor} {w : World σ}

theorem InputStream.reads (i : InputStream) {length : Nat} (some : length ≠ 0)
    (has : (w.handle i.endpoint).fd = .some fd) :
    ∃ w', (L.send (.some i.endpoint) (.read fd length) w).2.Noted w' ∧ i.read L length w =
      ((L.send (.some i.endpoint) (.read fd length) w).1.mapError (.native "read"), w') := by
  rw [InputStream.read, if_neg some, Endpoint.run_receive has]
  rcases L.send (.some i.endpoint) (.read fd length) w with ⟨e | bytes, w'⟩
  · exact ⟨w', .refl w', rfl⟩
  · exact ⟨_, .one w' rfl, rfl⟩

theorem OutputStream.writes (o : OutputStream) {bytes : List UInt8} (some : bytes ≠ [])
    (has : (w.handle o.endpoint).fd = .some fd) :
    ∃ w', (L.send (.some o.endpoint) (.write fd bytes) w).2.Noted w' ∧ o.write L bytes w =
      ((L.send (.some o.endpoint) (.write fd bytes) w).1.mapError (.native "write"), w') := by
  rw [OutputStream.write, if_neg some, Endpoint.run_transmit has]
  rcases L.send (.some o.endpoint) (.write fd bytes) w with ⟨e | n, w'⟩
  · exact ⟨w', .refl w', rfl⟩
  · exact ⟨_, .one w' rfl, rfl⟩

theorem InputStream.asks (i : InputStream) (has : (w.handle i.endpoint).fd = some fd) :
    i.available L w =
      ((L.send (some i.endpoint) (.available fd) w).1.mapError (.native "available"),
        (L.send (some i.endpoint) (.available fd) w).2) := by
  rw [InputStream.available, Action.run_bind, Endpoint.run_fd, has]
  rfl

theorem Endpoint.lends {ep : Endpoint} (has : (w.handle ep).fd = some fd) :
    ∃ serial w', ep.inputStream w = (.ok ⟨ep, serial⟩, w') ∧ w.Aloof ep w' ∧ w'.log = w.log := by
  rw [run_inputStream has]
  cases (w.endpoint ep).input with
  | some serial => exact ⟨serial, w, rfl, .refl w, rfl⟩
  | none => exact ⟨w.nextStream, _, rfl, .setEndpoint w ep _ _ fun _ => ⟨rfl, rfl⟩, rfl⟩

theorem Endpoint.lends_output {ep : Endpoint} (has : (w.handle ep).fd = some fd) :
    ∃ serial w', ep.outputStream w = (.ok ⟨ep, serial⟩, w') := by
  rw [run_outputStream has]
  cases (w.endpoint ep).output with
  | some serial => exact ⟨serial, w, rfl⟩
  | none => exact ⟨w.nextStream, _, rfl⟩

namespace Session

open Call (Drains Exhausts Fills)

/-- Objects that hand out streams, and what they hand out. -/
inductive Verb.Lends : Object → Verb → (Nat → Object) → Prop
  | inputHere (ep : Endpoint) :
      Lends (.endpoint ep) .inputStream fun serial => .input ⟨ep, serial⟩
  | outputHere (ep : Endpoint) :
      Lends (.endpoint ep) .outputStream fun serial => .output ⟨ep, serial⟩
  | input (k : Socket) :
      Lends (.socket k) .inputStream fun serial => .input ⟨k.endpoint, serial⟩
  | output (k : Socket) :
      Lends (.socket k) .outputStream fun serial => .output ⟨k.endpoint, serial⟩

/-- Transfers by one request about a descriptor, and what they tell of its answer. -/
inductive Verb.Moves (fd : Descriptor) :
    Object → Verb → (r : Request) → (Except NativeError r.Reply → Value) → Prop
  | read (i : InputStream) {length : Nat} (some : length ≠ 0) :
      Moves fd (.input i) (.read length) (.read fd length) fun
        | .ok bytes => .bytes bytes
        | .error e => .failure (.native "read" e)
  | readByte (i : InputStream) : Moves fd (.input i) .readByte (.read fd 1) fun
        | .ok bytes => .optionalByte bytes.head?
        | .error e => .failure (.native "read" e)
  | readNative (i : InputStream) {length : Nat} (some : length ≠ 0) :
      Moves fd (.input i) (.readNative length) (.read fd length) fun
        | .ok bytes => .bytes bytes
        | .error e => .nativeFailure e
  | write (o : OutputStream) {bytes : List UInt8} (some : bytes ≠ []) :
      Moves fd (.output o) (.write bytes) (.write fd bytes) fun
        | .ok n => .number n
        | .error e => .failure (.native "write" e)
  | writeNative (o : OutputStream) {bytes : List UInt8} (some : bytes ≠ []) :
      Moves fd (.output o) (.writeNative bytes) (.write fd bytes) fun
        | .ok n => .number n
        | .error e => .nativeFailure e
  | available (i : InputStream) : Moves fd (.input i) .available (.available fd) fun
        | .ok n => .number n
        | .error e => .failure (.native "available" e)
  | availableHere (ep : Endpoint) : Moves fd (.endpoint ep) .available (.available fd) fun
        | .ok n => .number n
        | .error e => .failure (.native "available" e)

/-- Transfers about a descriptor, their first request, and what they tell of all their calls. -/
inductive Verb.Transfers (fd : Descriptor) (patience : Nat) :
    Object → Verb → (first : Request) → (List Call → Value → Prop) → Prop
  | moves {o : Object} {verb : Verb} {r : Request} {tells : Except NativeError r.Reply → Value}
      (moves : verb.Moves fd o r tells) :
      Transfers fd patience o verb r fun calls value =>
        ∃ answer, calls = [⟨r, answer⟩] ∧ value = tells answer
  | readExact (i : InputStream) {length : Nat} (some : length ≠ 0) :
      Transfers fd patience (.input i) (.readExact length) (.read fd length) fun calls value =>
        ∃ bytes r, Fills fd patience length calls bytes r ∧ value = .buffer r (filled length bytes)
  | readExactNative (i : InputStream) {length : Nat} (some : length ≠ 0) :
      Transfers fd patience (.input i) (.readExactNative length) (.read fd length)
        fun calls value => ∃ bytes r r', Fills fd patience length calls bytes r ∧
          (r = .ok () ↔ r' = .ok ()) ∧ value = .nativeBuffer r' (filled length bytes)
  | readToEndNative (i : InputStream) :
      Transfers fd patience (.input i) .readToEndNative (.read fd GrowingBuffer.probeSize)
        fun calls value => ∃ bytes r, Exhausts fd patience {} calls bytes r ∧
          value = match r with
            | .ok () => .bytes bytes
            | .error e => .nativeFailure e
  | writeAll (o : OutputStream) {bytes : List UInt8} (some : bytes ≠ []) :
      Transfers fd patience (.output o) (.writeAll bytes) (.write fd bytes) fun calls value =>
        ∃ r, Drains fd patience bytes calls r ∧ value = match r with
          | .ok () => .done
          | .error e => .failure e
  | writeByte (o : OutputStream) (byte : UInt8) :
      Transfers fd patience (.output o) (.writeByte byte) (.write fd [byte]) fun calls value =>
        ∃ r, Drains fd patience [byte] calls r ∧ value = match r with
          | .ok () => .done
          | .error e => .failure e
  | writeAllNative (o : OutputStream) {bytes : List UInt8} (some : bytes ≠ []) :
      Transfers fd patience (.output o) (.writeAllNative bytes) (.write fd bytes)
        fun calls value => ∃ r r', Drains fd patience bytes calls r ∧
          (r = .ok () ↔ r' = .ok ()) ∧ value = match (r' : Except NativeError Unit) with
            | .ok () => .done
            | .error e => .nativeFailure e

variable {T : Transport σ} {around : Surroundings σ} {s : Session σ} {o : Object} {verb : Verb}
  {r : Request} {tells : Except NativeError r.Reply → Value}

theorem moves_outcome (around : Surroundings σ) {n : String} (found : s.find? n = some o)
    (has : (w.handle o.base).fd = some fd) (moves : verb.Moves fd o r tells) :
    ∃ w₀, w.Aloof o.base w₀ ∧ w₀.log = w.log ∧
      let sent := L.send (some o.base) r w₀
      (outcome L around s verb (some n) w).1 = (tells sent.1, none) ∧
        sent.2.Noted (outcome L around s verb (some n) w).2 := by
  simp only [outcome, found]
  cases moves with
  | @read i length some =>
    obtain ⟨w', noted, run⟩ := i.reads (L := L) some has
    refine ⟨w, .refl w, rfl, ?_⟩
    dsimp only [onInput, told, Object.base]
    rw [run]
    cases (L.send (.some i.endpoint) (.read fd length) w).1 <;> exact ⟨rfl, noted⟩
  | readByte i =>
    obtain ⟨w', noted, run⟩ := i.reads (L := L) Nat.one_ne_zero has
    refine ⟨w, .refl w, rfl, ?_⟩
    dsimp only [onInput, told, InputStream.readByte, Object.base]
    rw [Action.run_bind, run]
    cases (L.send (.some i.endpoint) (.read fd 1) w).1 <;> exact ⟨rfl, noted⟩
  | @readNative i length some =>
    obtain ⟨w', noted, run⟩ := i.reads (L := L) some has
    refine ⟨w, .refl w, rfl, ?_⟩
    dsimp only [onInput, toldNative, InputStream.readNative, Action.native, Object.base]
    rw [run]
    cases (L.send (.some i.endpoint) (.read fd length) w).1 <;> exact ⟨rfl, noted⟩
  | @write i bytes some =>
    obtain ⟨w', noted, run⟩ := i.writes (L := L) some has
    refine ⟨w, .refl w, rfl, ?_⟩
    dsimp only [onOutput, told, Object.base]
    rw [run]
    cases (L.send (.some i.endpoint) (.write fd bytes) w).1 <;> exact ⟨rfl, noted⟩
  | @writeNative i bytes some =>
    obtain ⟨w', noted, run⟩ := i.writes (L := L) some has
    refine ⟨w, .refl w, rfl, ?_⟩
    dsimp only [onOutput, toldNative, OutputStream.writeNative, Action.native, Object.base]
    rw [run]
    cases (L.send (.some i.endpoint) (.write fd bytes) w).1 <;> exact ⟨rfl, noted⟩
  | available i =>
    refine ⟨w, .refl w, rfl, ?_⟩
    dsimp only [onInput, told, Object.base]
    rw [i.asks (L := L) has]
    rcases L.send (.some i.endpoint) (.available fd) w with ⟨e | n, w'⟩ <;> exact ⟨rfl, .refl w'⟩
  | availableHere ep =>
    obtain ⟨serial, w₀, lent, aloof, log⟩ := ep.lends has
    refine ⟨w₀, aloof, log, ?_⟩
    have has' : (w₀.handle ep).fd = some fd := (congrArg Handle.fd aloof.handle).trans has
    dsimp only [onEndpoint, told, Object.base]
    rw [Action.run_bind, lent]
    dsimp only
    rw [InputStream.asks (L := L) ⟨ep, serial⟩ has']
    rcases L.send (some ep) (.available fd) w₀ with ⟨e | n, w'⟩ <;> exact ⟨rfl, .refl w'⟩

theorem lends_outcome (L : Link σ) (around : Surroundings σ) {n : String}
    (found : s.find? n = some o) (has : (w.handle o.base).fd = some fd)
    (made : ∀ k, o = .socket k → (w.socket k).created = true) {stream : Nat → Object}
    (lends : verb.Lends o stream) :
    ∃ serial, (outcome L around s verb (some n) w).1 = (.done, some (stream serial)) := by
  simp only [outcome, found]
  cases lends with
  | inputHere ep =>
    obtain ⟨serial, w', lent, -⟩ := ep.lends has
    refine ⟨serial, ?_⟩
    dsimp only [onEndpoint, Session.made]
    rw [lent]
  | outputHere ep =>
    obtain ⟨serial, w', lent⟩ := ep.lends_output has
    refine ⟨serial, ?_⟩
    dsimp only [onEndpoint, Session.made]
    rw [lent]
  | input k =>
    obtain ⟨serial, w', lent, -⟩ := k.endpoint.lends has
    refine ⟨serial, ?_⟩
    dsimp only [onSocket, Session.made, Socket.inputStream]
    rw [Action.run_bind, Socket.run_ensureCreated (made k rfl)]
    dsimp only
    rw [lent]
  | output k =>
    obtain ⟨serial, w', lent⟩ := k.endpoint.lends_output has
    refine ⟨serial, ?_⟩
    dsimp only [onSocket, Session.made, Socket.outputStream]
    rw [Action.run_bind, Socket.run_ensureCreated (made k rfl)]
    dsimp only
    rw [lent]

theorem Verb.Lends.kept {stream : Nat → Object} (lends : verb.Lends o stream) :
    verb ≠ .drop := by
  cases lends <;> nofun

theorem lends_step (around : Surroundings σ) (chronicled : s.Chronicled) {n : String}
    (found : s.find? n = some o) (owns : s.world.handle o.base = .owning fd)
    {stream : Nat → Object} (lends : verb.Lends o stream) (as : String) (ms : List Meanwhile) :
    ∃ serial,
      (runStep (.disturbed T) around (.act verb (some n) (some as) ms) s).2.find? as =
        some (stream serial) := by
  have has : ((s.amid ms).handle o.base).fd = some fd := by
    rw [handle_amid, owns]
    rfl
  have made (k : Socket) (is : o = .socket k) : ((s.amid ms).socket k).created = true := by
    obtain ⟨houses, holds⟩ := chronicled _ (mem_of_find? found) k is
    rw [(told_amid houses ms).socket]
    -- A socket that was not made has nothing.
    by_contra unmade
    subst is
    cases owns.symm.trans (holds.2.2.2.bare (by simpa using unmade))
  obtain ⟨serial, result⟩ := lends_outcome (.disturbed T) around found has made lends
  obtain ⟨-, run⟩ := run_step (.disturbed T) around s
    (.inl lends.kept : verb ≠ .drop ∨ some n = none) (some as) ms
  rw [result] at run
  refine ⟨serial, ?_⟩
  rw [run]
  exact find?_place _ as (stream serial)

theorem Verb.Moves.kept (moves : verb.Moves fd o r tells) : verb ≠ .drop := by
  cases moves <;> nofun

theorem moves_step {n : String} (found : s.find? n = some o)
    (has : (s.world.handle o.base).fd = some fd) (moves : verb.Moves fd o r tells)
    (as : Option String) (ms : List Meanwhile) :
    let step := runStep (.disturbed T) around (.act verb (some n) as ms) s
    ∃ answer, s.world.Heard o.base r answer step.2.world ∧ step.1.value = tells answer := by
  obtain ⟨w₀, -, same, result, noted⟩ :=
    moves_outcome (L := .disturbed T) (w := s.amid ms) around found (by simpa using has) moves
  have heard := Growth.heard_send (T := T) o.base r w₀
  obtain ⟨value, run⟩ := run_step (.disturbed T) around s
    (.inl moves.kept : verb ≠ .drop ∨ some n = none) as ms
  rw [result] at value run
  refine ⟨_, ?_, value⟩
  obtain ⟨during, after, log⟩ := heard.later (Law.growth.noted noted)
  rw [same, log_amid] at log
  exact ⟨during, after, by rw [run, log_past]; exact log⟩

variable {first : Request} {told : List Call → Value → Prop} {patience : Nat}

theorem Verb.Transfers.kept (transfers : verb.Transfers fd patience o first told) :
    verb ≠ .drop := by
  cases transfers with
  | moves moves => exact moves.kept
  | _ => nofun

theorem transferred_moves (around : Surroundings σ) {n : String} (found : s.find? n = some o)
    (has : (w.handle o.base).fd = some fd) (moves : verb.Moves fd o r tells) :
    let run := outcome (.disturbed T) around s verb (some n) w
    run.1.2 = none ∧ w.Transferred o.base fd r
      (fun calls value => ∃ answer, calls = [⟨r, answer⟩] ∧ value = tells answer)
      (run.1.1, run.2) := by
  obtain ⟨w₀, aloof, log, result, noted⟩ :=
    moves_outcome (L := .disturbed T) around found has moves
  dsimp only
  rw [result]
  refine ⟨rfl, ?_, fun holds owns => ?_⟩
  · have heard := (Growth.heard_send (T := T) o.base r w₀).later (Law.growth.noted noted)
    rw [World.Heard, log] at heard
    exact ⟨_, heard⟩
  · have dialogue := Retained.dialogue T o.base fd
    have here := dialogue.lasts ⟨holds, owns⟩ aloof.engaged
    have sent := dialogue.after (dialogue.send here r) noted
    exact ⟨_, dialogue.trans aloof.engaged sent, _, rfl, rfl⟩

theorem transferred_outcome (around : Surroundings σ) {n : String} (found : s.find? n = some o)
    (has : (w.handle o.base).fd = some fd)
    (transfers : verb.Transfers fd (T.patience w.transport) o first told) :
    let run := outcome (.disturbed T) around s verb (some n) w
    run.1.2 = none ∧ w.Transferred o.base fd first told (run.1.1, run.2) := by
  cases transfers with
  | moves moves => exact transferred_moves around found has moves
  | @readExact i length some =>
    simp only [outcome, found]
    have moved := World.Transferred.readExact (T := T) has some
    exact ⟨rfl, moved.map fun _ fills => ⟨_, _, fills, rfl⟩⟩
  | @readExactNative i length some =>
    simp only [outcome, found]
    have moved := World.Transferred.readExactNative (T := T) has some
    refine ⟨rfl, moved.map ?_⟩
    rintro calls ⟨r, fills, alike⟩
    exact ⟨_, r, _, fills, alike, rfl⟩
  | readToEndNative i =>
    simp only [outcome, found]
    have moved := World.Transferred.readToEndNative (T := T) has
    dsimp only [onInput]
    rw [World.run_bind]
    generalize i.readToEndNative (.disturbed T) w = run at moved
    obtain ⟨⟨bytes, r⟩, w'⟩ := run
    cases r <;> exact ⟨rfl, moved.map fun _ exhausts => ⟨_, _, exhausts, rfl⟩⟩
  | @writeAll o bytes some =>
    simp only [outcome, found]
    have moved := World.Transferred.writeAll (T := T) has some
    dsimp only [onOutput, done, Session.told]
    generalize o.writeAll (.disturbed T) bytes w = run at moved
    obtain ⟨r, w'⟩ := run
    cases r <;> exact ⟨rfl, moved.map fun _ drains => ⟨_, drains, rfl⟩⟩
  | writeByte o byte =>
    simp only [outcome, found]
    have moved := World.Transferred.writeAll (T := T) has (List.cons_ne_nil byte [])
    dsimp only [onOutput, done, Session.told, OutputStream.writeByte]
    generalize o.writeAll (.disturbed T) [byte] w = run at moved
    obtain ⟨r, w'⟩ := run
    cases r <;> exact ⟨rfl, moved.map fun _ drains => ⟨_, drains, rfl⟩⟩
  | @writeAllNative o bytes some =>
    simp only [outcome, found]
    have moved := World.Transferred.writeAllNative (T := T) has some
    dsimp only [onOutput, toldNative]
    generalize o.writeAllNative (.disturbed T) bytes w = run at moved
    obtain ⟨r', w'⟩ := run
    cases r'
    all_goals
      refine ⟨rfl, moved.map ?_⟩
      rintro calls ⟨r, drains, alike⟩
      exact ⟨r, _, drains, alike, rfl⟩

/-- Whoever acts meanwhile, a transfer asks for its first request at once; if nobody asks the
endpoint to close, all that the endpoint says is the calls that it tells of. -/
theorem transfers_step (around : Surroundings σ) {n : String} (found : s.find? n = some o)
    (owns : s.world.handle o.base = .owning fd)
    (transfers : verb.Transfers fd (T.patience s.world.transport) o first told)
    (as : Option String) (ms : List Meanwhile) :
    let step := runStep (.disturbed T) around (.act verb (some n) as ms) s
    (∃ answer, s.world.Heard o.base first answer step.2.world) ∧
      ((Law.retained o.base).holds (s.amid ms) → ∃ calls,
        step.2.world.talk o.base = s.world.talk o.base ++ calls.flatMap (·.entries (some o.base)) ∧
        told calls step.1.value) := by
  have here : (s.amid ms).handle o.base = .owning fd := (handle_amid ..).trans owns
  rw [← transport_amid s ms] at transfers
  obtain ⟨silent, moved⟩ := transferred_outcome (T := T) (w := s.amid ms) around found
    (congrArg Handle.fd here) transfers
  obtain ⟨value, run⟩ := run_step (.disturbed T) around s
    (.inl transfers.kept : verb ≠ .drop ∨ some n = none) as ms
  rw [silent] at run
  constructor
  · obtain ⟨answer, during, after, log⟩ := moved.heard
    rw [log_amid] at log
    exact ⟨answer, during, after, by rw [run, log_past]; exact log⟩
  · intro holds
    obtain ⟨calls, engaged, telling⟩ := moved.engaged holds here
    refine ⟨calls, ?_, by rwa [value]⟩
    have talk := engaged.talk
    simp only [World.talk, log_amid] at talk
    rw [run, World.talk, log_past]
    exact talk

end Session

end ProcessorSockets
