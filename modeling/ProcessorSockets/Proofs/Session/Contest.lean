import ProcessorSockets.Proofs.Session.Once

namespace ProcessorSockets

open World (Continues)

variable {σ : Type}

namespace Session

namespace Contest

abbrev Answer := Except SocketError (Option InputStream)

def value : Answer → Value
  | .ok _ => .done
  | .error e => .failure e

variable (L : Link σ) (k : Socket)

def call : Contest → Action σ (Option InputStream)
  | .connect a => do
    k.connect L a
    return none
  | .bind a => do
    k.bind L a
    return none
  | .inputStream => do
    return some (← k.inputStream L)

def divided : Contest → Bool
  | .connect _ => false
  | .bind _ => true
  | .inputStream => true

def last : Contest → Action σ (Option InputStream)
  | .connect a => do
    k.connect L a
    return none
  | .bind a => do
    k.bindCreated L a
    return none
  | .inputStream => do
    return some (← k.endpoint.inputStream)

def again : Contest → Option InputStream → Answer
  | .connect _, _ => .error .alreadyConnected
  | .bind _, _ => .error .alreadyBound
  | .inputStream, stream => .ok stream

/-- Until a call goes well all fail for themselves, and after it all come to the same. -/
inductive Settles (c : Contest) : List Answer → Prop
  | unsettled (failures : List SocketError) : Settles c (failures.map .error)
  | settled (failures : List SocketError) (first : Option InputStream) (later : Nat) :
      Settles c (failures.map .error ++ .ok first :: List.replicate later (c.again first))

def inTurn : List Contest → StateM (World σ) (List Answer)
  | [] => pure []
  | c :: rest => do
    let answer ← (c.call L k).run
    return answer :: (← inTurn rest)

end Contest

end Session

namespace Socket

variable {k : Socket} {w w' : World σ}

theorem socket_update {α : Type} {step : Action σ α} {f : SocketState → SocketState}
    (run : (step >>= fun _ => k.update f) w = (.ok (), w')) (inside : k.index < w'.sockets.length) :
    ∃ st, w'.socket k = f st := by
  obtain ⟨_, w₁, -, ends⟩ := Action.bind_eq_ok.mp run
  cases ends
  exact ⟨w₁.socket k, World.socket_setSocket w₁ k _ (by simpa [World.setSocket] using inside)⟩

end Socket

namespace Endpoint

variable {ep : Endpoint} {w w' : World σ}

theorem inputStream_again {i : InputStream} (run : ep.inputStream w = (.ok i, w')) :
    ep.inputStream w' = (.ok i, w') := by
  cases has : (w.handle ep).fd with
  | none =>
    rw [inputStream, Action.run_bind, run_fd, has] at run
    cases run
  | some fd =>
    rw [run_inputStream has] at run
    cases cached : (w.endpoint ep).input with
    | some serial =>
      rw [cached] at run
      cases run
      rw [run_inputStream has, cached]
    | none =>
      rw [cached] at run
      cases run
      have inside := w.inside_of_handle has
      have here : World.endpoint { w.setEndpoint ep { w.endpoint ep with
          input := some w.nextStream } with nextStream := w.nextStream + 1 } ep =
          { w.endpoint ep with input := some w.nextStream } :=
        (w.endpoint_setEndpoint ep ep _).trans (if_pos ⟨rfl, inside⟩)
      have still : (World.handle { w.setEndpoint ep { w.endpoint ep with
          input := some w.nextStream } with nextStream := w.nextStream + 1 } ep).fd = some fd := by
        rw [World.handle, here]
        exact has
      rw [run_inputStream still, here]

end Endpoint

namespace Chronicle

open Session

variable {T : Transport σ} {k : Socket} {w w' : World σ}

theorem ensured_continues (holds : (Law.chronicle False k).holds w) :
    w.Continues False k (k.ensureCreated (.disturbed T) w).2 := by
  have ensured := ensured (T := T) holds
  generalize k.ensureCreated (.disturbed T) w = run at ensured
  cases ensured with
  | before _ => exact .refl w
  | failed _ _ _ _ continues _ _ => exact continues
  | made _ _ continues _ _ => exact continues

theorem ensured_created (holds : (Law.chronicle False k).holds w)
    (made : k.ensureCreated (.disturbed T) w = (.ok (), w')) : (w'.socket k).created = true := by
  have ensured := ensured (T := T) holds
  rw [made] at ensured
  cases ensured with
  | before created => exact created
  | made _ _ _ _ created => exact created

theorem last_continues (holds : (Law.chronicle False k).holds w) {c : Contest}
    (ready : c.divided = true → (w.socket k).created = true) :
    w.Continues True k (c.last (.disturbed T) k w).2 := by
  have permits : (Law.chronicle True k).Permits (.disturbed T) k.endpoint := permits interrupt
  cases c with
  | connect a =>
    exact (Law.Keeps.andThen (socket.connect a) fun _ => .return' _) w holds
  | bind a =>
    have bound := (bindCreated (T := T) holds (ready rfl) a).continues
    rw [Contest.last, Action.run_bind]
    generalize k.bindCreated (.disturbed T) a w = run at bound
    cases run with
    | mk r w' => cases r <;> exact bound
  | inputStream =>
    exact (Law.Keeps.andThen permits.inputStream fun _ => .return' _) w holds

theorem last_after (holds : (Law.chronicle False k).holds w)
    (made : k.ensureCreated (.disturbed T) w = (.ok (), w')) (c : Contest) :
    c.last (.disturbed T) k w' = c.call (.disturbed T) k w := by
  cases c with
  | connect a =>
    have continues := ensured_continues (T := T) holds
    have created := ensured_created holds made
    rw [made] at continues
    have same : (w'.socket k).connected = (w.socket k).connected :=
      congrArg (·.2.1) (continues.settled id)
    have alike : k.connect (.disturbed T) a w' = k.connect (.disturbed T) a w := by
      cases connected : (w.socket k).connected with
      | true =>
        have there := holds.2.2.2.created_of_bound (holds.2.2.2.bound_of_connected connected)
        rw [Socket.run_ensureCreated there] at made
        cases made
        rfl
      | false =>
        rw [Socket.connect, Action.run_bind, Action.run_bind]
        simp only [Socket.state, same, connected]
        change (k.ensureCreated (.disturbed T) >>= fun _ => _) w' =
          (k.ensureCreated (.disturbed T) >>= fun _ => _) w
        rw [Action.run_bind, Action.run_bind, made, Socket.run_ensureCreated created]
    rw [Contest.last, Contest.call, Action.run_bind, Action.run_bind, alike]
  | bind a =>
    rw [Contest.last, Contest.call, Action.run_bind, Action.run_bind, Socket.bind, Action.run_bind,
      made]
  | inputStream =>
    rw [Contest.last, Contest.call, Action.run_bind, Action.run_bind, Socket.inputStream,
      Action.run_bind, made]

theorem call_unmade {c : Contest} (divided : c.divided = true) {e : SocketError}
    (failed : k.ensureCreated (.disturbed T) w = (.error e, w')) :
    c.call (.disturbed T) k w = (.error e, w') := by
  cases c with
  | connect a => cases divided
  | bind a => rw [Contest.call, Action.run_bind, Socket.bind, Action.run_bind, failed]
  | inputStream =>
    rw [Contest.call, Action.run_bind, Socket.inputStream, Action.run_bind, failed]

theorem connected_of_ok {a : Address} (ok : k.connect (.disturbed T) a w = (.ok (), w'))
    (inside : k.index < w'.sockets.length) : (w'.socket k).connected = true := by
  cases free : (w.socket k).connected with
  | true =>
    rw [Socket.run_connect_connected free] at ok
    cases ok
  | false =>
    rw [Socket.connect, Action.run_bind] at ok
    simp only [Socket.state, free] at ok
    obtain ⟨_, w₁, -, ends⟩ := Action.bind_eq_ok.mp ok
    obtain ⟨st, is⟩ := Socket.socket_update ends inside
    rw [is]

theorem bound_of_ok {a : Address} (ok : k.bind (.disturbed T) a w = (.ok (), w'))
    (inside : k.index < w'.sockets.length) : (w'.socket k).bound = true := by
  obtain ⟨_, w₁, -, ends⟩ := Action.bind_eq_ok.mp ok
  rw [Socket.bindCreated, Action.run_bind] at ends
  cases free : (w₁.socket k).bound with
  | true =>
    simp only [Socket.state, free] at ends
    cases ends
  | false =>
    simp only [Socket.state, free] at ends
    obtain ⟨st, is⟩ := Socket.socket_update ends inside
    rw [is]

theorem call_again (holds : (Law.chronicle False k).holds w) {c : Contest}
    {first : Option InputStream} (called : c.call (.disturbed T) k w = (.ok first, w')) :
    c.call (.disturbed T) k w' = (c.again first, w') := by
  cases c with
  | connect a =>
    obtain ⟨_, w₁, run, ends⟩ := Action.bind_eq_ok.mp called
    cases ends
    have continues := (connect (T := T) holds a).continues
    rw [run] at continues
    have connected := connected_of_ok run (continues.houses holds.1).2
    rw [Contest.call, Action.run_bind, Socket.run_connect_connected connected]
    rfl
  | bind a =>
    obtain ⟨_, w₁, run, ends⟩ := Action.bind_eq_ok.mp called
    cases ends
    have continues := (bind (T := T) holds a).continues
    rw [run] at continues
    have bound := bound_of_ok run (continues.houses holds.1).2
    have created := (continues.chronicled holds.2.2.2).created_of_bound bound
    rw [Contest.call, Action.run_bind, Socket.run_bind_bound created bound]
    rfl
  | inputStream =>
    obtain ⟨i, w₂, run, ends⟩ := Action.bind_eq_ok.mp called
    cases ends
    obtain ⟨_, w₁, made, lent⟩ := Action.bind_eq_ok.mp run
    have continues := ensured_continues (T := T) holds
    rw [made] at continues
    have holds₁ := (Law.chronicle False k).stable holds continues
    have permits : (Law.chronicle False k).Permits (.disturbed T) k.endpoint := permits interrupt
    have kept := permits.inputStream w₁ holds₁
    rw [lent] at kept
    have created := kept.keeps.created (ensured_created holds made)
    rw [Contest.call, Action.run_bind, Socket.inputStream, Action.run_bind,
      Socket.run_ensureCreated created]
    simp only [Endpoint.inputStream_again lent]
    rfl

theorem call_undivided {c : Contest} (whole : c.divided = false) (L : Link σ) :
    c.last L k = c.call L k := by
  cases c with
  | connect a => rfl
  | _ => cases whole

end Chronicle

namespace Session

namespace Contest

variable {L : Link σ} {k : Socket}

theorem inTurn_append (first : List Contest) (c : Contest) (w : World σ) :
    inTurn L k (first ++ [c]) w =
      let r := inTurn L k first w
      (r.1 ++ [(c.call L k r.2).1], (c.call L k r.2).2) := by
  induction first generalizing w with
  | nil => rfl
  | cons c' rest ih =>
    change ((c'.call L k w).1 :: (inTurn L k (rest ++ [c]) (c'.call L k w).2).1,
      (inTurn L k (rest ++ [c]) (c'.call L k w).2).2) = _
    rw [ih]
    rfl

end Contest

namespace Contest

variable {T : Transport σ} {k : Socket} {w : World σ}

theorem inTurn_replicate_again {c : Contest} {answer : Answer} {L : Link σ}
    (again : c.call L k w = (answer, w)) (n : Nat) :
    inTurn L k (List.replicate n c) w = (List.replicate n answer, w) := by
  induction n with
  | zero => rfl
  | succ n ih =>
    change ((c.call L k w).1 :: (inTurn L k (List.replicate n c) (c.call L k w).2).1,
      (inTurn L k (List.replicate n c) (c.call L k w).2).2) = _
    rw [again]
    exact congrArg (fun r : List Answer × World σ => (answer :: r.1, r.2)) ih

theorem call_continues (holds : (Law.chronicle False k).holds w) (c : Contest) :
    w.Continues True k (c.call (.disturbed T) k w).2 := by
  have socket : (Law.chronicle True k).AdmitsSocket (.disturbed T) k := Chronicle.socket
  cases c with
  | connect a => exact (Law.Keeps.andThen (socket.connect a) fun _ => .return' _) w holds
  | bind a => exact (Law.Keeps.andThen (socket.bind a) fun _ => .return' _) w holds
  | inputStream => exact (Law.Keeps.andThen socket.retains.inputStream fun _ => .return' _) w holds

theorem settles_inTurn (holds : (Law.chronicle False k).holds w) (c : Contest) (n : Nat) :
    c.Settles (inTurn (.disturbed T) k (List.replicate n c) w).1 := by
  induction n generalizing w with
  | zero => exact .unsettled []
  | succ n ih =>
    change c.Settles ((c.call (.disturbed T) k w).1 ::
      (inTurn (.disturbed T) k (List.replicate n c) (c.call (.disturbed T) k w).2).1)
    have continues := call_continues (T := T) holds c
    cases called : c.call (.disturbed T) k w with
    | mk answer w' =>
      rw [called] at continues
      cases answer with
      | ok first =>
        simp only [inTurn_replicate_again (Chronicle.call_again holds called) n]
        exact .settled [] first n
      | error e =>
        have later := ih ((Law.chronicle True k).stable holds continues)
        dsimp only at later ⊢
        generalize (inTurn (.disturbed T) k (List.replicate n c) w').1 = answers at later
        cases later with
        | unsettled failures => exact .unsettled (e :: failures)
        | settled failures first later => exact .settled (e :: failures) first later

theorem contend_inTurn (L : Link σ) (c : Contest) (n : Nat) (w : World σ) :
    contend L k c n w =
      let r := inTurn L k (List.replicate n c) w
      (r.1.map value, r.2) := by
  induction n generalizing w with
  | zero => rfl
  | succ n ih =>
    have first : compete L k c w = ((value (c.call L k w).1, none), (c.call L k w).2) := by
      cases c with
      | connect a =>
        rw [call, Action.run_bind, compete, done, told]
        rcases k.connect L a w with ⟨e | _, w'⟩ <;> rfl
      | bind a =>
        rw [call, Action.run_bind, compete, done, told]
        rcases k.bind L a w with ⟨e | _, w'⟩ <;> rfl
      | inputStream =>
        rw [call, Action.run_bind, compete, told]
        rcases k.inputStream L w with ⟨e | i, w'⟩ <;> rfl
    change ((compete L k c w).1.1 :: (contend L k c n (compete L k c w).2).1,
      (contend L k c n (compete L k c w).2).2) = _
    rw [first, ih]
    rfl

end Contest

end Session

end ProcessorSockets
