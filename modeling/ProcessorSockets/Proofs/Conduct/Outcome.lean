import ProcessorSockets.Proofs.Conduct.Server
import ProcessorSockets.Proofs.Conduct.Stream
import ProcessorSockets.Proofs.Session.Object

namespace ProcessorSockets

open World (Begins Conduct Failure Performed Made)

variable {σ α : Type}

namespace Session

def Value.error? : Value → Option SocketError
  | .failure e => some e
  | .buffer (.error e) _ => some e
  | _ => none

def Verb.adopts? : Verb → Option Descriptor
  | .adoptEndpoint fd => some fd
  | .adoptSocket fd => some fd
  | .adoptServer fd => some fd
  | _ => none

def Carries (adopts : Option Descriptor) (caller : Option Endpoint) (w : World σ)
    (run : Outcome × World σ) : Prop :=
  ∃ w₀ on calls, w.Begins adopts w₀ ∧ w₀.Conduct caller on calls run.2 ∧
    ∀ e, run.1.1.error? = some e →
      run.1.2 = none ∧ ∃ ep, caller = some ep ∧ w.Failure ep e calls run.2

namespace Carries

variable {adopts : Option Descriptor} {caller : Option Endpoint} {ep on : Endpoint} {w : World σ}

theorem conduct {run : Outcome × World σ} {calls : List Call}
    (conduct : w.Conduct caller on calls run.2) (well : run.1.1.error? = none) :
    Carries adopts caller w run := by
  refine ⟨w, on, calls, .there, conduct, fun e is => ?_⟩
  rw [well] at is
  cases is

theorem look {o : Outcome} (well : o.1.error? = none) : Carries adopts caller w (o, w) :=
  have stays : w.Conduct caller ⟨0⟩ [] w := .refl w
  conduct stays well

theorem told {value : α → Value} {a : Action σ α} (well : ∀ x, (value x).error? = none)
    (performed : w.Performed ep on (a w)) :
    Carries adopts (some ep) w (told value a w) := by
  obtain ⟨calls, conduct, fails⟩ := performed
  unfold Session.told
  match run : a w with
  | (.ok x, w') =>
    rw [run] at conduct
    exact .conduct conduct (well x)
  | (.error e, w') =>
    rw [run] at conduct fails
    refine ⟨w, on, calls, .there, conduct, fun e' is => ⟨rfl, ep, rfl, ?_⟩⟩
    cases is
    exact fails e rfl

theorem made {object : α → Object} {a : Action σ α} (maker : w.Made adopts ep on (a w)) :
    Carries adopts (some ep) w (made object a w) := by
  obtain ⟨w₀, calls, begins, conduct, fails⟩ := maker
  unfold Session.made
  match run : a w with
  | (.ok x, w') =>
    rw [run] at conduct
    exact ⟨w₀, on, calls, begins, conduct, nofun⟩
  | (.error e, w') =>
    rw [run] at conduct fails
    refine ⟨w₀, on, calls, begins, conduct, fun e' is => ⟨rfl, ep, rfl, ?_⟩⟩
    cases is
    exact fails e rfl

theorem lent {object : α → Object} {a : Action σ α} (performed : w.Performed ep on (a w)) :
    Carries adopts (some ep) w (Session.made object a w) := by
  obtain ⟨calls, conduct, fails⟩ := performed
  exact made ⟨w, calls, .there, conduct, fails⟩

theorem toldNative {value : α → Value} {m : StateM (World σ) (Except NativeError α)}
    {calls : List Call} (well : ∀ x, (value x).error? = none)
    (conduct : w.Conduct caller on calls (m w).2) :
    Carries adopts caller w (Session.toldNative value m w) := by
  unfold Session.toldNative
  match run : m w with
  | (.ok x, w') =>
    rw [run] at conduct
    exact .conduct conduct (well x)
  | (.error e, w') =>
    rw [run] at conduct
    exact .conduct conduct rfl

end Carries

variable {L : Link σ} {w : World σ} {adopts : Option Descriptor} (straight : L.Straight)
  (quiet : w.disturbances = [])

include straight quiet

theorem carries_onEndpoint (ep : Endpoint) (into : Option Endpoint)
    (inside : ep.index < w.endpoints.length)
    (place : ∀ other, into = some other → other.index < w.endpoints.length) (verb : Verb) :
    Carries adopts (some ep) w (onEndpoint L ep into verb w) := by
  have done {a : Action σ Unit} (performs : ep.Performs a) :
      Carries adopts (some ep) w (done a w) :=
    .told (fun _ => rfl) (performs w quiet inside)
  have number {a : Action σ Int} (performs : ep.Performs a) :
      Carries adopts (some ep) w (number a w) :=
    .told (fun _ => rfl) (performs w quiet inside)
  cases verb with
  | create kind => exact done (ep.performs_create straight kind)
  | bind a =>
    exact done (.ofWorks (fun _ => .bindName straight a) fun _ bare => Endpoint.fails_bind bare a)
  | listen backlog =>
    exact done (.ofWorks (fun _ => .listen straight backlog)
      fun _ bare => Endpoint.fails_listen bare backlog)
  | acceptInto name =>
    cases into with
    | none => exact .look rfl
    | some other =>
      obtain ⟨calls, conduct, fails⟩ := ep.conduct_accept straight other quiet (place other rfl)
      exact .told (fun _ => rfl) ⟨calls, conduct, fun e is => (fails e is).failure⟩
  | connect a timeout =>
    exact done (.ofWorks (fun _ => .connect straight a timeout)
      fun _ bare => Endpoint.fails_connect bare a timeout)
  | close => exact done (ep.performs_close straight)
  | release => exact done (ep.performs_release straight)
  | shutdown half =>
    exact done (.ofWorks (fun _ => .shutdown straight half)
      fun _ bare => Endpoint.fails_shutdown bare half)
  | getOption option =>
    exact number (.ofWorks (fun _ => .getOption straight option)
      fun _ bare => Endpoint.fails_getOption bare option)
  | setOption option value => exact done (ep.performs_setOption straight option value)
  | inputStream =>
    exact .lent (Endpoint.Performs.ofWorks (fun _ => .inputStream)
      (fun _ bare => Endpoint.fails_inputStream bare) w quiet inside)
  | outputStream =>
    exact .lent (Endpoint.Performs.ofWorks (fun _ => .outputStream)
      (fun _ bare => Endpoint.fails_outputStream bare) w quiet inside)
  | available =>
    exact .told (fun _ => rfl) (Endpoint.Performs.ofWorks (fun _ => .availableHere straight)
      (fun _ bare => (Endpoint.fails_inputStream bare).andThen _) w quiet inside)
  | transportName => exact .look rfl
  | description => exact .look rfl
  | display => exact .look rfl
  | _ => exact .look rfl

theorem carries_onInput (s : InputStream) (inside : s.endpoint.index < w.endpoints.length)
    (verb : Verb) : Carries adopts (some s.endpoint) w (onInput L s verb w) := by
  cases verb with
  | available => exact .told (fun _ => rfl) (s.performs_available straight w quiet inside)
  | read length => exact .told (fun _ => rfl) (s.performs_read straight length w quiet inside)
  | readByte => exact .told (fun _ => rfl) (s.performs_readByte straight w quiet inside)
  | readExact length =>
    obtain ⟨calls, conduct, fails⟩ := s.performs_readExact straight length w quiet inside
    dsimp only at conduct fails
    change Carries adopts _ w ((.buffer (s.readExact L length w).1.2
      (filled length (s.readExact L length w).1.1), none), (s.readExact L length w).2)
    generalize s.readExact L length w = run at conduct fails ⊢
    obtain ⟨⟨bytes, r⟩, w'⟩ := run
    cases r with
    | ok _ => exact .conduct conduct rfl
    | error e =>
      refine ⟨w, s.endpoint, calls, .there, conduct, fun e' is => ⟨rfl, s.endpoint, rfl, ?_⟩⟩
      cases is
      exact fails e rfl
  | close => exact .told (fun _ => rfl) (s.endpoint.performs_release straight w quiet inside)
  | description => exact .look rfl
  | readNative length =>
    obtain ⟨calls, conduct⟩ := Endpoint.conduct_work s.endpoint
      (fun has => (s.keeps_read straight length has).native) quiet
    exact .toldNative (fun _ => rfl) conduct
  | readExactNative length =>
    obtain ⟨calls, conduct⟩ :=
      Endpoint.conduct_work s.endpoint (s.keeps_readExactNative straight length) quiet
    exact .conduct conduct rfl
  | readToEndNative =>
    obtain ⟨calls, conduct⟩ :=
      Endpoint.conduct_work s.endpoint (s.keeps_readToEndNative straight) quiet
    rw [onInput, World.run_bind]
    generalize s.readToEndNative L w = run at conduct ⊢
    obtain ⟨⟨bytes, e | _⟩, w'⟩ := run
    · exact .conduct conduct rfl
    · exact .conduct conduct rfl
  | _ => exact .look rfl

theorem carries_onOutput (s : OutputStream) (inside : s.endpoint.index < w.endpoints.length)
    (verb : Verb) : Carries adopts (some s.endpoint) w (onOutput L s verb w) := by
  cases verb with
  | write bytes => exact .told (fun _ => rfl) (s.performs_write straight bytes w quiet inside)
  | writeByte byte => exact .told (fun _ => rfl) (s.performs_writeByte straight byte w quiet inside)
  | writeAll bytes => exact .told (fun _ => rfl) (s.performs_writeAll straight bytes w quiet inside)
  | flush => exact .look rfl
  | close => exact .told (fun _ => rfl) (s.endpoint.performs_release straight w quiet inside)
  | description => exact .look rfl
  | writeNative bytes =>
    obtain ⟨calls, conduct⟩ := Endpoint.conduct_work s.endpoint
      (fun has => (s.keeps_write straight bytes has).native) quiet
    exact .toldNative (fun _ => rfl) conduct
  | writeAllNative bytes =>
    obtain ⟨calls, conduct⟩ :=
      Endpoint.conduct_work s.endpoint (s.keeps_writeAllNative straight bytes) quiet
    exact .toldNative (fun _ => rfl) conduct
  | flushNative => exact .look rfl
  | _ => exact .look rfl

theorem carries_onServer (s : Server) (inside : s.endpoint.index < w.endpoints.length)
    (verb : Verb) : Carries verb.adopts? (some s.endpoint) w (onServer L s verb w) := by
  cases verb with
  | accept => exact .made (Server.made_accept straight quiet s)
  | close => exact .told (fun _ => rfl) (s.endpoint.performs_release straight w quiet inside)
  | localAddress =>
    have performed : w.Performed s.endpoint s.endpoint (s.localAddress w) := by
      unfold Server.localAddress
      cases s.address? with
      | some a => exact .idle a (.refl w)
      | none => exact .refused rfl (.refl w)
    exact .told (fun _ => rfl) performed
  | description => exact .look rfl
  | _ => exact .look rfl

section

variable {k : Socket} (holds : (Law.chronicle True k).holds w)

include holds

theorem conduct_compete (c : Contest) : ∃ calls,
    w.Conduct (some k.endpoint) k.endpoint calls (compete L k c w).2 := by
  cases c with
  | connect a =>
    obtain ⟨calls, conduct, _⟩ := Socket.performed_connect straight quiet holds a
    exact ⟨calls, (world_told _ _ w).symm ▸ conduct⟩
  | bind a =>
    obtain ⟨calls, conduct, _⟩ := Socket.performed_bind straight quiet holds a
    exact ⟨calls, (world_told _ _ w).symm ▸ conduct⟩
  | inputStream =>
    obtain ⟨calls, conduct, _⟩ := Socket.performed_inputStream straight quiet holds
    exact ⟨calls, (world_told _ _ w).symm ▸ conduct⟩

theorem conduct_contend (keeps : ∀ c, (Law.chronicle True k).Keeps (compete L k c)) (c : Contest)
    (n : Nat) : ∃ calls, w.Conduct (some k.endpoint) k.endpoint calls (contend L k c n w).2 := by
  induction n generalizing w with
  | zero => exact ⟨[], .refl w⟩
  | succ n ih =>
    obtain ⟨calls, first⟩ := conduct_compete straight quiet holds c
    obtain ⟨more, rest⟩ := ih (first.disturbances.trans quiet)
      ((Law.chronicle True k).stable holds (keeps c w holds))
    exact ⟨calls ++ more, first.trans rest⟩

theorem carries_onSocket (keeps : ∀ c, (Law.chronicle True k).Keeps (compete L k c)) (verb : Verb) :
    Carries adopts (some k.endpoint) w (onSocket L k verb w) := by
  have inside := holds.1.1
  have done {a : Action σ Unit} (performed : w.Performed k.endpoint k.endpoint (a w)) :
      Carries adopts (some k.endpoint) w (done a w) := .told (fun _ => rfl) performed
  have number {a : Action σ Int} (performed : w.Performed k.endpoint k.endpoint (a w)) :
      Carries adopts (some k.endpoint) w (number a w) := .told (fun _ => rfl) performed
  have gets (option : SocketOption) : k.endpoint.Performs (k.endpoint.getOption L option) :=
    .ofWorks (fun _ => .getOption straight option)
      fun _ bare => Endpoint.fails_getOption bare option
  have sets (value : Int) (option : SocketOption) :=
    k.endpoint.performs_setOption straight option value
  have refuses {α : Type} (value : α → Value) (well : ∀ x, (value x).error? = none)
      (operation : String) : Carries adopts (some k.endpoint) w
        (told value (throw (.unsupported operation)) w) :=
    have refused : w.Performed k.endpoint k.endpoint
        ((throw (.unsupported operation) : Action σ α) w) := .refused rfl (.refl w)
    .told well refused
  cases verb with
  | connect a timeout => exact done (Socket.performed_connect straight quiet holds a)
  | connectTimeout a timeout => exact refuses (fun _ : Unit => .done) (fun _ => rfl) _
  | bind a => exact done (Socket.performed_bind straight quiet holds a)
  | inputStream => exact .lent (Socket.performed_inputStream straight quiet holds)
  | outputStream => exact .lent (Socket.performed_outputStream straight quiet holds)
  | close => exact done (Socket.performed_close straight quiet holds)
  | shutdownInput => exact done (Socket.performed_shutdownInput straight quiet holds)
  | shutdownOutput => exact done (Socket.performed_shutdownOutput straight quiet holds)
  | receiveBufferSize => exact number (gets .receiveBufferSize w quiet inside)
  | setReceiveBufferSize value => exact done (sets value .receiveBufferSize w quiet inside)
  | sendBufferSize => exact number (gets .sendBufferSize w quiet inside)
  | setSendBufferSize value => exact done (sets value .sendBufferSize w quiet inside)
  | timeout => exact number (gets .timeout w quiet inside)
  | setTimeout value => exact done (sets value .timeout w quiet inside)
  | getOptionById id => exact number (Socket.performed_ofId quiet inside gets id)
  | setOptionById id value => exact done (Socket.performed_ofId quiet inside (sets value) id)
  | socketAddress => exact refuses .address (fun _ => rfl) _
  | isClosed => exact refuses .truth (fun _ => rfl) _
  | isInputShutdown => exact refuses .truth (fun _ => rfl) _
  | isOutputShutdown => exact refuses .truth (fun _ => rfl) _
  | kind => exact .look rfl
  | description => exact .look rfl
  | display => exact .look rfl
  | race c callers =>
    obtain ⟨calls, conduct⟩ := conduct_contend straight quiet holds keeps c callers
    exact .conduct conduct rfl
  | _ => exact .look rfl

end

theorem carries_onNone (around : Surroundings σ) (verb : Verb) :
    ∃ caller, (∀ ep, caller = some ep → ep = w.next) ∧
      Carries verb.adopts? caller w (onNone L around verb w) := by
  have maker {run : Outcome × World σ} (h : Carries verb.adopts? (some w.next) w run) :
      ∃ caller, (∀ ep, caller = some ep → ep = w.next) ∧ Carries verb.adopts? caller w run :=
    ⟨some w.next, by simp, h⟩
  have looks {o : Outcome} (well : o.1.error? = none) :
      ∃ caller, (∀ ep, caller = some ep → ep = w.next) ∧ Carries verb.adopts? caller w (o, w) :=
    ⟨none, nofun, .look well⟩
  cases verb with
  | newEndpoint => exact maker (.made (.silent (.refl w) _ (.refl _)))
  | adoptEndpoint fd => exact maker (.made (.silent (.refl w) _ (.refl _)))
  | newSocket kind =>
    have begun : (Endpoint.make {} w).2.Conduct (some w.next) w.next [] _ := .refl _
    exact maker (.made (.silent (.refl w) _ { begun with }))
  | adoptSocket fd =>
    have begun : (Endpoint.make { fd := some fd }
        (w.add [.event ⟨.debug, "Adopting connected descriptor"⟩])).2.Conduct
        (some w.next) w.next [] _ := .refl _
    exact maker (.made (.silent (.one w rfl) _ { begun with }))
  | bindServer name => exact maker (.made (Server.made_bind straight quiet name))
  | adoptServer fd => exact maker (.made (Server.made_adopt straight quiet fd))
  | fileExists path => exact looks rfl
  | boundPath fd => exact looks rfl
  | transportName => exact looks rfl
  | ask r =>
    have called := straight none r w quiet
    have conduct : w.Conduct none w.next _ _ := called.conduct nofun
    refine ⟨none, nofun, .toldNative (fun x => ?_) conduct⟩
    cases r <;> rfl
  | _ => exact looks rfl

def Carrier (s : Session σ) (w : World σ) (caller : Option Endpoint) : Option String → Prop
  | none => ∀ ep, caller = some ep → ep = w.next
  | some n => caller = (s.find? n).map (·.base)

/-- A verb is carried out by calls of the endpoint below the object that it is used on, of the
endpoint of a new object, or from outside. -/
theorem carries_outcome (around : Surroundings σ) (s : Session σ) (verb : Verb)
    (on : Option String)
    (inside : ∀ n o, s.find? n = some o → o.base.index < w.endpoints.length)
    (holds : ∀ n k, s.find? n = some (.socket k) → (Law.chronicle True k).holds w ∧
      ∀ c, (Law.chronicle True k).Keeps (compete L k c)) :
    ∃ caller, s.Carrier w caller on ∧
      Carries verb.adopts? caller w (outcome L around s verb on w) := by
  cases on with
  | none =>
    have without := carries_onNone straight quiet around verb
    cases verb with
    | same a b => exact ⟨none, nofun, .look (by unfold sameStream; split <;> rfl)⟩
    | _ => exact without
  | some n =>
    refine ⟨_, rfl, ?_⟩
    simp only [outcome]
    cases found : s.find? n with
    | none => exact .look rfl
    | some o =>
      have there := inside n o found
      cases o with
      | endpoint ep =>
        apply carries_onEndpoint straight quiet ep _ there
        intro other place
        cases verb with
        | acceptInto into =>
          obtain ⟨o, named, is⟩ := Option.bind_eq_some_iff.mp place
          cases o with
          | endpoint ep =>
            cases is
            exact inside into _ named
          | _ => cases is
        | _ => cases place
      | socket k =>
        obtain ⟨chronicled, keeps⟩ := holds n k found
        exact carries_onSocket straight quiet chronicled keeps verb
      | server k => exact carries_onServer straight quiet k there verb
      | input i => exact carries_onInput straight quiet i there verb
      | output o => exact carries_onOutput straight quiet o there verb

end Session

end ProcessorSockets
