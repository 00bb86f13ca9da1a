import ProcessorSockets.Proofs.Conduct.Timeout
import ProcessorSockets.Proofs.Conduct.Transfer

namespace ProcessorSockets

open Call (Settles Clean)
open World (Called)

variable {σ α β : Type}

theorem not_failed {a : α} {P : SocketError → Prop} :
    ∀ e, (.ok a : Except SocketError α) = .error e → P e := nofun

structure World.Worked (ep : Endpoint) (fd : Descriptor) (calls : List Call) (w : World σ)
    (r : Except SocketError α) (w' : World σ) : Prop where
  called : w.Called (some ep) calls w'
  about : ∀ c ∈ calls, c.request.descriptor? = some fd
  settles : Settles calls r

def Endpoint.Works (ep : Endpoint) (fd : Descriptor)
    (step : World σ → Except SocketError α × World σ) : Prop :=
  ∀ w : World σ, w.disturbances = [] → (w.handle ep).fd = some fd →
    ∃ calls, World.Worked ep fd calls w (step w).1 (step w).2

def Endpoint.WorksTraced (ep : Endpoint) (fd : Descriptor) (body : Traced σ α) : Prop :=
  ∀ span, ep.Works fd fun w => ((body span w).1.1, (body span w).2)

variable {ep : Endpoint} {fd : Descriptor} {L : Link σ}

namespace World.Worked

variable {w w' w'' : World σ} {calls more : List Call} {r : Except SocketError α}

theorem idle (a : α) (noted : w.Noted w') : Worked ep fd [] w (.ok a) w' :=
  ⟨.noted noted, by simp, Clean.nil⟩

theorem before (noted : w.Noted w') (worked : Worked ep fd calls w' r w'') :
    Worked ep fd calls w r w'' :=
  { worked with called := .before noted worked.called }

theorem after (worked : Worked ep fd calls w r w') (noted : w'.Noted w'') :
    Worked ep fd calls w r w'' :=
  { worked with called := worked.called.after noted }

theorem andThen {x : β} (first : Worked ep fd calls w (.ok x) w')
    (second : Worked ep fd more w' r w'') : Worked ep fd (calls ++ more) w r w'' where
  called := first.called.trans second.called
  about c mem := by
    cases List.mem_append.mp mem with
    | inl h => exact first.about c h
    | inr h => exact second.about c h
  settles := second.settles.append first.settles

theorem still (worked : Worked ep fd calls w r w') (quiet : w.disturbances = [])
    (has : (w.handle ep).fd = some fd) : w'.disturbances = [] ∧ (w'.handle ep).fd = some fd :=
  ⟨worked.called.quiet quiet, by rw [worked.called.handle, has]⟩

end World.Worked

namespace Endpoint.Works

open World (Worked)

theorem noted {step : World σ → Except SocketError α × World σ} (a : α)
    (h : ∀ w, (step w).1 = .ok a ∧ w.Noted (step w).2) : ep.Works fd step := by
  intro w _ _
  obtain ⟨ok, noted⟩ := h w
  rw [ok]
  exact ⟨[], .idle a noted⟩

theorem return' (a : α) : ep.Works fd (pure a : Action σ α) := noted a fun w => ⟨rfl, .refl w⟩

theorem withFd {body : Descriptor → Action σ α} (h : ep.Works fd (body fd)) :
    ep.Works fd (ep.fd >>= body) := by
  intro w quiet has
  rw [Action.run_bind, run_fd, has]
  exact h w quiet has

theorem emit (level : Level) (message : String) :
    ep.Works fd (Action.plain (World.emit (σ := σ) level message)) :=
  noted () fun w => ⟨rfl, .one w rfl⟩

theorem bindOf {step : Action σ α} {next : α → Action σ β} (first : ep.Works fd step)
    (rest : ∀ w a, (step w).1 = .ok a → ep.Works fd (next a)) : ep.Works fd (step >>= next) := by
  intro w quiet has
  obtain ⟨calls, worked⟩ := first w quiet has
  have gives := rest w
  rw [Action.run_bind]
  match run : step w with
  | (.ok x, w') =>
    rw [run] at worked gives
    obtain ⟨quiet', has'⟩ := worked.still quiet has
    obtain ⟨more, then'⟩ := gives x rfl w' quiet' has'
    exact ⟨calls ++ more, worked.andThen then'⟩
  | (.error e, w') =>
    rw [run] at worked
    exact ⟨calls, ⟨worked.called, worked.about, worked.settles⟩⟩

theorem bind {step : Action σ α} {next : α → Action σ β} (first : ep.Works fd step)
    (rest : ∀ a, ep.Works fd (next a)) : ep.Works fd (step >>= next) :=
  bindOf first fun _ a _ => rest a

theorem inputStream : ep.Works fd (Endpoint.inputStream (σ := σ) ep) := by
  apply withFd
  intro w _ _
  rw [Action.run_bind, Action.run_plain]
  dsimp only [get, getThe, MonadStateOf.get, StateT.get]
  cases known : (w.endpoint ep).input with
  | some serial => exact ⟨[], .idle _ (.refl w)⟩
  | none => exact ⟨[], .setEndpoint rfl, by simp, Clean.nil⟩

theorem outputStream : ep.Works fd (Endpoint.outputStream (σ := σ) ep) := by
  apply withFd
  intro w _ _
  rw [Action.run_bind, Action.run_plain]
  dsimp only [get, getThe, MonadStateOf.get, StateT.get]
  cases known : (w.endpoint ep).output with
  | some serial => exact ⟨[], .idle _ (.refl w)⟩
  | none => exact ⟨[], .setEndpoint rfl, by simp, Clean.nil⟩

end Endpoint.Works

namespace Endpoint.WorksTraced

open World (Worked)

theorem look (f : Span → Span) (a : α) :
    ep.WorksTraced fd fun span (w : World σ) => ((.ok a, f span), w) :=
  fun _ => .noted a fun w => ⟨rfl, .refl w⟩

theorem finish {step : Action σ α} (h : ep.Works fd step) :
    ep.WorksTraced fd (Traced.finish step) := fun _ => h

theorem note (f : Span → Span) : ep.WorksTraced fd (Traced.note (σ := σ) f) := look f ()

theorem emit (level : Level) (message : String) :
    ep.WorksTraced fd (Traced.plain (World.emit (σ := σ) level message)) :=
  fun _ => .noted () fun w => ⟨rfl, .one w rfl⟩

theorem andThen {step : Traced σ α} {next : α → Traced σ β} (first : ep.WorksTraced fd step)
    (rest : ∀ a, ep.WorksTraced fd (next a)) : ep.WorksTraced fd (step >>= next) := by
  intro span w quiet has
  obtain ⟨calls, worked⟩ := first span w quiet has
  dsimp only at worked ⊢
  rw [Traced.run_bind]
  match run : step span w with
  | ((.ok x, span'), w') =>
    rw [run] at worked
    obtain ⟨quiet', has'⟩ := worked.still quiet has
    obtain ⟨more, then'⟩ := rest x span' w' quiet' has'
    exact ⟨calls ++ more, worked.andThen then'⟩
  | ((.error e, span'), w') =>
    rw [run] at worked
    exact ⟨calls, ⟨worked.called, worked.about, worked.settles⟩⟩

theorem withDescriptor {body : Descriptor → Traced σ α} (h : ep.WorksTraced fd (body fd)) :
    ep.WorksTraced fd (do
      let fd ← Traced.finish ep.fd
      Traced.note (·.recordDescriptor fd)
      body fd) := by
  intro span w quiet has
  dsimp only
  rw [Traced.run_bind, Traced.run_finish, run_fd, has]
  exact andThen (note _) (fun _ => h) _ w quiet has

end Endpoint.WorksTraced

namespace Endpoint.Works

theorem ofTraced {operation : String} {body : Traced σ α} (h : ep.WorksTraced fd body) :
    ep.Works fd (traced L operation body) := by
  intro w quiet has
  obtain ⟨calls, worked⟩ := h (.opened operation) (w.add (Entry.opening operation)) quiet has
  rw [run_traced]
  exact ⟨calls, (worked.before (.opening w _)).after (.closing ..)⟩

variable (straight : L.Straight)

include straight

theorem ask {r : Request} (operation : String) (about : r.descriptor? = some fd) :
    ep.Works fd (ep.ask L operation r) := by
  intro w quiet _
  have called := straight (some ep) r w quiet
  rw [run_ask]
  refine ⟨_, called, by simpa using about, ?_⟩
  cases answer : (L.send (some ep) r w).1 with
  | ok x => exact Clean.ok rfl
  | error e => exact .last rfl

theorem setTimeout (timeout : Duration) : ep.Works fd (ep.setTimeout L fd timeout) := by
  intro w quiet _
  obtain ⟨calls, called, sets⟩ := sets_setTimeout straight ep timeout quiet
  exact ⟨calls, called, sets.about, sets.settles⟩

theorem bindName (a : Address) : ep.Works fd (ep.bind L a) :=
  .ofTraced (.andThen (.note _) fun _ => .withDescriptor (.finish (ask straight _ rfl)))

theorem connect (a : Address) (timeout : Int) : ep.Works fd (ep.connect L a timeout) := by
  apply ofTraced
  apply WorksTraced.andThen (.note _)
  intro _
  apply WorksTraced.withDescriptor
  have asks : ep.WorksTraced fd (Traced.finish (ep.ask L "connect" (.connect fd a))) :=
    .finish (ask straight _ rfl)
  split
  · exact .andThen (.emit _ _) fun _ => asks
  · exact asks

theorem listen (backlog : Int) : ep.Works fd (ep.listen L backlog) :=
  .ofTraced (.withDescriptor (.finish (ask straight _ rfl)))

theorem shutdown (half : Half) : ep.Works fd (ep.shutdown L half) :=
  withFd (ask straight _ rfl)

theorem getOption (option : SocketOption) : ep.Works fd (ep.getOption L option) := by
  apply withFd
  cases option with
  | receiveBufferSize => exact ask straight _ rfl
  | sendBufferSize => exact ask straight _ rfl
  | timeout => exact bind (ask straight _ rfl) fun _ => return' _

theorem setOption (option : SocketOption) {value : Int} (sensible : ¬value < 0) :
    ep.Works fd (ep.setOption L option value) := by
  apply ofTraced
  rw [if_neg sensible]
  apply WorksTraced.withDescriptor
  apply WorksTraced.finish
  cases option with
  | receiveBufferSize => exact ask straight _ rfl
  | sendBufferSize => exact ask straight _ rfl
  | timeout => exact setTimeout straight _

theorem receive (length : Nat) : ep.Works fd (ep.receive L length) :=
  withFd (bind (ask straight _ rfl) fun bytes => bind (emit _ _) fun _ => return' bytes)

theorem transmit (bytes : List UInt8) : ep.Works fd (ep.transmit L bytes) :=
  withFd (bind (ask straight _ rfl) fun n => bind (emit _ _) fun _ => return' n)

theorem available (s : InputStream) : s.endpoint.Works fd (s.available L) :=
  withFd (ask straight _ rfl)

theorem availableHere :
    ep.Works fd (Endpoint.inputStream (σ := σ) ep >>= fun s => s.available L) := by
  apply bindOf inputStream
  intro w s lent
  have own := endpoint_inputStream ep w s lent
  subst own
  exact available straight s

end Endpoint.Works

namespace Endpoint

open World (Worked)

variable (straight : L.Straight)

include straight

theorem worked_receiveAll (patience missing : Nat) {w : World σ} (quiet : w.disturbances = [])
    (has : (w.handle ep).fd = some fd) :
    ∃ calls, Worked ep fd calls w (ep.receiveAll L patience missing w).1.2
      (ep.receiveAll L patience missing w).2 := by
  obtain ⟨calls, called, fills⟩ := fills_receiveAll straight patience missing quiet has
  refine ⟨calls, called, fun c mem => ?_, fills.settles⟩
  obtain ⟨length, is⟩ := fills.reads c mem
  rw [is]
  rfl

theorem worked_transmitAll (patience : Nat) (bytes : List UInt8) {w : World σ}
    (quiet : w.disturbances = []) (has : (w.handle ep).fd = some fd) :
    ∃ calls, Worked ep fd calls w (ep.transmitAll L patience bytes w).1
      (ep.transmitAll L patience bytes w).2 := by
  obtain ⟨calls, called, drains⟩ := drains_transmitAll straight patience bytes quiet has
  refine ⟨calls, called, fun c mem => ?_, drains.settles⟩
  obtain ⟨offer, is⟩ := drains.writes c mem
  rw [is]
  rfl

end Endpoint

end ProcessorSockets
