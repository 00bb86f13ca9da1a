import ProcessorSockets.Proofs.Conduct.Endpoint
import ProcessorSockets.Proofs.Law.Chronicle

namespace ProcessorSockets

open Call (Clean)
open World (Called Conduct Failure Performed)

variable {σ α β : Type} {L : Link σ}

namespace World

variable {ep on : Endpoint} {w : World σ}

theorem Performed.refused {e : SocketError} {w' : World σ} (own : e.source? = none)
    (noted : w.Noted w') : w.Performed (α := α) ep on (.error e, w') := by
  refine ⟨[], .noted noted, fun e' is => ?_⟩
  cases is
  exact .refusal own noted

theorem Performed.idle {w' : World σ} (a : α) (noted : w.Noted w') :
    w.Performed ep on (.ok a, w') := ⟨[], .noted noted, nofun⟩

theorem Conduct.setSocket {caller : Option Endpoint} {calls : List Call} {w' : World σ}
    (conduct : w.Conduct caller on calls w') (s : Socket) (st : SocketState) :
    w.Conduct caller on calls (w'.setSocket s st) := { conduct with }

def Attempted (ep : Endpoint) (w : World σ) (run : Except SocketError α × World σ) : Prop :=
  ∃ calls, w.Conduct (some ep) ep calls run.2 ∧ ∀ e, run.1 = .error e →
    w.Called (some ep) calls run.2 ∧
      ∃ operation src, e = .native operation src ∧ Call.source calls = some src

theorem Attempted.performed {run : Except SocketError α × World σ} (h : w.Attempted ep run) :
    w.Performed ep ep run := by
  obtain ⟨calls, conduct, fails⟩ := h
  refine ⟨calls, conduct, fun e is => ?_⟩
  obtain ⟨called, operation, src, rfl, reports⟩ := fails e is
  exact .ofNative reports called.leaves

end World

variable {k : Socket} {w : World σ}

namespace Endpoint.Works

variable {ep : Endpoint} {fd : Descriptor}

theorem attempted {step : World σ → Except SocketError α × World σ} (works : ep.Works fd step)
    (quiet : w.disturbances = []) (has : (w.handle ep).fd = some fd) : w.Attempted ep (step w) := by
  obtain ⟨calls, worked⟩ := works w quiet has
  refine ⟨calls, worked.conduct has, fun e fails => ⟨worked.called, ?_⟩⟩
  have settles := worked.settles
  rwa [fails] at settles

theorem attempted_update {step : Action σ Unit} (works : ep.Works fd step)
    (quiet : w.disturbances = []) (has : (w.handle ep).fd = some fd)
    (f : SocketState → SocketState) :
    w.Attempted ep ((step >>= fun _ => k.update f) w) := by
  obtain ⟨calls, conduct, fails⟩ := works.attempted quiet has
  rw [Action.run_bind]
  match run : step w with
  | (.ok _, w') =>
    rw [run] at conduct
    exact ⟨calls, conduct.setSocket k _, nofun⟩
  | (.error e, w') =>
    rw [run] at conduct fails
    exact ⟨calls, conduct, fails⟩

end Endpoint.Works

namespace Socket

theorem performed_update (quiet : w.disturbances = []) {step : Action σ Unit}
    (works : ∀ fd, k.endpoint.Works fd step)
    (fails : ∀ w, (w.handle k.endpoint).fd = none → step.Fails .notCreated w)
    (f : SocketState → SocketState) : w.Performed k.endpoint k.endpoint
      ((step >>= fun _ => k.update f) w) := by
  cases has : (w.handle k.endpoint).fd with
  | none => exact Endpoint.performed_fails rfl ((fails w has).andThen fun _ => k.update f)
  | some fd => exact ((works fd).attempted_update quiet has f).performed

section

variable (straight : L.Straight) (quiet : w.disturbances = [])
  (holds : (Law.chronicle True k).holds w)

include straight quiet holds

theorem conduct_ensureCreated (fresh : (w.socket k).created = false) : ∃ calls,
    w.Conduct (some k.endpoint) k.endpoint calls (k.ensureCreated L w).2 ∧
      match (k.ensureCreated L w).1 with
      | .ok _ => Clean calls ∧
          (k.ensureCreated L w).2.socket k = { w.socket k with created := true } ∧
          (∀ s, s.index ≠ k.index → (k.ensureCreated L w).2.socket s = w.socket s) ∧
          ∃ fd ∈ calls.filterMap Call.created?,
            (k.ensureCreated L w).2.handle k.endpoint = .owning fd
      | .error e => w.Failure k.endpoint e calls (k.ensureCreated L w).2 := by
  obtain ⟨calls, conduct, sockets, ends⟩ :=
    k.endpoint.conduct_create straight (w.socket k).kind quiet holds.1.1
  have run : k.ensureCreated L w = (k.endpoint.create L (w.socket k).kind >>= fun _ =>
      k.update fun st => { st with created := true }) w := by
    rw [ensureCreated, Action.run_bind]
    simp only [state, fresh]
    rfl
  rw [run, Action.run_bind]
  rcases creates : k.endpoint.create L (w.socket k).kind w with ⟨e | _, w'⟩
  case error =>
    rw [creates] at conduct ends
    exact ⟨calls, conduct, ends.failure⟩
  case ok =>
    rw [creates] at conduct sockets ends
    obtain ⟨_, clean, fd, made, has⟩ := ends
    have inside : k.index < w'.sockets.length := by
      rw [sockets]
      exact holds.1.2
    have same (s : Socket) : w'.socket s = w.socket s := by rw [World.socket, sockets]; rfl
    refine ⟨calls, conduct.setSocket k _, clean, ?_, ?_, fd, made, has⟩
    · exact (World.socket_setSocket w' k _ inside).trans (by rw [same])
    · intro s other
      exact (World.Told.setSocket (Ne.symm other) w' _).socket.trans (same s)

/-- An operation that makes the descriptor when it needs one.  What comes after that is done with
what is there, or is work on a descriptor that was just made. -/
theorem performed_after {rest : Unit → Action σ α}
    (already : (w.socket k).created = true → w.Performed k.endpoint k.endpoint (rest () w))
    (anew : ∀ (w' : World σ) fd, (w.socket k).created = false → w'.disturbances = [] →
      (w'.handle k.endpoint).fd = some fd → w'.socket k = { w.socket k with created := true } →
      w'.Attempted k.endpoint (rest () w')) :
    w.Performed k.endpoint k.endpoint ((k.ensureCreated L >>= rest) w) := by
  rw [Action.run_bind]
  cases made : (w.socket k).created with
  | true =>
    rw [run_ensureCreated made]
    exact already made
  | false =>
    obtain ⟨calls, conduct, ends⟩ := conduct_ensureCreated straight quiet holds made
    rcases run : k.ensureCreated L w with ⟨e | _, w'⟩
    case error =>
      rw [run] at conduct ends
      refine ⟨calls, conduct, fun e' is => ?_⟩
      cases is
      exact ends
    case ok =>
      rw [run] at conduct ends
      obtain ⟨clean, now, sockets, fd, created, has⟩ := ends
      obtain ⟨more, conduct', fails⟩ :=
        anew w' fd made (conduct.disturbances.trans quiet) (congrArg Handle.fd has) now
      refine ⟨calls ++ more, conduct.trans conduct', fun e is => ?_⟩
      obtain ⟨called, operation, src, rfl, reports⟩ := fails e is
      refine .ofNative (Call.source_append clean reports) ?_
      have bare : (w.handle k.endpoint).fd = none := congrArg Handle.fd (holds.2.2.2.bare made)
      exact .created rfl bare (by simp [created]) ((called.handle _).trans has)
        (conduct.trans conduct').others made ((called.socket k).trans now)
        fun s other => (called.socket s).trans (sockets s other)

theorem performed_works {step : Action σ α} (works : ∀ fd, k.endpoint.Works fd step)
    (fails : ∀ w, (w.handle k.endpoint).fd = none → step.Fails .notCreated w) :
    w.Performed k.endpoint k.endpoint ((k.ensureCreated L >>= fun _ => step) w) :=
  performed_after straight quiet holds
    (fun _ => Endpoint.Performs.ofWorks works fails w quiet holds.1.1)
    fun _ fd _ quiet' has _ => (works fd).attempted quiet' has

theorem performed_bind (a : Address) :
    w.Performed k.endpoint k.endpoint (k.bind L a w) := by
  have works (fd : Descriptor) : k.endpoint.Works fd (k.endpoint.bind L a) :=
    .bindName straight a
  have free (w' : World σ) (unbound : (w'.socket k).bound = false) :
      k.bindCreated L a w' = (k.endpoint.bind L a >>= fun _ =>
        k.update fun st => { st with bound := true, localAddress := some a }) w' := by
    rw [bindCreated, Action.run_bind]
    simp only [state, unbound]
    rfl
  apply performed_after straight quiet holds
  · intro _
    cases bound : (w.socket k).bound with
    | true =>
      have run : k.bindCreated L a w = (.error .alreadyBound, w) := by
        rw [bindCreated, Action.run_bind]
        simp only [state, bound]
        rfl
      rw [run]
      exact .refused rfl (.refl w)
    | false =>
      rw [free w bound]
      exact performed_update quiet works (fun _ bare => Endpoint.fails_bind bare a) _
  · intro w' fd fresh quiet' has now
    have unbound : (w'.socket k).bound = false := by
      rw [now]
      cases bound : (w.socket k).bound with
      | false => rfl
      | true =>
        rw [holds.2.2.2.created_of_bound bound] at fresh
        cases fresh
    rw [free w' unbound]
    exact (works fd).attempted_update quiet' has _

theorem performed_connect (a : Address) :
    w.Performed k.endpoint k.endpoint (k.connect L a w) := by
  have works (fd : Descriptor) : k.endpoint.Works fd (k.endpoint.connect L a 0) :=
    .connect straight a 0
  rw [connect, Action.run_bind]
  simp only [state]
  split
  · exact .refused rfl (.refl w)
  · apply performed_after straight quiet holds
    · intro _
      exact performed_update quiet works
        (fun _ bare => Endpoint.fails_connect bare a 0) _
    · intro w' fd _ quiet' has _
      exact (works fd).attempted_update quiet' has _

theorem performed_close : w.Performed k.endpoint k.endpoint (k.close L w) := by
  rw [close, Action.run_bind]
  simp only [state]
  split
  · exact k.endpoint.performs_release straight w quiet holds.1.1
  · refine ⟨[], ?_, not_failed⟩
    exact ((Conduct.refl w).setSocket k { w.socket k with created := true }).after (.one _ rfl)

theorem performed_inputStream :
    w.Performed k.endpoint k.endpoint (k.inputStream L w) :=
  performed_works straight quiet holds (fun _ => .inputStream)
    fun _ bare => Endpoint.fails_inputStream bare

theorem performed_outputStream :
    w.Performed k.endpoint k.endpoint (k.outputStream L w) :=
  performed_works straight quiet holds (fun _ => .outputStream)
    fun _ bare => Endpoint.fails_outputStream bare

theorem performed_shutdownInput :
    w.Performed k.endpoint k.endpoint (k.shutdownInput L w) :=
  performed_works straight quiet holds (fun _ => .shutdown straight .read)
    fun _ bare => Endpoint.fails_shutdown bare .read

theorem performed_shutdownOutput :
    w.Performed k.endpoint k.endpoint (k.shutdownOutput L w) :=
  performed_works straight quiet holds (fun _ => .shutdown straight .write)
    fun _ bare => Endpoint.fails_shutdown bare .write

end

theorem performed_ofId (quiet : w.disturbances = [])
    (inside : k.endpoint.index < w.endpoints.length) {next : SocketOption → Action σ α}
    (known : ∀ option, k.endpoint.Performs (next option)) (id : Int) :
    w.Performed k.endpoint k.endpoint ((Action.ofExcept (SocketOption.ofId id) >>= next) w) := by
  rw [Action.run_bind, Action.run_ofExcept]
  cases is : SocketOption.ofId id with
  | ok option => exact known option w quiet inside
  | error e =>
    have unknown : e = .unsupportedOption id := by
      unfold SocketOption.ofId at is
      split at is
      · cases is
      · split at is
        · cases is
        · split at is <;> cases is
          rfl
    exact .refused (unknown ▸ rfl) (.refl w)

end Socket

end ProcessorSockets
