import ProcessorSockets.Proofs.Conduct.Socket
import ProcessorSockets.Server

namespace ProcessorSockets

open Call (Clean Confined)
open World (Called Conduct Failed Failure)

variable {σ α : Type} {L : Link σ} {w : World σ}

inductive World.Begins (adopts : Option Descriptor) (w : World σ) : World σ → Prop
  | there : Begins adopts w w
  | made {w₁ : World σ} (opened : w.Noted w₁) :
      Begins adopts w (Endpoint.make { fd := adopts } w₁).2

def World.Made (adopts : Option Descriptor) (ep on : Endpoint) (w : World σ)
    (run : Except SocketError α × World σ) : Prop :=
  ∃ w₀ calls, w.Begins adopts w₀ ∧ w₀.Conduct (some ep) on calls run.2 ∧
    ∀ e, run.1 = .error e → w.Failure ep e calls run.2

namespace World

variable {adopts : Option Descriptor} {w₀ w' : World σ}

theorem handle_make (h : Handle) (w : World σ) (ep : Endpoint) :
    (Endpoint.make h w).2.handle ep = if ep = w.next then h else w.handle ep := by
  rw [handle, endpoint_make, next]
  split <;> rfl

theorem inside_make (h : Handle) (w : World σ) :
    w.next.index < (Endpoint.make h w).2.endpoints.length := by simp [Endpoint.make, next]

theorem next_noted (noted : w.Noted w') : w'.next = w.next := by
  rw [next, next, noted.endpoints]

theorem handle_next (w : World σ) : w.handle w.next = {} := by
  simp [handle, endpoint, next]

namespace Begins

variable {ep : Endpoint}

theorem said (begins : w.Begins adopts w₀) : w₀.said = w.said := by
  cases begins with
  | there => rfl
  | made opened =>
    obtain ⟨_, notes, rfl⟩ := opened
    exact said_notes w notes

theorem handle (begins : w.Begins adopts w₀) (inside : ep.index < w.endpoints.length) :
    w₀.handle ep = w.handle ep := by
  cases begins with
  | there => rfl
  | made opened =>
    rw [handle_make, if_neg, opened.handle]
    rintro rfl
    rw [next, opened.endpoints] at inside
    exact Nat.lt_irrefl _ inside

theorem unowned (begins : w.Begins adopts w₀) (bare : (w.handle ep).fd = none) (fd : Descriptor) :
    w₀.handle ep ≠ .owning fd := by
  cases begins with
  | there =>
    intro owns
    rw [owns] at bare
    cases bare
  | made opened =>
    rw [handle_make]
    split
    · simp [Handle.owning]
    · intro owns
      rw [opened.handle ep] at owns
      rw [owns] at bare
      cases bare

theorem disturbances (begins : w.Begins adopts w₀) : w₀.disturbances = w.disturbances := by
  cases begins with
  | there => rfl
  | made opened =>
    obtain ⟨_, _, rfl⟩ := opened
    rfl

end Begins

theorem Conduct.silent {caller caller' : Option Endpoint} {on : Endpoint}
    (conduct : w.Conduct caller on [] w') : w.Conduct caller' on [] w' where
  said := conduct.said
  confined _ _ := trivial
  others := conduct.others
  comes := by
    have comes := conduct.comes
    generalize w'.handle on = now at comes
    cases comes with
    | same => exact .same
    | bare => exact .bare
    | given give =>
      cases give with
      | created _ made => cases made
      | accepted _ _ made => cases made
  size := conduct.size
  disturbances := conduct.disturbances

theorem Made.silent {w₁ : World σ} (opened : w.Noted w₁) (a : α)
    (conduct : (Endpoint.make { fd := adopts } w₁).2.Conduct (some w.next) w.next [] w') :
    w.Made adopts w.next w.next (.ok a, w') := ⟨_, [], .made opened, conduct, nofun⟩

/-- A maker that failed gives up its endpoint, which it did not own anything by, and leaves
nothing. -/
theorem Made.given_up (straight : L.Straight) {ep : Endpoint} {h : Handle} {e : SocketError}
    {calls : List Call} {w₁ w₂ : World σ} (quiet : w.disturbances = []) (opened : w.Noted w₁)
    (conduct : (Endpoint.make h w₁).2.Conduct (some ep) w.next calls w₂)
    (unowned : ∀ fd, w₂.handle w.next ≠ .owning fd)
    (early : e.source? = none → calls = [])
    (late : ∀ src, e.source? = some src → Call.source calls = some src)
    (sockets : ∀ s, w₂.socket s = w.socket s) :
    (Endpoint.make h w₁).2.Conduct (some ep) w.next calls (w.next.discard L w₂).2 ∧
      w.Failure ep e calls (w.next.discard L w₂).2 := by
  obtain ⟨gone, goes, _, none, bare, same⟩ := w.next.conduct_discard straight
    (conduct.disturbances.trans (opened.quiet quiet))
  rw [none unowned] at goes
  have silent : w₂.Conduct (some ep) w.next [] (w.next.discard L w₂).2 := goes.silent
  have all := conduct.trans silent
  rw [List.append_nil] at all
  have handle (x : Endpoint) : (w.next.discard L w₂).2.handle x = w.handle x := by
    by_cases new : x = w.next
    · rw [new, bare, handle_next]
    · rw [all.others x new, handle_make, if_neg (next_noted opened ▸ new), opened.handle]
  have socket (s : Socket) : (w.next.discard L w₂).2.socket s = w.socket s :=
    (same s).trans (sockets s)
  exact ⟨all, fun own => ⟨early own, handle, socket⟩, late, .same handle socket⟩

theorem Failure.after {ep : Endpoint} {e : SocketError} {calls : List Call} {w₁ w₂ : World σ}
    (failure : w.Failure ep e calls w₁) (noted : w₁.Noted w₂) : w.Failure ep e calls w₂ := by
  obtain ⟨es, _, rfl⟩ := noted
  refine ⟨failure.early, failure.late, ?_⟩
  cases failure.leaves with
  | same handle socket => exact .same handle socket
  | closed is had asked bare others socket => exact .closed is had asked bare others socket
  | created base bare made has others was now sockets =>
    exact .created base bare made has others was now sockets

end World

namespace Call

inductive Listens (fd : Descriptor) (a : Address) : List Call → Except SocketError Unit → Prop
  | unbound {e : NativeError} : Listens fd a [⟨.bind fd a, .error e⟩] (.error (.native "bind" e))
  | deaf {e : NativeError} :
      Listens fd a [⟨.bind fd a, .ok ()⟩, ⟨.listen fd Limits.listenBacklog, .error e⟩]
        (.error (.native "listen" e))
  | listening :
      Listens fd a [⟨.bind fd a, .ok ()⟩, ⟨.listen fd Limits.listenBacklog, .ok ()⟩] (.ok ())

namespace Listens

variable {fd : Descriptor} {a : Address} {calls : List Call}

theorem about {r : Except SocketError Unit} (h : Listens fd a calls r) :
    ∀ c ∈ calls, c.request.descriptor? = some fd := by
  cases h <;> simp [Request.descriptor?]

theorem fails {e : SocketError} (h : Listens fd a calls (.error e)) :
    ∃ operation src before c, e = .native operation src ∧ calls = before ++ [c] ∧ Clean before ∧
      c.error? = some src ∧ ∀ next, c.passes next = false := by
  cases h with
  | @unbound src => exact ⟨_, src, [], _, rfl, rfl, .nil, rfl, fun _ => rfl⟩
  | @deaf src => exact ⟨_, src, _, _, rfl, rfl, .ok rfl, rfl, fun _ => rfl⟩

end Listens

end Call

namespace Server

open World (Made)

inductive Settled (L : Link σ) (ep : Endpoint) (fd : Descriptor) (address : Address)
    (w : World σ) : (Except SocketError Server × Span) × World σ → Prop
  | listening {calls : List Call} {span : Span} {w₁ w' : World σ}
      (called : w.Called (some ep) calls w₁) (listens : Call.Listens fd address calls (.ok ()))
      (announced : w₁.Noted w') : Settled L ep fd address w ((.ok ⟨ep, some address⟩, span), w')
  | guarded {calls : List Call} {e : SocketError} {span : Span} {w₁ : World σ}
      (called : w.Called (some ep) calls w₁)
      (listens : Call.Listens fd address calls (.error e)) :
      Settled L ep fd address w ((.error e, span), ((Guard.around ep).discard L w₁).2)

variable (straight : L.Straight) (quiet : w.disturbances = [])

include straight quiet

theorem made_accept (s : Server) :
    w.Made none s.endpoint w.next (s.accept L w) := by
  obtain ⟨calls, conduct, fails⟩ := s.endpoint.conduct_accept straight w.next
    (w := (Endpoint.make {} w).2) quiet (World.inside_make {} w)
  rw [run_accept]
  refine ⟨_, calls, .made (.refl w), ?_⟩
  rcases accepts : s.endpoint.accept L w.next (Endpoint.make {} w).2 with ⟨e | _, w₂⟩
  case ok =>
    rw [accepts] at conduct
    exact ⟨{ conduct with }, not_failed⟩
  case error =>
    rw [accepts] at conduct fails
    have failed := fails e rfl
    have bare : w₂.handle w.next = {} := by
      rw [failed.called.handle, World.handle_make, if_pos rfl]
    have up := Made.given_up straight quiet (.refl w) conduct (by simp [bare, Handle.owning])
      failed.early failed.late
      failed.called.socket
    refine ⟨up.1, fun e' is => ?_⟩
    cases is
    exact up.2

theorem made_adopt (fd : Descriptor) :
    w.Made (some fd) w.next w.next (Server.adopt L fd w) := by
  have has : ((Endpoint.make { fd := some fd } w).2.handle w.next).fd = some fd := by
    rw [World.handle_make, if_pos rfl]
  obtain ⟨calls, worked⟩ := Endpoint.Works.listen straight Limits.listenBacklog
    (Endpoint.make { fd := some fd } w).2 quiet has
  rw [run_adopt]
  refine ⟨_, calls, .made (.refl w), ?_⟩
  rcases listens : w.next.listen L Limits.listenBacklog (Endpoint.make { fd := some fd } w).2
    with ⟨e | _, w₂⟩
  case ok =>
    rw [listens] at worked
    exact ⟨worked.conduct has, not_failed⟩
  case error =>
    rw [listens] at worked
    have failed := worked.failed rfl
    have unowned (mine : Descriptor) : w₂.handle w.next ≠ .owning mine := by
      rw [failed.called.handle, World.handle_make, if_pos rfl]
      simp [Handle.owning]
    have up := Made.given_up straight quiet (.refl w) (worked.conduct has) unowned failed.early
      failed.late failed.called.socket
    refine ⟨up.1, fun e' is => ?_⟩
    cases is
    exact up.2

theorem called_requesting {ep : Endpoint} {operation : String} {r : Descriptor → Request}
    {fd : Descriptor} {run : Except SocketError Unit × World σ}
    (requesting : Endpoint.Requesting L ep operation r w run) (has : (w.handle ep).fd = some fd) :
    ∃ answer, w.Called (some ep) [⟨r fd, answer⟩] run.2 ∧
      ((∃ x, answer = .ok x ∧ run.1 = .ok ()) ∨
        ∃ e, answer = .error e ∧ run.1 = .error (.native operation e)) := by
  cases requesting with
  | closed bare =>
    rw [has] at bare
    cases bare
  | @refused fd' e w₁ w₂ w' has' opened asked noted =>
    have same : fd' = fd := Option.some.inj (has'.symm.trans has)
    subst same
    have called := straight (some ep) (r fd') w₁ (opened.quiet quiet)
    rw [asked] at called
    exact ⟨_, (called.after noted).before opened, .inr ⟨e, rfl, rfl⟩⟩
  | @done fd' x w₁ w₂ w' has' opened asked noted =>
    have same : fd' = fd := Option.some.inj (has'.symm.trans has)
    subst same
    have called := straight (some ep) (r fd') w₁ (opened.quiet quiet)
    rw [asked] at called
    exact ⟨_, (called.after noted).before opened, .inl ⟨x, rfl, rfl⟩⟩

theorem listens_bindListen {ep : Endpoint} {fd : Descriptor} (address : Address) (span : Span)
    (has : (w.handle ep).fd = some fd) :
    let run := (do
      Traced.finish (ep.bind L address)
      Traced.finish (ep.listen L Limits.listenBacklog) : Traced σ Unit) span w
    ∃ calls, w.Called (some ep) calls run.2 ∧ Call.Listens fd address calls run.1.1 := by
  intro run
  have same : run = (do
      Traced.finish (ep.bind L address)
      Traced.finish (ep.listen L Limits.listenBacklog) : Traced σ Unit) span w := rfl
  rw [Traced.run_bind, Traced.run_finish] at same
  obtain ⟨answer, called, ends⟩ :=
    called_requesting straight quiet (Endpoint.binding L ep address w) has
  generalize ep.bind L address w = bound at same called ends
  obtain ⟨r, w₁⟩ := bound
  obtain ⟨x, rfl, rfl⟩ | ⟨e, rfl, rfl⟩ := ends
  · have has' : (w₁.handle ep).fd = some fd := by rw [called.handle, has]
    obtain ⟨answer', called', ends'⟩ := called_requesting straight (called.quiet quiet)
      (Endpoint.listening L ep Limits.listenBacklog w₁) has'
    rw [same]
    dsimp only
    rw [Traced.run_finish]
    refine ⟨_, called.trans called', ?_⟩
    obtain ⟨_, rfl, ok⟩ | ⟨src, rfl, failed⟩ := ends'
    · rw [ok]
      exact .listening
    · rw [failed]
      exact .deaf
  · rw [same]
    exact ⟨_, called, .unbound⟩

omit straight quiet in
theorem noted_announce (ep : Endpoint) (address : Address) (span : Span) (w : World σ) :
    let run := (do
      let h ← Traced.plain ep.handle
      if let some fd := h.fd then Traced.note (·.recordDescriptor fd)
      Traced.plain (World.emit .info "Server socket listening")
      return ⟨ep, some address⟩ : Traced σ Server) span w
    run.1.1 = .ok ⟨ep, some address⟩ ∧ w.Noted run.2 := by
  dsimp only
  rw [Traced.run_bind, Traced.run_plain]
  dsimp only [Endpoint.run_handle]
  cases (w.handle ep).fd with
  | none => exact ⟨rfl, .one _ rfl⟩
  | some fd => exact ⟨rfl, .one _ rfl⟩

omit quiet in
theorem settled_setUp {ep : Endpoint} {fd : Descriptor} {w₁ : World σ} (address : Address)
    (span : Span) (creates : ep.create L .stream w = (.ok (), w₁)) (still : w₁.disturbances = [])
    (has : (w₁.handle ep).fd = some fd) :
    Settled L ep fd address w₁ (setUp L ep address span w) := by
  obtain ⟨calls, called, listens⟩ :=
    listens_bindListen straight still address (span.finish SocketError.message (.ok ())) has
  rw [setUp, Traced.run_bind, Traced.run_finish, creates]
  dsimp only at called listens ⊢
  rw [Traced.run_bind, Server.guarded]
  generalize (do
    Traced.finish (ep.bind L address)
    Traced.finish (ep.listen L Limits.listenBacklog) : Traced σ Unit)
      (span.finish SocketError.message (.ok ())) w₁ = body at called listens ⊢
  obtain ⟨⟨e | _, span₂⟩, w₂⟩ := body
  case ok =>
    obtain ⟨ok, announced⟩ := noted_announce ep address span₂ w₂
    dsimp only at ok announced ⊢
    generalize (do
      let h ← Traced.plain ep.handle
      if let some fd := h.fd then Traced.note (·.recordDescriptor fd)
      Traced.plain (World.emit .info "Server socket listening")
      return ⟨ep, some address⟩ : Traced σ Server) span₂ w₂ = end_ at ok announced ⊢
    obtain ⟨⟨r, span₃⟩, w₃⟩ := end_
    cases ok
    exact .listening called listens announced
  case error => exact .guarded called listens

theorem conduct_setUp (ep : Endpoint) (inside : ep.index < w.endpoints.length)
    (bare : w.handle ep = {}) (address : Address) (span : Span) : ∃ calls,
    w.Conduct (some ep) ep calls (setUp L ep address span w).2 ∧
      ∀ e, (setUp L ep address span w).1.1 = .error e →
        (e.source? = none → calls = []) ∧
        (∀ src, e.source? = some src → Call.source calls = some src) ∧
        (∀ s, (setUp L ep address span w).2.socket s = w.socket s) ∧
        ∀ fd, (setUp L ep address span w).2.handle ep ≠ .owning fd := by
  obtain ⟨calls, conduct, sockets, ends⟩ := ep.conduct_create straight .stream quiet inside
  rcases creates : ep.create L .stream w with ⟨e | _, w₁⟩
  case error =>
    rw [creates] at conduct ends
    rw [setUp, Traced.run_bind, Traced.run_finish, creates]
    refine ⟨calls, conduct, fun e' is => ?_⟩
    cases is
    refine ⟨ends.early, ends.late, ends.called.socket, fun fd => ?_⟩
    dsimp only
    rw [ends.called.handle, bare]
    simp [Handle.owning]
  case ok =>
    rw [creates] at conduct sockets ends
    obtain ⟨_, clean, fd, _, has⟩ := ends
    have had : (w₁.handle ep).fd = some fd := congrArg Handle.fd has
    have settled := settled_setUp straight address span creates
      (conduct.disturbances.trans quiet) had
    have all {more : List Call} {w₂ : World σ} (called : w₁.Called (some ep) more w₂)
        (about : ∀ c ∈ more, c.request.descriptor? = some fd) :
        w.Conduct (some ep) ep (calls ++ more) w₂ := by
      refine conduct.trans (called.conduct ?_)
      rintro _ ⟨⟩
      exact .about (by simp [had]) about
    generalize setUp L ep address span w = run at settled ⊢
    cases settled with
    | listening called listens announced =>
      exact ⟨_, (all called listens.about).after announced, not_failed⟩
    -- What the guard calls comes after the failure, and is not what is reported.
    | guarded called listens =>
      have all := all called listens.about
      obtain ⟨operation, src, before, c, rfl, rfl, clean', failed, firm⟩ := listens.fails
      obtain ⟨cleanup, cleans, same, none⟩ :=
        Endpoint.conduct_guard straight (.around ep) (all.disturbances.trans quiet)
      refine ⟨calls ++ (before ++ [c]) ++ cleanup, all.trans cleans, fun e' is => ?_⟩
      cases is
      refine ⟨fun own => (by cases own), fun src' is => ?_, fun s => ?_, none rfl⟩
      · cases is
        apply Call.source_of_failure?
        have firmly := Call.failure?_firm cleanup (clean.append clean') failed firm
        simpa using firmly
      · rw [same, called.socket, World.socket, sockets]
        rfl

theorem made_bind (name : String) : w.Made none w.next w.next (Server.bind L name w) := by
  have opened : w.Noted (w.add (Entry.opening "server_bind")) := .opening w _
  have sets := conduct_setUp straight
    (w := (Endpoint.make {} (w.add (Entry.opening "server_bind"))).2) quiet w.next
    (World.inside_make {} _) (by rw [World.handle_make]; exact if_pos rfl) (.here name)
    ((Span.opened "server_bind").recordAddress (Address.here name).cpu (Address.here name).name)
  rw [run_bind]
  generalize setUp L _ _ _ _ = result at sets ⊢
  obtain ⟨calls, conduct, fails⟩ := sets
  refine ⟨_, calls, .made opened, ?_⟩
  obtain ⟨⟨e | s, span⟩, w₂⟩ := result
  case ok => exact ⟨conduct.after (.closing ..), not_failed⟩
  case error =>
    obtain ⟨early, late, sockets, unowned⟩ := fails e rfl
    have up := Made.given_up straight quiet opened conduct unowned early late sockets
    refine ⟨up.1.after (.closing ..), fun e' is => ?_⟩
    cases is
    exact up.2.after (.closing ..)

end Server

end ProcessorSockets
