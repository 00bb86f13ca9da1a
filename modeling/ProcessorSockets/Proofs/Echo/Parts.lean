import ProcessorSockets.Proofs.Bare
import ProcessorSockets.Proofs.Echo.Conduct
import ProcessorSockets.Proofs.Law.Founding
import ProcessorSockets.Proofs.Law.Outcome

namespace ProcessorSockets

open Echo (Agenda Duty Holding Point Fulfils Program)
open Echo.Agenda (Runs Step)
open World (Called Ends Went)

variable {σ : Type} {T : Transport σ} {w : World σ} {ep : Endpoint} {fd : Descriptor}

namespace Endpoint

theorem called_inputStream (has : (w.handle ep).fd = some fd) :
    ∃ serial, (ep.inputStream w).1 = .ok ⟨ep, serial⟩ ∧
      w.Called (some ep) [] (ep.inputStream w).2 := by
  rw [run_inputStream has]
  cases (w.endpoint ep).input with
  | some serial => exact ⟨serial, rfl, .refl w⟩
  | none => exact ⟨w.nextStream, rfl, .setEndpoint rfl⟩

theorem called_outputStream (has : (w.handle ep).fd = some fd) :
    ∃ serial, (ep.outputStream w).1 = .ok ⟨ep, serial⟩ ∧
      w.Called (some ep) [] (ep.outputStream w).2 := by
  rw [run_outputStream has]
  cases (w.endpoint ep).output with
  | some serial => exact ⟨serial, rfl, .refl w⟩
  | none => exact ⟨w.nextStream, rfl, .setEndpoint rfl⟩

theorem called_release {L : Link σ} (straight : L.Straight) (quiet : w.disturbances = [])
    (owns : w.handle ep = .owning fd) :
    ∃ shut reply, (ep.release L w).1 = reply.mapError (.native "close") ∧
      (w.setHandle ep {}).Called (some ep) [⟨.shutdown fd .both, shut⟩, ⟨.close fd, reply⟩]
        (ep.release L w).2 := by
  have closes := closing L ep w
  have owned : (Handle.owning fd).owned = true := rfl
  rw [release, Action.run_bind, Action.run_plain, run_handle]
  dsimp only
  rw [owns, if_pos owned, Action.run_bind, Action.run_attempt]
  generalize ep.close L w = closed at closes
  cases closes with
  | closed bare =>
    rw [owns] at bare
    cases bare
  | detached has =>
    rw [owns] at has
    cases has
  | @owned fd' w₁ w₂ w' r has opened closed noted =>
    cases owns.symm.trans has
    obtain ⟨shut, reply, ends, called⟩ :=
      ep.called_closeOwned straight (w := w₁.setHandle ep {}) fd (opened.quiet quiet)
    rw [closed] at ends called
    have all := ((Called.noted opened).setHandle ep {}).trans (called.after noted)
    refine ⟨shut, reply, ?_⟩
    dsimp only at ends
    subst ends
    cases reply with
    | ok _ => exact ⟨rfl, all⟩
    | error e => exact ⟨rfl, all⟩

end Endpoint

namespace Call

variable {patient : Prop} {a : Address} {calls : List Call} {ds : List Duty}

theorem Listens.runs {r : Except SocketError Unit} (h : Listens fd a calls r) :
    (r = .ok () → Runs patient (.going [fd] (.bind a :: .listen :: ds)) calls (.going [fd] ds)) ∧
      ∀ e, r = .error e →
        Runs patient (.going [fd] (.bind a :: .listen :: ds)) calls (.undoing [fd]) := by
  cases h with
  | unbound => exact ⟨nofun, fun _ _ => .one (.answered rfl)⟩
  | deaf => exact ⟨nofun, fun _ _ => .cons (.moves .bound) (.one (.answered rfl))⟩
  | listening => exact ⟨fun _ => .cons (.moves .bound) (.one (.moves .listening)), nofun⟩

theorem Founds.runs {r : Except SocketError Descriptor} (h : Founds a calls r) :
    (∀ fd, r = .ok fd →
      Runs patient (.going [] (.create :: .bind a :: .listen :: ds)) calls (.going [fd] ds)) ∧
    ∀ e, r = .error e →
      Runs patient (.going [] (.create :: .bind a :: .listen :: ds)) calls (.leaving []) := by
  cases h with
  | uncreated => exact ⟨nofun, fun _ _ => .one (.fails rfl rfl rfl)⟩
  | failed listens =>
    refine ⟨nofun, fun _ _ => .trans (.cons (.moves .created) (listens.runs.2 _ rfl)) ?_⟩
    exact .cons (.answered rfl) (.one (.answered rfl))
  | listening listens =>
    refine ⟨fun _ is => ?_, nofun⟩
    cases is
    exact .cons (.moves .created) (listens.runs.1 rfl)

end Call

namespace Echo.Fulfils

variable {s : Socket} {st : SocketState} {p : Point} {after : List Holding} {ds : List Duty}

theorem follows {calls : List Call} {w' : World σ} {left : Option (List Duty)}
    {r : Except SocketError Unit} (there : w.At p) (called : w.Called (some ep) calls w')
    (kept : (Law.service T).keeps w w')
    (runs : Runs T.Honest p.agenda calls (.following p.held ds left r)) :
    w.Went T p.agenda (p.following ds left r).agenda w' ∧ w'.At (p.following ds left r) := by
  rw [Point.agenda_following]
  refine ⟨.one called.said kept runs, ?_⟩
  cases r with
  | ok _ => exact (there.called called).duties _
  | error _ => exact (there.called called).duties _

theorem looks {α : Type} {eps : List Endpoint} {a : Action σ α} {is : α → Prop} (ep : Endpoint)
    (gives : ∀ w : World σ, w.At p → ∃ x w', a w = (.ok x, w') ∧ is x ∧ w.Called (some ep) [] w' ∧
      (Law.service T).keeps w w') : Fulfils T eps p a fun x q => is x ∧ q = p := by
  intro w there
  obtain ⟨x, w', run, is, called, kept⟩ := gives w there
  rw [run]
  exact .done ⟨is, rfl⟩ (.one called.said kept (.nil _)) (there.called called)

theorem outputStream {eps : List Endpoint} (mine : (s, st) ∈ p.sockets)
    (created : st.created = true)
    (holds : p.holdings = (s.endpoint, some fd) :: after) :
    Fulfils T eps p (s.outputStream (.direct T)) fun output q =>
      output.endpoint = s.endpoint ∧ q = p := by
  refine looks s.endpoint fun w there => ?_
  have made : (w.socket s).created = true := by rw [there.sockets _ mine, created]
  have permits := (Service.admitsDirect (T := T) s.endpoint).toPermits
  have kept := permits.outputStream w trivial
  obtain ⟨serial, gives, called⟩ :=
    s.endpoint.called_outputStream (congrArg Handle.fd (there.has holds))
  rw [Socket.outputStream, Action.run_bind, Socket.run_ensureCreated made]
  exact ⟨_, _, Prod.ext gives rfl, rfl, called, kept⟩

theorem inputStream {eps : List Endpoint} (mine : (s, st) ∈ p.sockets) (created : st.created = true)
    (holds : p.holdings = (s.endpoint, some fd) :: after) :
    Fulfils T eps p (s.inputStream (.direct T)) fun input q =>
      input.endpoint = s.endpoint ∧ q = p := by
  refine looks s.endpoint fun w there => ?_
  have made : (w.socket s).created = true := by rw [there.sockets _ mine, created]
  have permits := (Service.admitsDirect (T := T) s.endpoint).toPermits
  have kept := permits.inputStream w trivial
  obtain ⟨serial, gives, called⟩ :=
    s.endpoint.called_inputStream (congrArg Handle.fd (there.has holds))
  rw [Socket.inputStream, Action.run_bind, Socket.run_ensureCreated made]
  exact ⟨_, _, Prod.ext gives rfl, rfl, called, kept⟩

theorem writeAll {output : OutputStream} {bytes : List UInt8}
    (holds : p.holdings = (output.endpoint, some fd) :: after) (some : bytes ≠ [])
    (left : p.duties = .some (.say bytes :: ds)) :
    Fulfils T p.endpoints p (output.writeAll (.direct T) bytes) fun _ q =>
      q = { p with duties := .some ds } := by
  intro w there
  have permits := (Service.admitsDirect (T := T) output.endpoint).toPermits
  have kept := permits.transmitAll (T.patience w.transport) bytes w trivial
  obtain ⟨calls, said, drains⟩ := output.endpoint.drains_transmitAll (Link.straight_direct T)
    (T.patience w.transport) bytes there.quiet (congrArg Handle.fd (there.has holds))
  change World.Ends _ _ _ _ w
    (output.endpoint.transmitAll (.direct T) (T.patience w.transport) bytes w)
  generalize output.endpoint.transmitAll _ _ bytes w = result at said drains kept ⊢
  obtain ⟨r, w'⟩ := result
  have runs : Runs T.Honest p.agenda calls (.following p.held ds (.some []) r) := by
    have begins : p.agenda = .proceed p.held ds false (.some (Duty.saying bytes)) := by
      rw [Duty.saying, if_neg some]
      exact Point.agenda_going left
    rw [begins, Point.held_cons holds]
    exact drains.runs fun honest => honest _ _ _ (said.serves kept)
  obtain ⟨went, there⟩ := follows there said kept runs
  cases r with
  | ok _ => exact .done rfl went there
  | error e => exact .failed (q := { p with duties := none }) rfl rfl went there

theorem readExact {input : InputStream}
    (holds : p.holdings = (input.endpoint, some fd) :: after)
    (left : p.duties = .some (.hear [] :: ds)) :
    Fulfils T p.endpoints p (Program.plain (input.readExact (.direct T) Echo.pattern.length) >>=
        fun x => Program.act (.ofExcept x.2) >>= fun _ => pure x.1) fun bytes q =>
      q = { p with duties := if bytes = Echo.pattern then some ds else none } := by
  intro w there
  have permits := (Service.admitsDirect (T := T) input.endpoint).toPermits
  have kept := permits.receiveAll (T.patience w.transport) Echo.pattern.length w trivial
  obtain ⟨calls, said, fills⟩ := input.endpoint.fills_receiveAll (Link.straight_direct T)
    (T.patience w.transport) Echo.pattern.length there.quiet
    (congrArg Handle.fd (there.has holds))
  have run : input.readExact (.direct T) Echo.pattern.length w =
    input.endpoint.receiveAll (.direct T) (T.patience w.transport) Echo.pattern.length w := rfl
  rw [Program.run_reading, run]
  generalize input.endpoint.receiveAll _ _ _ w = result at said fills kept ⊢
  obtain ⟨⟨bytes, r⟩, w'⟩ := result
  have runs : Runs T.Honest p.agenda calls (.following p.held ds (Duty.hearing bytes) r) := by
    have begins : p.agenda = .proceed p.held ds false (Duty.hearing []) := Point.agenda_going left
    rw [begins, Point.held_cons holds]
    exact fills.runs rfl fun honest => honest _ _ _ (said.serves kept)
  obtain ⟨went, there⟩ := follows there said kept runs
  cases r with
  | ok _ =>
    have full : Echo.pattern.length ≤ bytes.length := fills.full rfl
    refine .done ?_ went there
    rw [Point.following, Duty.hearing, if_neg (by omega)]
    split
    · rfl
    · rfl
  | error e => exact .failed (q := { p with duties := none }) rfl rfl went there

theorem send {bytes : List UInt8} (mine : (s, st) ∈ p.sockets) (created : st.created = true)
    (holds : p.holdings = (s.endpoint, some fd) :: after) (some : bytes ≠ [])
    (left : p.duties = .some (.say bytes :: ds)) :
    Fulfils T p.endpoints p (Echo.send (.direct T) s bytes) fun _ q =>
      q = { p with duties := .some ds } := by
  refine (outputStream mine created holds).act.andThen ?_
  rintro output _ ⟨same, rfl⟩
  rw [← same] at holds
  exact (writeAll holds some left).act

theorem receive (mine : (s, st) ∈ p.sockets) (created : st.created = true)
    (holds : p.holdings = (s.endpoint, some fd) :: after)
    (left : p.duties = .some (.hear [] :: ds)) :
    Fulfils T p.endpoints p (Echo.receive (.direct T) s) fun bytes q =>
      q = { p with duties := if bytes = Echo.pattern then some ds else none } := by
  refine (inputStream mine created holds).act.andThen ?_
  rintro input _ ⟨same, rfl⟩
  rw [← same] at holds
  exact readExact holds left

theorem release (before : List Holding) (holds : p.holdings = before ++ (ep, some fd) :: after)
    (bare : before.filterMap Prod.snd = []) (left : p.duties = some (.shut :: .close :: ds)) :
    Fulfils T p.endpoints p (ep.release (.direct T)) fun _ q =>
      q = { p with holdings := before ++ (ep, none) :: after, duties := some ds } := by
  intro w there
  have owns : w.handle ep = .owning fd :=
    there.holds (ep, some fd) (by rw [holds]; exact List.mem_append_right _ List.mem_cons_self)
  have held : p.held = fd :: after.filterMap Prod.snd := by
    rw [Point.held, holds, List.filterMap_append, bare]
    rfl
  obtain ⟨shut, reply, ends, called⟩ :=
    Endpoint.called_release (Link.straight_direct T) there.quiet owns
  have kept := (Service.admitsDirect (T := T) ep).release w trivial
  have there := there.hands holds none called
  have same : Point.endpoints { p with holdings := before ++ (ep, none) :: after } =
      p.endpoints := by
    rw [Point.endpoints, Point.endpoints, holds, List.map_append, List.map_append]
    rfl
  have held' : (before ++ (ep, none) :: after).filterMap Prod.snd = after.filterMap Prod.snd := by
    rw [List.filterMap_append, bare]
    rfl
  generalize ep.release (.direct T) w = result at ends called kept there ⊢
  obtain ⟨r, w'⟩ := result
  dsimp only at ends
  subst ends
  rw [Point.agenda_going left, held]
  cases reply with
  | ok _ =>
    refine .done rfl (.one called.said kept ?_) (there.duties _)
    rw [Point.agenda, Point.held, held']
    exact .cons (.moves .shut) (.one (.moves .closed))
  | error e =>
    refine .failed (q := { p with holdings := before ++ (ep, none) :: after, duties := none }) rfl
      same (.one called.said kept ?_) (there.duties none)
    rw [Point.agenda, Point.held, held']
    exact .cons (.moves .shut) (.one (.fails rfl rfl rfl))

theorem closeSocket (mine : (s, st) ∈ p.sockets) (created : st.created = true)
    (holds : p.holdings = (s.endpoint, some fd) :: after)
    (left : p.duties = some (.shut :: .close :: ds)) :
    Fulfils T p.endpoints p (s.close (.direct T)) fun _ q =>
      q = { p with holdings := (s.endpoint, none) :: after, duties := some ds } := by
  intro w there
  have run : s.close (.direct T) w = s.endpoint.release (.direct T) w := by
    rw [Socket.close, Action.run_bind]
    simp only [Socket.state, there.sockets _ mine, created, if_true]
  rw [run]
  exact release [] holds rfl left w there

theorem fresh (kind : SocketKind) {eps : List Endpoint} :
    Fulfils T eps p (Program.plain (Socket.fresh kind)) fun s q =>
      q = {
        p with
        sockets := [(s, .fresh kind)]
        holdings := (s.endpoint, none) :: p.holdings } := by
  intro w there
  have stays : w.Went T p.agenda p.agenda w := .noted p.agenda (.refl w)
  have went : w.Went T p.agenda p.agenda (Socket.fresh kind w).2 := stays
  exact .done rfl went (there.enters.onto w.next (.fresh kind))

theorem ensureCreated (mine : p.sockets = [(s, st)]) (new : st.created = false)
    (stream : st.kind = .stream) (holds : p.holdings = [(s.endpoint, none)])
    (left : p.duties = some (.create :: ds)) :
    Fulfils T p.endpoints p (s.ensureCreated (.direct T)) fun _ q => ∃ fd,
      q = {
        sockets := [(s, { st with created := true })]
        holdings := [(s.endpoint, some fd)]
        duties := some ds } := by
  intro w there
  have bare : w.handle s.endpoint = {} := there.has holds
  have is : w.socket s = st :=
    there.sockets (s, st) (by rw [mine]; exact List.mem_singleton_self _)
  have held : p.held = [] := Point.held_cons holds
  have run : s.ensureCreated (.direct T) w = (s.endpoint.create (.direct T) .stream >>=
      fun _ => s.update fun st => { st with created := true }) w := by
    rw [Socket.ensureCreated, Action.run_bind]
    simp only [Socket.state, is, new, stream]
    rfl
  have creates := Endpoint.creation (.direct T) s.endpoint .stream w
  have kept := (Service.admitsDirect (T := T) s.endpoint).create .stream w trivial
  rw [run, Action.run_bind, Point.agenda_going left, held]
  generalize s.endpoint.create (.direct T) .stream w = created at creates kept
  cases creates with
  | taken has =>
    rw [bare] at has
    cases has
  | senseless _ unknown => cases unknown
  | @refused native e w₁ w₂ w₃ _ known opened asked noted =>
    cases known
    have called := ((s.endpoint.called_exclusively (Link.straight_direct T)
      (opened.quiet there.quiet) asked).after noted).before opened
    refine .failed (q := { p with duties := none }) rfl rfl (.one called.said kept ?_)
      ((there.called called).duties none)
    rw [Point.agenda, Point.held, holds]
    exact .one (.fails rfl rfl rfl)
  | @made native fd w₁ w₂ w₃ _ known opened asked noted =>
    cases known
    have made := (s.endpoint.called_exclusively (Link.straight_direct T)
      (opened.quiet there.quiet) asked).before opened
    have called := (made.setHandle s.endpoint (.owning fd)).after noted
    have holds : p.holdings = [] ++ (s.endpoint, none) :: [] := holds
    have same : w₃.socket s = st := (called.socket s).trans is
    refine .done ⟨fd, rfl⟩ (.one called.said kept (.one (.moves .created))) ?_
    dsimp only
    rw [same]
    exact ((there.hands holds (some fd) called).setSocket mine _).duties _

theorem connectCreated {a : Address} (mine : p.sockets = [(s, st)])
    (holds : p.holdings = [(s.endpoint, some fd)]) (left : p.duties = some (.connect a :: ds)) :
    Fulfils T p.endpoints p (s.endpoint.connect (.direct T) a 0 >>= fun _ => s.update fun st =>
        { st with connected := true, bound := true, remoteAddress := some a }) fun _ q =>
      q = {
        p with
        sockets := [(s, { st with connected := true, bound := true, remoteAddress := some a })]
        duties := some ds } := by
  intro w there
  have has : w.handle s.endpoint = .owning fd := there.has holds
  have is : w.socket s = st :=
    there.sockets (s, st) (by rw [mine]; exact List.mem_singleton_self _)
  have held : p.held = [fd] := Point.held_cons holds
  obtain ⟨answer, called, ends⟩ := Server.called_requesting (Link.straight_direct T) there.quiet
    (Endpoint.connecting (.direct T) s.endpoint a 0 w) (congrArg Handle.fd has)
  have keeps : (Law.service T).Keeps (s.endpoint.connect (.direct T) a 0) :=
    .connectEndpoint fun opens fd => (Service.admitsDirect s.endpoint).connect opens fd a
  have kept := keeps w trivial
  rw [Action.run_bind, Point.agenda_going left, held]
  generalize s.endpoint.connect (.direct T) a 0 w = result at called ends kept ⊢
  obtain ⟨r, w₁⟩ := result
  dsimp only at called ends kept
  obtain ⟨_, rfl, rfl⟩ | ⟨e, rfl, rfl⟩ := ends
  case inl =>
    have same : w₁.socket s = st := (called.socket s).trans is
    refine .done rfl (.one called.said kept ?_) ?_
    · rw [Point.agenda, Point.held, holds]
      exact .one (.moves .connected)
    · dsimp only
      rw [same]
      exact ((there.called called).setSocket mine _).duties _
  case inr =>
    refine .failed (q := { p with duties := none }) rfl rfl (.one called.said kept ?_)
      ((there.called called).duties none)
    rw [Point.agenda, Point.held, holds]
    exact .one (.fails rfl rfl rfl)

theorem connect {a : Address} (mine : p.sockets = [(s, .fresh .stream)])
    (holds : p.holdings = [(s.endpoint, none)])
    (left : p.duties = some (.create :: .connect a :: ds)) :
    Fulfils T p.endpoints p (s.connect (.direct T) a) fun _ q => ∃ fd st, st.created = true ∧
      q = { sockets := [(s, st)], holdings := [(s.endpoint, some fd)], duties := some ds } := by
  intro w there
  have fresh : w.socket s = .fresh .stream :=
    there.sockets (s, .fresh .stream) (by rw [mine]; exact List.mem_singleton_self _)
  have run : s.connect (.direct T) a w = (s.ensureCreated (.direct T) >>= fun _ =>
      s.endpoint.connect (.direct T) a 0 >>= fun _ => s.update fun st =>
        { st with connected := true, bound := true, remoteAddress := some a }) w := by
    rw [Socket.connect, Action.run_bind]
    simp only [Socket.state, fresh]
    rfl
  have creates := ensureCreated (T := T) mine rfl rfl holds left
  have same : p.endpoints = [s.endpoint] := by rw [Point.endpoints, holds]; rfl
  rw [run]
  refine andThen creates ?_ w there
  rintro _ q ⟨fd, rfl⟩ w there
  rw [same]
  exact (connectCreated rfl rfl rfl w there).mono fun _ q is => ⟨fd, _, rfl, is⟩

theorem bind {name : String} (nothing : p.holdings = [])
    (left : p.duties = some (.create :: .bind (.here name) :: .listen :: ds)) :
    Fulfils T [] p (Server.bind (.direct T) name) fun server q => ∃ fd,
      q = { holdings := [(server.endpoint, some fd)], duties := some ds } := by
  intro w there
  have held : p.held = [] := by rw [Point.held, nothing]; rfl
  obtain ⟨calls, r, founds, result, said, handles⟩ :=
    Server.founds_bind (Link.straight_direct T) there.quiet name
  obtain ⟨w₀, more, begins, conduct, _⟩ :=
    Server.made_bind (Link.straight_direct T) there.quiet name
  have quiet : (Server.bind (.direct T) name w).2.disturbances = [] := by
    rw [conduct.disturbances, begins.disturbances, there.quiet]
  have kept := Service.hostsDirect.founding trivial (World.Founding.bindServer (.direct T) name w)
  rw [Session.world_made] at kept
  rw [Point.agenda_going left, held]
  generalize Server.bind (.direct T) name w = bound at result said handles quiet kept
  obtain ⟨_, w'⟩ := bound
  cases result
  cases r with
  | error e =>
    refine .failed (q := { duties := none }) rfl rfl (.one said kept (founds.runs.2 _ rfl)) ?_
    exact .nowhere quiet
  | ok fd =>
    refine .done ⟨fd, rfl⟩ (.one said kept (founds.runs.1 _ rfl)) ?_
    have owns : w'.handle w.next = .owning fd := (handles w.next).trans (if_pos rfl)
    refine ⟨quiet, List.nodup_singleton _, fun x mem => ?_, fun h mem => ?_,
      List.forall_mem_nil _, List.forall_mem_nil _⟩
    · cases List.mem_singleton.mp mem
      exact w'.inside_of_handle (congrArg Handle.fd owns)
    · cases List.mem_singleton.mp mem
      exact owns

theorem accept {server : Server} (holds : p.holdings = [(server.endpoint, some fd)])
    (left : p.duties = some (.accept :: ds)) :
    Fulfils T p.endpoints p (server.accept (.direct T)) fun peer q => ∃ mine st,
      st.created = true ∧ q = {
        sockets := [(peer, st)]
        holdings := [(peer.endpoint, some mine), (server.endpoint, some fd)]
        duties := some ds } := by
  intro w there
  have held : p.held = [fd] := Point.held_cons holds
  have same : p.endpoints = [server.endpoint] := by rw [Point.endpoints, holds]; rfl
  have entered := there.enters
  have has : (Endpoint.make {} w).2.handle server.endpoint = .owning fd :=
    entered.holds (server.endpoint, some fd)
      (by rw [holds]; exact List.mem_cons_of_mem _ (List.mem_singleton_self _))
  have new : (Endpoint.make {} w).2.handle w.next = {} := entered.has rfl
  have accepts := server.endpoint.acceptance (.direct T) w.next (Endpoint.make {} w).2
  have kept := Service.hostsDirect.founding trivial (World.Founding.accept (.direct T) server w)
  rw [Session.world_made] at kept
  rw [Server.run_accept] at kept ⊢
  rw [Point.agenda_going left, held]
  generalize server.endpoint.accept (.direct T) w.next (Endpoint.make {} w).2 = accepted
    at accepts kept ⊢
  cases accepts with
  | closed bare =>
    rw [has] at bare
    cases bare
  | taken _ taken =>
    rw [new] at taken
    cases taken
  | @refused fd' e w₁ w₂ w' has' _ opened asked noted =>
    rw [has] at has'
    cases has'
    have called := Link.straight_direct T (some server.endpoint) (.accept fd) w₁
      (opened.quiet entered.quiet)
    rw [asked] at called
    have called := (called.after noted).before opened
    dsimp only at kept ⊢
    rw [Endpoint.discard_bare ((called.handle w.next).trans new)] at kept ⊢
    refine .failed (q := { p with duties := none }) rfl rfl (.one called.said kept ?_)
      (((entered.called called).forget rfl).duties none)
    rw [Point.agenda, Point.held, holds]
    exact .one (.fails rfl rfl rfl)
  | @overtaken fd' peer mine w₁ w₂ w' _ _ opened asked taken =>
    have called := Link.straight_direct T (some server.endpoint) (.accept fd') w₁
      (opened.quiet entered.quiet)
    rw [asked] at called
    rw [called.handle, opened.handle, new] at taken
    cases taken
  | @made fd' peer w₁ w₂ w' has' _ opened asked _ noted =>
    rw [has] at has'
    cases has'
    have called := Link.straight_direct T (some server.endpoint) (.accept fd) w₁
      (opened.quiet entered.quiet)
    rw [asked] at called
    have called := ((called.before opened).setHandle w.next (.owning peer)).after noted
    have placed : Point.holdings { p with holdings := (w.next, none) :: p.holdings } =
        [] ++ (w.next, none) :: p.holdings := rfl
    have taken := (entered.hands placed (some peer) called).onto w.next .established
    rw [holds] at taken
    exact .done ⟨peer, .established, rfl, rfl⟩
      (.one called.said kept (.one (.moves .accepted))) (taken.duties (some ds))

end Echo.Fulfils

end ProcessorSockets
