import ProcessorSockets.Server

namespace ProcessorSockets

variable {σ α β : Type}

/-- Entries that are neither requests nor replies. -/
def Entry.isNote : Entry → Bool
  | .request _ _ => false
  | .reply _ _ _ => false
  | .syscall _ => true
  | .event _ => true
  | .opened _ => true
  | .told _ _ => true
  | .closed _ => true
  | .disturbed _ => true

def Entry.caller? : Entry → Option Endpoint
  | .request caller _ => caller
  | .reply caller _ _ => caller
  | _ => none

theorem Entry.caller?_of_isNote {e : Entry} (note : e.isNote = true) : e.caller? = none := by
  cases e with
  | request caller r => cases note
  | reply caller r answer => cases note
  | _ => rfl

@[simp] theorem Entry.isNote_entry (n : Note) : n.entry.isNote = true := by cases n <;> rfl

/-- Nothing happened but that something was noted. -/
def World.Noted (w w' : World σ) : Prop := ∃ es, (∀ e ∈ es, e.isNote = true) ∧ w' = w.add es

namespace World.Noted

theorem refl (w : World σ) : w.Noted w := ⟨[], by simp, (add_nil w).symm⟩

theorem trans {w w' w'' : World σ} (first : w.Noted w') (second : w'.Noted w'') : w.Noted w'' := by
  obtain ⟨es, notes, rfl⟩ := first
  obtain ⟨more, notes', rfl⟩ := second
  refine ⟨es ++ more, fun e mem => ?_, by simp [add]⟩
  cases List.mem_append.mp mem with
  | inl h => exact notes e h
  | inr h => exact notes' e h

theorem one (w : World σ) {e : Entry} (note : e.isNote = true) : w.Noted (w.add [e]) :=
  ⟨[e], by simpa using note, rfl⟩

theorem opening (w : World σ) (operation : String) : w.Noted (w.add (Entry.opening operation)) :=
  ⟨_, by simp [Entry.opening, Entry.isNote], rfl⟩

theorem closing (w : World σ) (operation : String) (span : Span) (elapsed : Duration) :
    w.Noted (w.add (Entry.closing operation span elapsed)) :=
  ⟨_, by simp [Entry.closing, Entry.isNote], rfl⟩

theorem endpoints {w w' : World σ} (noted : w.Noted w') : w'.endpoints = w.endpoints := by
  obtain ⟨_, _, rfl⟩ := noted
  rfl

theorem sockets {w w' : World σ} (noted : w.Noted w') : w'.sockets = w.sockets := by
  obtain ⟨_, _, rfl⟩ := noted
  rfl

theorem handle {w w' : World σ} (noted : w.Noted w') (ep : Endpoint) :
    w'.handle ep = w.handle ep := by
  obtain ⟨_, _, rfl⟩ := noted
  rfl

theorem transport {w w' : World σ} (noted : w.Noted w') : w'.transport = w.transport := by
  obtain ⟨_, _, rfl⟩ := noted
  rfl

end World.Noted

theorem World.handle_setHandle_bare (w : World σ) (ep : Endpoint) :
    (w.setHandle ep {}).handle ep = {} := by
  by_cases inside : ep.index < w.endpoints.length
  · exact World.handle_setHandle w ep {} inside
  · simp [World.handle, World.endpoint, World.setHandle, World.setEndpoint, inside]

theorem World.endpoint_make (h : Handle) (w : World σ) (ep : Endpoint) :
    (Endpoint.make h w).2.endpoint ep =
      if ep = ⟨w.endpoints.length⟩ then { handle := h } else w.endpoint ep := by
  cases ep with
  | mk i =>
    simp only [World.endpoint, Endpoint.make, Endpoint.mk.injEq]
    split
    case isTrue same => simp [same]
    case isFalse differ =>
      by_cases inside : i < w.endpoints.length
      · simp [List.getElem?_append_left inside]
      · have beyond : (w.endpoints ++ [({ handle := h } : EndpointState)]).length ≤ i := by
          simp
          omega
        have outside : w.endpoints.length ≤ i := by omega
        simp [List.getElem?_eq_none beyond, List.getElem?_eq_none outside]

theorem World.endpoint_make_of_inside {w : World σ} {ep : Endpoint}
    (inside : ep.index < w.endpoints.length) (h : Handle) :
    (Endpoint.make h w).2.endpoint ep = w.endpoint ep := by
  rw [endpoint_make, if_neg]
  rintro rfl
  exact Nat.lt_irrefl _ inside

theorem World.run_bind (m : StateM (World σ) α) (f : α → StateM (World σ) β) (w : World σ) :
    (m >>= f) w = f (m w).1 (m w).2 := rfl

theorem Action.bind_eq_ok {a : Action σ α} {f : α → Action σ β} {w w' : World σ} {y : β} :
    (a >>= f) w = (.ok y, w') ↔ ∃ x w₁, a w = (.ok x, w₁) ∧ f x w₁ = (.ok y, w') := by
  rw [run_bind]
  rcases a w with ⟨e | x, w₁⟩
  · exact ⟨nofun, by rintro ⟨_, _, ⟨⟩, _⟩⟩
  · constructor
    · exact fun ends => ⟨x, w₁, rfl, ends⟩
    · rintro ⟨_, _, ⟨⟩, ends⟩
      exact ends

theorem Action.result_bind {P : β → Prop} {a : Action σ α} {f : α → Action σ β}
    (last : ∀ x w y, (f x w).1 = .ok y → P y) : ∀ w y, ((a >>= f) w).1 = .ok y → P y := by
  intro w y h
  rw [run_bind] at h
  match e : a w with
  | (.ok x, w) =>
    rw [e] at h
    exact last x w y h
  | (.error _, _) =>
    rw [e] at h
    cases h

namespace Traced

theorem run_bind (a : Traced σ α) (f : α → Traced σ β) (span : Span) (w : World σ) :
    (a >>= f) span w = match a span w with
      | ((.ok x, span), w) => f x span w
      | ((.error e, span), w) => ((.error e, span), w) := by
  change ExceptT.bindCont f (a span w).1.1 (a span w).1.2 (a span w).2 = _
  match a span w with
  | ((.ok x, span), w) => rfl
  | ((.error e, span), w) => rfl

theorem result_bind {P : β → Prop} {a : Traced σ α} {f : α → Traced σ β}
    (last : ∀ x span w y, (f x span w).1.1 = .ok y → P y) :
    ∀ span w y, ((a >>= f) span w).1.1 = .ok y → P y := by
  intro span w y h
  rw [run_bind] at h
  match e : a span w with
  | ((.ok x, span), w) =>
    rw [e] at h
    exact last x span w y h
  | ((.error _, _), _) =>
    rw [e] at h
    cases h

@[simp] theorem run_pure (a : α) (span : Span) (w : World σ) :
    (pure a : Traced σ α) span w = ((.ok a, span), w) := rfl

@[simp] theorem run_throw (e : SocketError) (span : Span) (w : World σ) :
    (throw e : Traced σ α) span w = ((.error e, span), w) := rfl

@[simp] theorem run_plain (m : StateM (World σ) α) (span : Span) (w : World σ) :
    plain m span w = ((.ok (m w).1, span), (m w).2) := rfl

@[simp] theorem run_note (f : Span → Span) (span : Span) (w : World σ) :
    note f span w = ((.ok (), f span), w) := rfl

@[simp] theorem run_finish (a : Action σ α) (span : Span) (w : World σ) :
    finish a span w = (((a w).1, span.finish SocketError.message (a w).1), (a w).2) := rfl

end Traced

theorem run_traced (L : Link σ) (operation : String) (body : Traced σ α) (w : World σ) :
    traced L operation body w =
      ((body (.opened operation) (w.add (Entry.opening operation))).1.1,
        (body (.opened operation) (w.add (Entry.opening operation))).2.add
          (Entry.closing operation (body (.opened operation) (w.add (Entry.opening operation))).1.2
            (L.elapsed (w.add (Entry.opening operation))
              (body (.opened operation) (w.add (Entry.opening operation))).2))) := rfl

namespace Endpoint

variable (L : Link σ) (ep : Endpoint)

@[simp] theorem run_handle (w : World σ) : ep.handle w = (w.handle ep, w) := rfl

@[simp] theorem run_setHandle (h : Handle) (w : World σ) :
    ep.setHandle h w = ((), w.setHandle ep h) := rfl

theorem run_exclusively (step : StateM (World σ) α) (w : World σ) :
    ep.exclusively step w =
      ((step (w.setCreating ep true)).1, (step (w.setCreating ep true)).2.setCreating ep false) :=
  rfl

theorem run_ask (operation : String) (r : Request) (w : World σ) : ep.ask L operation r w =
    ((L.send (some ep) r w).1.mapError (.native operation), (L.send (some ep) r w).2) := rfl

theorem run_ask_ok {operation : String} {r : Request} {x : r.Reply} {w w' : World σ}
    (asked : L.send (some ep) r w = (.ok x, w')) : ep.ask L operation r w = (.ok x, w') := by
  rw [run_ask, asked]
  rfl

theorem run_ask_error {operation : String} {r : Request} {e : NativeError} {w w' : World σ}
    (asked : L.send (some ep) r w = (.error e, w')) :
    ep.ask L operation r w = (.error (.native operation e), w') := by
  rw [run_ask, asked]
  rfl

inductive Requesting (operation : String) (r : Descriptor → Request) (w : World σ) :
    Except SocketError Unit × World σ → Prop
  | closed {w' : World σ} (bare : (w.handle ep).fd = none) (noted : w.Noted w') :
      Requesting operation r w (.error .notCreated, w')
  | refused {fd : Descriptor} {e : NativeError} {w₁ w₂ w' : World σ}
      (has : (w.handle ep).fd = some fd) (opened : w.Noted w₁)
      (asked : L.send (some ep) (r fd) w₁ = (.error e, w₂)) (noted : w₂.Noted w') :
      Requesting operation r w (.error (.native operation e), w')
  | done {fd : Descriptor} {x : (r fd).Reply} {w₁ w₂ w' : World σ}
      (has : (w.handle ep).fd = some fd) (opened : w.Noted w₁)
      (asked : L.send (some ep) (r fd) w₁ = (.ok x, w₂)) (noted : w₂.Noted w') :
      Requesting operation r w (.ok (), w')

theorem binding (a : Address) (w : World σ) :
    Requesting L ep "bind" (.bind · a) w (ep.bind L a w) := by
  have opened : w.Noted (w.add (Entry.opening "bind")) := .opening w _
  unfold Endpoint.bind
  simp only [run_traced, Traced.run_bind, Traced.run_note, Traced.run_finish, run_fd,
    World.handle_add]
  cases has : (w.handle ep).fd with
  | none => exact .closed has (opened.trans (.closing ..))
  | some fd =>
    cases asked : L.send (some ep) (.bind fd a) (w.add (Entry.opening "bind")) with
    | mk reply w₂ =>
      cases reply with
      | error e =>
        simp only [run_ask_error L ep asked]
        exact .refused has opened asked (.closing ..)
      | ok x =>
        simp only [run_ask_ok L ep asked]
        exact .done has opened asked (.closing ..)

theorem listening (backlog : Int) (w : World σ) :
    Requesting L ep "listen" (.listen · backlog) w (ep.listen L backlog w) := by
  have opened : w.Noted (w.add (Entry.opening "listen")) := .opening w _
  unfold Endpoint.listen
  simp only [run_traced, Traced.run_bind, Traced.run_finish, run_fd, World.handle_add]
  cases has : (w.handle ep).fd with
  | none => exact .closed has (opened.trans (.closing ..))
  | some fd =>
    cases asked : L.send (some ep) (.listen fd backlog) (w.add (Entry.opening "listen")) with
    | mk reply w₂ =>
      cases reply with
      | error e =>
        simp only [Traced.run_note, run_ask_error L ep asked]
        exact .refused has opened asked (.closing ..)
      | ok x =>
        simp only [Traced.run_note, run_ask_ok L ep asked]
        exact .done has opened asked (.closing ..)

theorem connecting (a : Address) (timeout : Int) (w : World σ) :
    Requesting L ep "connect" (.connect · a) w (ep.connect L a timeout w) := by
  have opened : w.Noted (w.add (Entry.opening "connect")) := .opening w _
  unfold Endpoint.connect
  simp only [run_traced, Traced.run_bind, Traced.run_note, Traced.run_finish, run_fd,
    World.handle_add]
  cases has : (w.handle ep).fd with
  | none => exact .closed has (opened.trans (.closing ..))
  | some fd =>
    have asks (span : Span) {w₁ : World σ} (opened : w.Noted w₁) :
        let run := Traced.finish (ep.ask L "connect" (.connect fd a)) span w₁
        Requesting L ep "connect" (.connect · a) w (run.1.1, run.2.add (Entry.closing "connect"
          run.1.2 (L.elapsed (w.add (Entry.opening "connect")) run.2))) := by
      intro run
      dsimp only [run]
      cases asked : L.send (some ep) (.connect fd a) w₁ with
      | mk reply w₂ =>
        cases reply with
        | error e =>
          simp only [Traced.run_finish, run_ask_error L ep asked]
          exact .refused has opened asked (.closing ..)
        | ok x =>
          simp only [Traced.run_finish, run_ask_ok L ep asked]
          exact .done has opened asked (.closing ..)
    dsimp only
    split
    · exact asks _ (opened.trans (.one _ rfl))
    · exact asks _ opened

inductive Creation (kind : SocketKind) (w : World σ) : Except SocketError Unit × World σ → Prop
  | taken {fd : Descriptor} {w' : World σ} (has : (w.handle ep).fd = some fd)
      (noted : w.Noted w') : Creation kind w (.error .alreadyExists, w')
  | senseless {e : SocketError} {w' : World σ} (bare : (w.handle ep).fd = none)
      (unknown : kind.native = .error e) (noted : w.Noted w') : Creation kind w (.error e, w')
  | refused {native : Int} {e : NativeError} {w₁ w₂ w' : World σ}
      (bare : (w.handle ep).fd = none) (known : kind.native = .ok native) (opened : w.Noted w₁)
      (asked : ep.exclusively (L.send (some ep) (.create native 0)) w₁ = (.error e, w₂))
      (noted : w₂.Noted w') : Creation kind w (.error (.native "create" e), w')
  | made {native : Int} {fd : Descriptor} {w₁ w₂ w' : World σ}
      (bare : (w.handle ep).fd = none) (known : kind.native = .ok native) (opened : w.Noted w₁)
      (asked : ep.exclusively (L.send (some ep) (.create native 0)) w₁ = (.ok fd, w₂))
      (noted : (w₂.setHandle ep (.owning fd)).Noted w') : Creation kind w (.ok (), w')

theorem creation (kind : SocketKind) (w : World σ) :
    Creation L ep kind w (ep.create L kind w) := by
  have opened : w.Noted (w.add (Entry.opening "create")) := .opening w _
  unfold Endpoint.create
  simp only [run_traced, Traced.run_bind, Traced.run_plain, run_handle, World.handle_add]
  cases bare : (w.handle ep).fd with
  | some fd => exact .taken bare (opened.trans (.closing ..))
  | none =>
    cases known : kind.native with
    | error e => exact .senseless bare known (opened.trans (.closing ..))
    | ok native =>
      cases asked : ep.exclusively (L.send (some ep) (.create native 0))
          (w.add (Entry.opening "create")) with
      | mk reply w₂ =>
        have given : ep.exclusively (ep.ask L "create" (.create native 0))
            (w.add (Entry.opening "create")) = (reply.mapError (.native "create"), w₂) := by
          rw [run_exclusively] at asked ⊢
          rw [run_ask]
          cases asked
          rfl
        simp only [Option.isSome_none, Bool.false_eq_true, if_false, Traced.run_bind,
          Traced.run_finish, Action.run_ofExcept]
        erw [given]
        cases reply with
        | error e => exact .refused bare known opened asked (.closing ..)
        | ok fd => exact .made bare known opened asked (.trans (.one _ rfl) (.closing ..))

theorem turningAway (peer : Descriptor) (w : World σ) :
    (L.send (some ep) (.close peer) w).2.Noted (ep.turnAway L peer w).2 := by
  rw [turnAway, World.run_bind]
  cases (L.send (some ep) (.close peer) w).1 with
  | ok _ => exact .refl _
  | error _ => exact .one _ rfl

inductive Acceptance (into : Endpoint) (w : World σ) : Except SocketError Unit × World σ → Prop
  | closed {w' : World σ} (bare : (w.handle ep).fd = none) (noted : w.Noted w') :
      Acceptance into w (.error .notCreated, w')
  | taken {fd mine : Descriptor} {w' : World σ} (has : (w.handle ep).fd = some fd)
      (taken : (w.handle into).fd = some mine) (noted : w.Noted w') :
      Acceptance into w (.error .alreadyExists, w')
  | refused {fd : Descriptor} {e : NativeError} {w₁ w₂ w' : World σ}
      (has : (w.handle ep).fd = some fd) (bare : (w.handle into).fd = none) (opened : w.Noted w₁)
      (asked : L.send (some ep) (.accept fd) w₁ = (.error e, w₂)) (noted : w₂.Noted w') :
      Acceptance into w (.error (.native "accept" e), w')
  /-- Somebody else got a descriptor for the endpoint in the meantime. -/
  | overtaken {fd peer mine : Descriptor} {w₁ w₂ w' : World σ}
      (has : (w.handle ep).fd = some fd) (bare : (w.handle into).fd = none) (opened : w.Noted w₁)
      (asked : L.send (some ep) (.accept fd) w₁ = (.ok peer, w₂))
      (taken : (w₂.handle into).fd = some mine) (noted : (ep.turnAway L peer w₂).2.Noted w') :
      Acceptance into w (.error .alreadyExists, w')
  | made {fd peer : Descriptor} {w₁ w₂ w' : World σ}
      (has : (w.handle ep).fd = some fd) (bare : (w.handle into).fd = none) (opened : w.Noted w₁)
      (asked : L.send (some ep) (.accept fd) w₁ = (.ok peer, w₂))
      (still : (w₂.handle into).fd = none) (noted : (w₂.setHandle into (.owning peer)).Noted w') :
      Acceptance into w (.ok (), w')

theorem acceptance (into : Endpoint) (w : World σ) :
    Acceptance L ep into w (ep.accept L into w) := by
  have opened : w.Noted (w.add (Entry.opening "accept")) := .opening w _
  unfold Endpoint.accept
  simp only [run_traced, Traced.run_bind, Traced.run_finish, run_fd, World.handle_add]
  cases has : (w.handle ep).fd with
  | none => exact .closed has (opened.trans (.closing ..))
  | some fd =>
    cases bare : (w.handle into).fd with
    | some mine =>
      simp only [Traced.run_note, Traced.run_bind, Traced.run_plain, run_handle,
        World.handle_add, bare, Option.isSome_some, if_true]
      exact .taken has bare (opened.trans (.closing ..))
    | none =>
      simp only [Traced.run_note, Traced.run_bind, Traced.run_plain, run_handle,
        World.handle_add, bare, Option.isSome_none, Bool.false_eq_true, if_false,
        Traced.run_finish]
      cases asked : L.send (some ep) (.accept fd) (w.add (Entry.opening "accept")) with
      | mk reply w₂ =>
        cases reply with
        | error e =>
          rw [run_ask_error L ep asked]
          exact .refused has bare opened asked (.closing ..)
        | ok peer =>
          rw [run_ask_ok L ep asked]
          cases still : (w₂.handle into).fd with
          | some mine =>
            simp only [still, Option.isSome_some, if_true]
            exact .overtaken has bare opened asked still (.closing ..)
          | none =>
            simp only [still, Option.isSome_none, Bool.false_eq_true, if_false]
            exact .made has bare opened asked still (.trans (.one _ rfl) (.closing ..))

inductive OwnedClosing (fd : Descriptor) (w : World σ) : Except SocketError Unit × World σ → Prop
  | intro {w₁ w₂ w' : World σ} {reply : Except NativeError Unit}
      (shut : (L.send (some ep) (.shutdown fd .both) w).2.Noted w₁)
      (asked : L.send (some ep) (.close fd) w₁ = (reply, w₂)) (noted : w₂.Noted w') :
      OwnedClosing fd w (reply.mapError (.native "close"), w')

theorem ownedClosing (fd : Descriptor) (w : World σ) :
    OwnedClosing L ep fd w (ep.closeOwned L fd w) := by
  have closes (w₁ : World σ) (shut : (L.send (some ep) (.shutdown fd .both) w).2.Noted w₁) :
      OwnedClosing L ep fd w ((ep.ask L "close" (.close fd) >>= fun _ =>
        Action.plain (World.emit .debug "Closed descriptor")) w₁) := by
    rw [Action.run_bind, run_ask]
    cases asked : L.send (some ep) (.close fd) w₁ with
    | mk reply w₂ =>
      cases reply with
      | ok _ => exact .intro shut asked (.one _ rfl)
      | error _ => exact .intro shut asked (.refl _)
  rw [closeOwned, Action.run_bind, Action.run_plain]
  cases shut : L.send (some ep) (.shutdown fd .both) w with
  | mk reply w₁ =>
    rw [shut] at closes
    cases reply with
    | ok _ => exact closes w₁ (.refl _)
    | error _ => exact closes (w₁.add _) (.one _ rfl)

inductive Closing (w : World σ) : Except SocketError Unit × World σ → Prop
  | closed {w' : World σ} (bare : (w.handle ep).fd = none) (noted : w.Noted w') :
      Closing w (.error .notCreated, w')
  | owned {fd : Descriptor} {w₁ w₂ w' : World σ} {r : Except SocketError Unit}
      (has : w.handle ep = .owning fd) (opened : w.Noted w₁)
      (closed : ep.closeOwned L fd (w₁.setHandle ep {}) = (r, w₂)) (noted : w₂.Noted w') :
      Closing w (r, w')
  | detached {fd : Descriptor} {w₁ w' : World σ} (has : w.handle ep = ⟨some fd, false⟩)
      (opened : w.Noted w₁) (noted : (w₁.setHandle ep {}).Noted w') : Closing w (.ok (), w')

theorem closing (w : World σ) : Closing L ep w (ep.close L w) := by
  have opened : w.Noted (w.add (Entry.opening "close")) := .opening w _
  unfold Endpoint.close
  simp only [run_traced, Traced.run_bind, Traced.run_plain, run_handle, World.handle_add]
  cases has : w.handle ep with
  | mk fd owned =>
    cases fd with
    | none => exact .closed (by rw [has]) (opened.trans (.closing ..))
    | some fd =>
      cases owned with
      | true => exact .owned has opened rfl (.closing ..)
      | false => exact .detached has opened (.trans (.one _ rfl) (.closing ..))

theorem world_release (w : World σ) : (ep.release L w).2 =
    if (w.handle ep).owned then (ep.close L w).2 else w := by
  rw [release, Action.run_bind, Action.run_plain, run_handle]
  dsimp only
  split
  · rw [Action.run_bind, Action.run_attempt]
    rcases ep.close L w with ⟨e | _, w'⟩
    · cases e <;> rfl
    · rfl
  · rfl

inductive Discarding (w : World σ) : World σ → Prop
  | owned {fd : Descriptor} {w' : World σ} (has : w.handle ep = .owning fd)
      (noted : (ep.exclusively (L.send (some ep) (.close fd)) (w.setHandle ep {})).2.Noted w') :
      Discarding w w'
  | other (not : ∀ fd, w.handle ep ≠ .owning fd) : Discarding w (w.setHandle ep {})

theorem discarding (w : World σ) : Discarding L ep w (ep.discard L w).2 := by
  rw [discard, World.run_bind]
  simp only [run_handle]
  cases has : w.handle ep with
  | mk fd owned =>
    cases fd with
    | none => exact .other (by simp [has, Handle.owning])
    | some fd =>
      cases owned with
      | false => exact .other (by simp [has, Handle.owning])
      | true =>
        simp only [World.run_bind, run_setHandle]
        apply Discarding.owned has
        cases (ep.exclusively (L.send (some ep) (.close fd)) (w.setHandle ep {})).1 with
        | ok _ => exact .one _ rfl
        | error _ => exact .one _ rfl

theorem run_inputStream {ep : Endpoint} {fd : Descriptor} {w : World σ}
    (has : (w.handle ep).fd = some fd) :
    ep.inputStream w = match (w.endpoint ep).input with
      | some serial => (.ok ⟨ep, serial⟩, w)
      | none => (.ok ⟨ep, w.nextStream⟩,
          { w.setEndpoint ep { w.endpoint ep with input := some w.nextStream } with
            nextStream := w.nextStream + 1 }) := by
  rw [inputStream, Action.run_bind, run_fd, has]
  change (match (w.endpoint ep).input with
    | some serial => pure ⟨ep, serial⟩
    | none => _ : Action σ InputStream) w = _
  cases (w.endpoint ep).input <;> rfl

theorem run_outputStream {ep : Endpoint} {fd : Descriptor} {w : World σ}
    (has : (w.handle ep).fd = some fd) :
    ep.outputStream w = match (w.endpoint ep).output with
      | some serial => (.ok ⟨ep, serial⟩, w)
      | none => (.ok ⟨ep, w.nextStream⟩,
          { w.setEndpoint ep { w.endpoint ep with output := some w.nextStream } with
            nextStream := w.nextStream + 1 }) := by
  rw [outputStream, Action.run_bind, run_fd, has]
  change (match (w.endpoint ep).output with
    | some serial => pure ⟨ep, serial⟩
    | none => _ : Action σ OutputStream) w = _
  cases (w.endpoint ep).output <;> rfl

theorem endpoint_inputStream :
    ∀ (w : World σ) (s : InputStream), (ep.inputStream w).1 = .ok s → s.endpoint = ep := by
  apply Action.result_bind
  intro _
  apply Action.result_bind
  intro w
  cases (w.endpoint ep).input with
  | some serial =>
    rintro _ _ ⟨⟩
    rfl
  | none =>
    apply Action.result_bind
    rintro _ _ _ ⟨⟩
    rfl

theorem endpoint_outputStream :
    ∀ (w : World σ) (s : OutputStream), (ep.outputStream w).1 = .ok s → s.endpoint = ep := by
  apply Action.result_bind
  intro _
  apply Action.result_bind
  intro w
  cases (w.endpoint ep).output with
  | some serial =>
    rintro _ _ ⟨⟩
    rfl
  | none =>
    apply Action.result_bind
    rintro _ _ _ ⟨⟩
    rfl

end Endpoint

def World.next (w : World σ) : Endpoint := ⟨w.endpoints.length⟩

namespace Server

variable (L : Link σ) (w : World σ)

theorem run_accept (s : Server) : s.accept L w =
    match s.endpoint.accept L w.next (Endpoint.make {} w).2 with
    | (.ok _, w') => (.ok (Socket.ofAccepted w.next w').1, (Socket.ofAccepted w.next w').2)
    | (.error e, w') => (.error e, (w.next.discard L w').2) := by
  change keeping L w.next (s.endpoint.accept L w.next >>= fun _ =>
    Action.plain (Socket.ofAccepted w.next)) (Endpoint.make {} w).2 = _
  rw [keeping, Action.run_bind]
  rcases s.endpoint.accept L w.next (Endpoint.make {} w).2 with ⟨e | _, w'⟩
  · rfl
  · rfl

theorem run_adopt (fd : Descriptor) : Server.adopt L fd w =
    match w.next.listen L Limits.listenBacklog (Endpoint.make { fd := some fd } w).2 with
    | (.ok _, w') => (.ok ⟨w.next, none⟩, w')
    | (.error e, w') => (.error e, (w.next.discard L w').2) := by
  change keeping L w.next (w.next.listen L Limits.listenBacklog >>= fun _ =>
    pure (⟨w.next, none⟩ : Server)) (Endpoint.make { fd := some fd } w).2 = _
  rw [keeping, Action.run_bind]
  rcases w.next.listen L Limits.listenBacklog (Endpoint.make { fd := some fd } w).2
    with ⟨e | _, w'⟩
  · rfl
  · rfl

theorem run_bind (name : String) : Server.bind L name w =
    match setUp L w.next (.here name) ((Span.opened "server_bind").recordAddress
        (Address.here name).cpu (Address.here name).name)
        (Endpoint.make {} (w.add (Entry.opening "server_bind"))).2 with
    | ((.ok s, span), w') => (.ok s, w'.add (Entry.closing "server_bind" span
        (L.elapsed (w.add (Entry.opening "server_bind")) w')))
    | ((.error e, span), w') => (.error e, (w.next.discard L w').2.add
        (Entry.closing "server_bind" span
          (L.elapsed (w.add (Entry.opening "server_bind")) (w.next.discard L w').2))) := by
  let opened := w.add (Entry.opening "server_bind")
  let span := (Span.opened "server_bind").recordAddress (Address.here name).cpu
    (Address.here name).name
  let made := (Endpoint.make {} opened).2
  change (let run := keepingTraced L w.next (setUp L w.next (.here name)) span made
    (run.1.1, run.2.add (Entry.closing "server_bind" run.1.2 (L.elapsed opened run.2)))) = _
  rw [keepingTraced]
  rcases setUp L w.next (.here name) span made with ⟨⟨e | s, span'⟩, w'⟩
  · rfl
  · rfl

end Server

end ProcessorSockets
