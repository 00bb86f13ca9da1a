import ProcessorSockets.Proofs.Conduct.Server
import ProcessorSockets.Proofs.Law.Link
import ProcessorSockets.Proofs.Session.Once
import ProcessorSockets.Proofs.Tracing

namespace ProcessorSockets

variable {σ α : Type} {foreign : String → Prop}

def Link.Discreet (foreign : String → Prop) (L : Link σ) : Prop :=
  ∀ caller r, ProcessorSockets.Discreet foreign (L.send caller r)

namespace Endpoint

variable {L : Link σ} (discreet : L.Discreet foreign) (ep : Endpoint)

include discreet

theorem discreet_ask (operation : String) (r : Request) :
    Discreet foreign (ep.ask L operation r) := discreet (some ep) r

theorem discreet_turnAway (peer : Descriptor) : Discreet foreign (ep.turnAway L peer) := by
  apply Discreet.bind (discreet _ _)
  intro reply
  cases reply with
  | ok _ => exact .look _
  | error _ => exact .emit _ _

theorem discreet_closeOwned (fd : Descriptor) : Discreet foreign (ep.closeOwned L fd) := by
  have closes : Discreet foreign (ep.ask L "close" (.close fd) >>= fun _ =>
      Action.plain (World.emit .debug "Closed descriptor")) :=
    .andThen (discreet_ask discreet ep _ _) fun _ => .plain (.emit _ _)
  apply Discreet.andThen (.plain (discreet _ _))
  intro reply
  cases reply with
  | ok _ => exact closes
  | error _ => exact .andThen (.plain (.emit _ _)) fun _ => closes

omit discreet in
theorem discreet_exclusively {α : Type} {step : StateM (World σ) α}
    (h : Discreet foreign step) : Discreet foreign (ep.exclusively step) :=
  fun w => h (w.setCreating ep true)

theorem discreet_discard : Discreet foreign (ep.discard L) := by
  apply Discreet.bind (.look _)
  intro h
  split
  · apply Discreet.bind (.setHandle _ _)
    intro _
    apply Discreet.bind (discreet_exclusively ep (discreet _ _))
    intro reply
    cases reply with
    | ok _ => exact .emit _ _
    | error _ => exact .emit _ _
  · exact .setHandle _ _

theorem discreet_setTimeout (fd : Descriptor) (timeout : Duration) :
    Discreet foreign (ep.setTimeout L fd timeout) := by
  apply Discreet.andThen (discreet_ask discreet ep _ _)
  intro previous
  apply Discreet.andThen (discreet_ask discreet ep _ _)
  intro _
  apply Discreet.andThen (.attempt (discreet_ask discreet ep _ _))
  intro r
  cases r with
  | ok _ => exact .look _
  | error e =>
    apply Discreet.andThen (.plain (discreet _ _))
    intro reply
    cases reply with
    | ok _ => exact .throw' e
    | error _ => exact .andThen (.plain (.emit _ _)) fun _ => .throw' e

omit discreet in
theorem leads_fd {operation : String} {rest : Descriptor → Traced σ α}
    (leads : ∀ fd, (rest fd).Leads foreign operation Span.Clear Span.Good) :
    Traced.Leads foreign operation Span.Clear Span.Good (do
      let fd ← Traced.finish ep.fd
      Traced.note (·.recordDescriptor fd)
      rest fd) :=
  .bind (.clear (.finish (.fd ep))) fun fd =>
    .bind (.descriptor fd fun _ clear => clear) fun _ => leads fd

theorem recorded_create (kind : SocketKind) (w : World σ) :
    Recorded L foreign "create" [] w (ep.create L kind w) := by
  apply Recorded.ofTraced
  apply Traced.Leads.bind (.plain (.look _))
  intro h
  apply Traced.Leads.refuseIf
  apply Traced.Leads.bind (.clear (.finish (.ofExcept _)))
  intro native
  apply Traced.Leads.bind (.finish (discreet_exclusively ep (discreet_ask discreet ep _ _)))
  intro fd
  apply Traced.Leads.bind (.plain (.setHandle _ _))
  intro _
  apply Traced.Leads.bind (.descriptor fd fun _ good => good)
  intro _
  exact .plain (.emit _ _)

theorem recorded_bind (a : Address) (w : World σ) :
    Recorded L foreign "bind" [] w (ep.bind L a w) := by
  apply Recorded.ofTraced
  apply Traced.Leads.bind (.address a)
  intro _
  apply leads_fd ep
  intro fd
  exact .finish (discreet_ask discreet ep _ _)

theorem recorded_listen (backlog : Int) (w : World σ) :
    Recorded L foreign "listen" [] w (ep.listen L backlog w) := by
  apply Recorded.ofTraced
  apply leads_fd ep
  intro fd
  exact .finish (discreet_ask discreet ep _ _)

theorem recorded_accept (into : Endpoint) (w : World σ) :
    Recorded L foreign "accept" [] w (ep.accept L into w) := by
  apply Recorded.ofTraced
  apply leads_fd ep
  intro fd
  apply Traced.Leads.bind (.plain (.look _))
  intro h
  apply Traced.Leads.refuseIf
  apply Traced.Leads.bind (.clear (.finish (discreet_ask discreet ep _ _)))
  intro peer
  apply Traced.Leads.bind (.plain (.look _))
  intro h'
  split
  · exact .bind (.plain (discreet_turnAway discreet ep _)) fun _ => .refuse _
  · apply Traced.Leads.bind (.plain (.setHandle _ _))
    intro _
    apply Traced.Leads.bind (.plain (.emit _ _))
    intro _
    exact .success

theorem recorded_connect (a : Address) (timeout : Int) (w : World σ) :
    Recorded L foreign "connect" [] w (ep.connect L a timeout w) := by
  have asks (fd : Descriptor) : (Traced.finish (ep.ask L "connect" (.connect fd a))).Leads foreign
      "connect" Span.Clear Span.Good := .finish (discreet_ask discreet ep _ _)
  apply Recorded.ofTraced
  apply Traced.Leads.bind (.address a)
  intro _
  apply leads_fd ep
  intro fd
  split
  · exact .bind (.plain (.emit _ _)) fun _ => asks fd
  · exact asks fd

theorem recorded_setOption (option : SocketOption) (value : Int) (w : World σ) :
    Recorded L foreign "set_option" [] w (ep.setOption L option value w) := by
  apply Recorded.ofTraced
  apply Traced.Leads.refuseIf
  apply leads_fd ep
  intro fd
  apply Traced.Leads.finish
  cases option with
  | timeout => exact discreet_setTimeout discreet ep _ _
  | receiveBufferSize => exact discreet_ask discreet ep _ _
  | sendBufferSize => exact discreet_ask discreet ep _ _

theorem recorded_close {w : World σ} {fd : Descriptor} (has : (w.handle ep).fd = some fd) :
    Recorded L foreign "close" [] w (ep.close L w) := by
  rcases handle : w.handle ep with ⟨_, owned⟩
  rw [handle] at has
  cases has
  have leads : Traced.Leads foreign "close" Span.Clear Span.Good (do
      Traced.plain (ep.setHandle {})
      Traced.note (·.recordDescriptor fd)
      if owned then Traced.finish (ep.closeOwned L fd)
      else
        Traced.plain (World.emit .debug "Detached adopted descriptor without closing it")
        Traced.note (·.recordResult true)) := by
    apply Traced.Leads.bind (.plain (.setHandle _ _))
    intro _
    apply Traced.Leads.bind (.descriptor fd fun _ clear => clear)
    intro _
    split
    · exact .finish (discreet_closeOwned discreet ep fd)
    · exact .bind (.plain (.emit _ _)) fun _ => .success
  have ended := leads (.opened "close") (w.add (Entry.opening "close")) rfl rfl
  rw [close]
  apply Recorded.ofEnded
  rw [Traced.run_bind, Traced.run_plain]
  simp only [run_handle, World.handle_add, handle]
  exact ended

omit discreet in
theorem close_bare {w : World σ} (bare : (w.handle ep).fd = none) :
    let opened := w.add (Entry.opening "close")
    ep.close L w = (.error .notCreated,
      opened.add (Entry.closing "close" (.opened "close") (L.elapsed opened opened))) := by
  rcases handle : w.handle ep with ⟨_, owned⟩
  rw [handle] at bare
  cases bare
  rw [close, run_traced, Traced.run_bind, Traced.run_plain]
  simp only [run_handle, World.handle_add, handle, Traced.run_throw]

theorem spans_close (w : World σ) : w.Spans foreign ["close"] (ep.close L w).2 := by
  cases has : (w.handle ep).fd with
  | some fd => exact (recorded_close discreet ep has).spans
  | none =>
    rw [close_bare ep has]
    let opened := w.add (Entry.opening "close")
    let elapsed := L.elapsed opened opened
    have times := Span.times_took (.opened "close") elapsed
    have nests : Nests foreign _ _ :=
      .span ((Span.opened "close").took elapsed) times.ends .nil .nil
    rw [Span.operation_took] at nests
    exact ⟨_, List.append_assoc .., nests⟩

def Closes (foreign : String → Prop) (w w' : World σ) : Prop :=
  w.Spans foreign [] w' ∨ w.Spans foreign ["close"] w'

theorem closes_release (w : World σ) : Closes foreign w (ep.release L w).2 := by
  rw [release, Action.run_bind, Action.run_plain]
  dsimp only [run_handle]
  split
  · rw [Action.run_bind, Action.run_attempt]
    refine .inr ((spans_close discreet ep w).trans ?_)
    -- Of the outcome nothing is noted, whichever it is.
    rcases (ep.close L w).1 with e | _
    · cases e <;> exact .refl _
    · exact .refl _
  · exact .inl (.refl w)

theorem closes_guard (w : World σ) : Closes foreign w ((Guard.around ep).discard L w).2 := by
  have active : (Guard.around ep).active = true := rfl
  have after : (ep.release L w).2.Spans foreign [] ((Guard.around ep).discard L w).2 := by
    unfold Guard.discard
    rw [if_pos active, World.run_bind]
    cases (((Guard.around ep).endpoint.release L).run w).1 with
    | ok _ => exact Discreet.emit _ _ _
    | error _ => exact Discreet.emit _ _ _
  exact (closes_release discreet ep w).imp (·.trans after) (·.trans after)

end Endpoint

namespace Server

inductive FittedBy : List String → Except SocketError α → Prop
  | unbound (e : SocketError) {closing : List String}
      (closes : closing = [] ∨ closing = ["close"]) : FittedBy ("bind" :: closing) (.error e)
  | deaf (e : SocketError) {closing : List String}
      (closes : closing = [] ∨ closing = ["close"]) :
      FittedBy ("bind" :: "listen" :: closing) (.error e)
  | listening (a : α) : FittedBy ["bind", "listen"] (.ok a)

/-- The operations that a server is made by. -/
inductive MadeBy : List String → Except SocketError α → Prop
  | uncreated (e : SocketError) : MadeBy ["create"] (.error e)
  | created {inner : List String} {answer : Except SocketError α}
      (fitted : FittedBy inner answer) : MadeBy ("create" :: inner) answer

variable {L : Link σ} (discreet : L.Discreet foreign) {operation : String} {span : Span}

include discreet

theorem ended_guarded (ep : Endpoint) (address : Address) (w : World σ)
    (same : span.operation = operation) (clear : span.Clear) :
    let run := guarded L ep (do
      Traced.finish (ep.bind L address)
      Traced.finish (ep.listen L Limits.listenBacklog)) span w
    ∃ inner, Traced.Ended foreign operation inner Span.Good w run ∧ FittedBy inner run.1.1 := by
  have bound := Traced.ended_finish (Endpoint.recorded_bind discreet ep address w) same clear
  rw [guarded, Traced.run_bind]
  rcases binds : Traced.finish (ep.bind L address) span w with ⟨⟨e | _, span₁⟩, w₁⟩
  · rw [binds] at bound
    obtain closed | closed := Endpoint.closes_guard discreet ep w₁
    · exact ⟨_, ⟨bound.1.trans closed, bound.2⟩, .unbound e (.inl rfl)⟩
    · exact ⟨_, ⟨bound.1.trans closed, bound.2⟩, .unbound e (.inr rfl)⟩
  · rw [binds] at bound
    have heard := Traced.ended_finish
      (Endpoint.recorded_listen discreet ep Limits.listenBacklog w₁) bound.2.1 bound.2.2.2
    dsimp only
    rcases listens : Traced.finish (ep.listen L Limits.listenBacklog) span₁ w₁ with
      ⟨⟨e | a, span₂⟩, w₂⟩
    · rw [listens] at heard
      obtain closed | closed := Endpoint.closes_guard discreet ep w₂
      · exact ⟨_, ⟨bound.1.trans (heard.1.trans closed), heard.2⟩, .deaf e (.inl rfl)⟩
      · exact ⟨_, ⟨bound.1.trans (heard.1.trans closed), heard.2⟩, .deaf e (.inr rfl)⟩
    · rw [listens] at heard
      exact ⟨_, ⟨bound.1.trans heard.1, heard.2⟩, .listening a⟩

omit discreet in
theorem leads_announce (ep : Endpoint) (address : Address) :
    Traced.Leads (σ := σ) foreign operation Span.Good Span.Good (do
      let h ← Traced.plain ep.handle
      if let some fd := h.fd then Traced.note (·.recordDescriptor fd)
      Traced.plain (World.emit .info "Server socket listening")
      return (⟨ep, some address⟩ : Server)) := by
  have last : Traced.Leads (σ := σ) foreign operation Span.Good Span.Good (do
      Traced.plain (World.emit .info "Server socket listening")
      return (⟨ep, some address⟩ : Server)) :=
    .bind (.plain (.emit _ _)) fun _ _ w same good => ⟨.refl w, same, good⟩
  apply Traced.Leads.bind (.plain (.look _))
  intro h
  split
  · next fd _ => exact .bind (.descriptor fd fun _ good => good) fun _ => last
  · exact last

theorem ended_setUp (ep : Endpoint) (address : Address) (w : World σ)
    (same : span.operation = operation) (clear : span.Clear) :
    ∃ inner, Traced.Ended foreign operation inner Span.Good w (setUp L ep address span w) ∧
      MadeBy inner (setUp L ep address span w).1.1 := by
  have made := Traced.ended_finish (Endpoint.recorded_create discreet ep .stream w) same clear
  rw [setUp, Traced.run_bind]
  rcases creates : Traced.finish (ep.create L .stream) span w with ⟨⟨e | _, span₁⟩, w₁⟩
  · rw [creates] at made
    exact ⟨_, made, .uncreated e⟩
  · rw [creates] at made
    obtain ⟨inner, ended, fitted⟩ := ended_guarded discreet ep address w₁ made.2.1 made.2.2.2
    dsimp only at ended fitted ⊢
    rw [Traced.run_bind]
    rcases guards : guarded L ep (do
        Traced.finish (ep.bind L address)
        Traced.finish (ep.listen L Limits.listenBacklog)) span₁ w₁ with ⟨⟨e | _, span₂⟩, w₂⟩
    · rw [guards] at ended fitted
      refine ⟨_, ⟨made.1.trans ended.1, ended.2⟩, .created ?_⟩
      cases fitted with
      | unbound _ closes => exact .unbound e closes
      | deaf _ closes => exact .deaf e closes
    · rw [guards] at ended fitted
      have told : Traced.Ended foreign operation [] Span.Good w₂ _ :=
        leads_announce ep address span₂ w₂ ended.2.1 ended.2.2
      refine ⟨_, ⟨made.1.trans (ended.1.trans told.1), told.2⟩, ?_⟩
      rw [List.append_nil]
      refine .created ?_
      cases fitted
      have answer := (noted_announce ep address span₂ w₂).1
      exact answer.symm ▸ .listening _

theorem recorded_bind (name : String) (w : World σ) :
    ∃ inner, Recorded L foreign "server_bind" inner w (bind L name w) ∧
      MadeBy inner (bind L name w).1 := by
  let address := Address.here name
  let span := (Span.opened "server_bind").recordAddress address.cpu address.name
  let opened := w.add (Entry.opening "server_bind")
  let made := Endpoint.fresh (σ := σ) opened
  have named : span.operation = "server_bind" := rfl
  obtain ⟨inner, ended, madeBy⟩ := ended_setUp discreet made.1 address made.2 named rfl
  -- Whatever comes of it, a new endpoint that fails goes without a span.
  have kept : Traced.Ended foreign "server_bind" inner Span.Good opened
      (keepingTraced L made.1 (setUp L made.1 address) span made.2) ∧
      MadeBy inner (keepingTraced L made.1 (setUp L made.1 address) span made.2).1.1 := by
    have fresh : opened.Spans foreign [] made.2 := .refl opened
    rw [keepingTraced]
    rcases sets : setUp L made.1 address span made.2 with ⟨⟨e | _, span'⟩, w'⟩
    · rw [sets] at ended madeBy
      have gone := Endpoint.discreet_discard discreet made.1 w'
      refine ⟨⟨?_, ended.2⟩, madeBy⟩
      have all := (fresh.trans ended.1).trans gone
      rwa [List.append_nil] at all
    · rw [sets] at ended madeBy
      exact ⟨⟨fresh.trans ended.1, ended.2⟩, madeBy⟩
  exact ⟨inner, .ofEnded kept.1, kept.2⟩

end Server

theorem Discreet.respond (T : Transport σ) (caller : Option Endpoint) (r : Request) :
    Discreet foreign (T.respond caller r) := by
  intro w
  rw [T.run_respond]
  exact .trans (.plains { w with transport := _ } (by simp)) (.one _ rfl)

theorem Link.discreet_via {meanwhile : Method → StateM (World σ) Unit} (T : Transport σ)
    (between : ∀ m, ProcessorSockets.Discreet foreign (meanwhile m)) :
    (Link.via T meanwhile).Discreet foreign :=
  fun caller r => .bind (.record (by simp [Entry.isPlain])) fun _ =>
    .bind (between r.method) fun _ => .respond T caller r

theorem Link.discreet_direct (T : Transport σ) : (Link.direct T).Discreet foreign :=
  discreet_via T fun _ => .look _

/-- What somebody does in the middle of a request shows as a span of creating or closing. -/
def Deed.Shows (operation : String) : Prop := operation = "create" ∨ operation = "close"

namespace Discreet

theorem ofCloses {step : World σ → α × World σ}
    (closes : ∀ w, Endpoint.Closes Deed.Shows w (step w).2) : Discreet Deed.Shows step := fun w =>
  (closes w).elim id fun closed => closed.others (by simp [Deed.Shows])

theorem perform {L : Link σ} (discreet : L.Discreet Deed.Shows) (d : Deed) :
    Discreet Deed.Shows (d.perform L) := by
  have release (ep : Endpoint) : Discreet Deed.Shows (ep.release L) :=
    ofCloses (Endpoint.closes_release discreet ep)
  cases d with
  | create ep kind =>
    exact fun w => (Endpoint.recorded_create discreet ep kind w).spans.others (by simp [Deed.Shows])
  | close ep => exact ofCloses fun w => .inr (Endpoint.spans_close discreet ep w)
  | release ep => exact release ep
  | closeSocket k =>
    apply andThen (.look _)
    intro st
    split
    · exact release k.endpoint
    · exact .andThen (fun w => .refl w) fun _ => .plain (.emit _ _)

theorem disturb {L : Link σ} (discreet : L.Discreet Deed.Shows) (depth : Nat) (m : Method) :
    Discreet Deed.Shows (World.disturb L depth m) := by
  intro w
  rw [World.run_disturb]
  exact loop (fun d _ _ => .bind (perform discreet d.deed) fun _ =>
    .bind (.record (by simp [Entry.isPlain])) fun _ => .look _) PUnit.unit (w.waiting depth m)

theorem amidst (T : Transport σ) (levels depth : Nat) (m : Method) :
    Discreet Deed.Shows (World.amidst T depth levels m) := by
  induction levels generalizing depth m with
  | zero => exact .look _
  | succ levels ih => exact disturb (Link.discreet_via T (ih (depth + 1))) depth m

end Discreet

theorem Link.discreet_disturbed (T : Transport σ) : (Link.disturbed T).Discreet Deed.Shows :=
  discreet_via T fun m w => Discreet.amidst T w.disturbances.length 0 m w

/-- What each traced operation leaves in the log, on whatever objects and however it ends. -/
structure Link.Records (foreign : String → Prop) (L : Link σ) : Prop where
  create : ∀ (ep : Endpoint) kind w, Recorded L foreign "create" [] w (ep.create L kind w)
  bind : ∀ (ep : Endpoint) a w, Recorded L foreign "bind" [] w (ep.bind L a w)
  listen : ∀ (ep : Endpoint) backlog w, Recorded L foreign "listen" [] w (ep.listen L backlog w)
  accept : ∀ (ep into : Endpoint) w, Recorded L foreign "accept" [] w (ep.accept L into w)
  connect : ∀ (ep : Endpoint) a timeout w,
    Recorded L foreign "connect" [] w (ep.connect L a timeout w)
  setOption : ∀ (ep : Endpoint) option value w,
    Recorded L foreign "set_option" [] w (ep.setOption L option value w)
  close : ∀ (ep : Endpoint) w fd, (w.handle ep).fd = some fd →
    Recorded L foreign "close" [] w (ep.close L w)
  /-- The one end that is not recorded. -/
  closeBare : ∀ (ep : Endpoint) w, (w.handle ep).fd = none →
    let opened := w.add (Entry.opening "close")
    ep.close L w = (.error .notCreated,
      opened.add (Entry.closing "close" (.opened "close") (L.elapsed opened opened)))
  serverBind : ∀ name w, ∃ inner, Recorded L foreign "server_bind" inner w (Server.bind L name w) ∧
    Server.MadeBy inner (Server.bind L name w).1

theorem Link.Discreet.records {L : Link σ} (discreet : L.Discreet foreign) :
    L.Records foreign where
  create ep := Endpoint.recorded_create discreet ep
  bind ep := Endpoint.recorded_bind discreet ep
  listen ep := Endpoint.recorded_listen discreet ep
  accept ep := Endpoint.recorded_accept discreet ep
  connect ep := Endpoint.recorded_connect discreet ep
  setOption ep := Endpoint.recorded_setOption discreet ep
  close ep _ _ has := Endpoint.recorded_close discreet ep has
  closeBare ep _ bare := Endpoint.close_bare ep bare
  serverBind := Server.recorded_bind discreet

/-- Every traced operation opens one span, which tells once that it starts, and once that it is
completed or was slow before it is closed, around the spans of the operations that it is made of.
The span then tells the result, but for that of closing an endpoint that has no descriptor. -/
theorem operations_recorded (T : Transport σ) :
    (Link.direct T).Records (fun _ => False) ∧ (Link.disturbed T).Records Deed.Shows :=
  ⟨(Link.discreet_direct T).records, (Link.discreet_disturbed T).records⟩

/-- An endpoint that is closed before it had a descriptor: the caller is told of a failure, and
the span of nothing. -/
theorem close_unrecorded :
    let L := Link.disturbed Scripted.transport
    let around : Session.Surroundings Scripted.State := {}
    let made := (Session.runStep L around (.act .newEndpoint none (some "e") [])
      (Session.start { outcomes := fun _ => [] })).2
    let closed := Session.runStep L around (.act .close (some "e") none []) made
    closed.1.value = .failure .notCreated ∧
      closed.2.world = (Endpoint.close L ⟨0⟩ made.world).2 ∧
      ∀ inner, ¬Recorded L Deed.Shows "close" inner made.world
        (Endpoint.close L ⟨0⟩ made.world) := by
  intro L around made closed
  refine ⟨rfl, rfl, fun inner ⟨inside, w', ending, span, _, _, ends, _, _, told⟩ => ?_⟩
  have bare : (made.world.handle ⟨0⟩).fd = none := rfl
  rw [Endpoint.close_bare ⟨0⟩ bare] at ends told
  have last := congrArg (fun w => w.log.getLast?) ends
  simp only [World.log_add, Entry.closing, List.getLast?_append, List.getLast?_cons_cons,
    List.getLast?_singleton, Option.some_or, Option.some.injEq, Entry.closed.injEq] at last
  have result := told.1
  rw [← last, Span.result_took] at result
  cases result

end ProcessorSockets
