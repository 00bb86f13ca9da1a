import ProcessorSockets.Proofs.Law.Still

namespace ProcessorSockets

variable {σ α : Type}

structure SocketState.Keeps (st st' : SocketState) : Prop where
  kind : st'.kind = st.kind
  created : st.created = true → st'.created = true
  bound : st.bound = true → st'.bound = true
  connected : st.connected = true → st'.connected = true
  localAddress : ∀ a, st.localAddress = some a → st'.localAddress = some a
  remoteAddress : ∀ a, st.remoteAddress = some a → st'.remoteAddress = some a

def SocketState.settled (st : SocketState) : Bool × Bool × Option Address × Option Address :=
  (st.bound, st.connected, st.localAddress, st.remoteAddress)

namespace SocketState.Keeps

theorem refl (st : SocketState) : st.Keeps st := ⟨rfl, id, id, id, fun _ => id, fun _ => id⟩

theorem trans {a b c : SocketState} (first : a.Keeps b) (second : b.Keeps c) : a.Keeps c where
  kind := second.kind.trans first.kind
  created := second.created ∘ first.created
  bound := second.bound ∘ first.bound
  connected := second.connected ∘ first.connected
  localAddress x := second.localAddress x ∘ first.localAddress x
  remoteAddress x := second.remoteAddress x ∘ first.remoteAddress x

end SocketState.Keeps

def Handle.Proper (h : Handle) : Prop := h = {} ∨ ∃ fd, h = .owning fd

namespace World

def Chronicled (w : World σ) (k : Socket) : Prop :=
  Chronicle (w.talk k.endpoint) (w.socket k) (w.handle k.endpoint)

/-- How the world goes on about a socket; if the socket is free, it may bind and connect. -/
structure Continues (free : Prop) (k : Socket) (w w' : World σ) : Prop where
  chronicled : w.Chronicled k → w'.Chronicled k
  houses : w.Houses k → w'.Houses k
  respects : w.Respects k → w'.Respects k
  creating : (w'.endpoint k.endpoint).creating = (w.endpoint k.endpoint).creating
  keeps : (w.socket k).Keeps (w'.socket k)
  settled : ¬free → (w'.socket k).settled = (w.socket k).settled
  creations : (w.socket k).created = true → w'.creations k.endpoint = w.creations k.endpoint
  shut : w.Shut k → w'.Shut k
  proper : (w.handle k.endpoint).Proper → (w'.handle k.endpoint).Proper

namespace Continues

variable {free : Prop} {k : Socket} {w w' w'' : World σ}

theorem refl (w : World σ) : w.Continues free k w :=
  ⟨id, id, id, rfl, .refl _, fun _ => rfl, fun _ => rfl, id, id⟩

theorem trans (first : w.Continues free k w') (second : w'.Continues free k w'') :
    w.Continues free k w'' where
  chronicled := second.chronicled ∘ first.chronicled
  houses := second.houses ∘ first.houses
  respects := second.respects ∘ first.respects
  creating := second.creating.trans first.creating
  keeps := first.keeps.trans second.keeps
  settled not := (second.settled not).trans (first.settled not)
  creations created :=
    (second.creations (first.keeps.created created)).trans (first.creations created)
  shut := second.shut ∘ first.shut
  proper := second.proper ∘ first.proper

theorem loosen (h : w.Continues False k w') : w.Continues free k w' :=
  { h with settled := fun _ => h.settled id }

theorem told {es : List Entry} (told : w.Told k es w')
    (chronicled : w.Chronicled k →
      Chronicle (w.talk k.endpoint ++ es) (w.socket k) (w.handle k.endpoint))
    (creations : (w.socket k).created = true → es.filterMap Entry.created? = []) :
    w.Continues free k w' where
  chronicled h := by
    rw [Chronicled, told.talk, told.socket, told.handle]
    exact chronicled h
  houses := told.houses
  respects := told.respects
  creating := told.creating
  keeps := by
    rw [told.socket]
    exact .refl _
  settled _ := by rw [told.socket]
  creations created := by
    rw [World.creations, told.talk, List.filterMap_append, creations created, List.append_nil]
    rfl
  shut h := h.told told
  proper h := told.handle ▸ h

theorem spared (told : w.Told k [] w') : w.Continues free k w' :=
  .told told (fun h => by rwa [List.append_nil]) fun _ => rfl

theorem noted (noted : w.Noted w') : w.Continues free k w' := spared (.noted noted)

theorem setSocket {st : SocketState} (houses : w.Houses k)
    (chronicled : w.Chronicled k → Chronicle (w.talk k.endpoint) st (w.handle k.endpoint))
    (keeps : (w.socket k).Keeps st) (settled : ¬free → st.settled = (w.socket k).settled) :
    w.Continues free k (w.setSocket k st) := by
  have state := World.socket_setSocket w k st houses.2
  exact {
    chronicled := fun h => by
      rw [Chronicled, state]
      exact chronicled h
    houses := fun _ => ⟨houses.1, by simpa [World.setSocket] using houses.2⟩
    respects := id
    creating := rfl
    keeps := by rwa [state]
    settled := fun not => by rw [state, settled not]
    creations := fun _ => rfl
    shut := fun h => ⟨by rw [state]; exact keeps.created h.created, h.bare⟩
    proper := id }

theorem lost (houses : w.Houses k) : w.Continues free k (w.setHandle k.endpoint {}) where
  chronicled h := by
    rw [Chronicled, World.handle_setHandle _ _ _ houses.1]
    exact h.lost
  houses h := ⟨by simpa using h.1, h.2⟩
  respects := id
  creating := World.creating_setHandle ..
  keeps := .refl _
  settled _ := rfl
  creations _ := rfl
  shut h := ⟨h.created, World.handle_setHandle _ _ _ houses.1⟩
  proper _ := by
    rw [World.handle_setHandle _ _ _ houses.1]
    exact .inl rfl

end Continues

end World

def Law.chronicle (free : Prop) (k : Socket) : Law σ where
  holds w := w.Houses k ∧ w.Respects k ∧ (w.endpoint k.endpoint).creating = false ∧ w.Chronicled k
  keeps := World.Continues free k
  refl := .refl
  trans := .trans
  stable holds kept := ⟨kept.houses holds.1, kept.respects holds.2.1,
    kept.creating.trans holds.2.2.1, kept.chronicled holds.2.2.2⟩
  note _ _ notes := .spared (.notes _ notes)

namespace Chronicle

open World (Continues Told)

variable {free : Prop} {k : Socket} {T : Transport σ} {meanwhile : Method → StateM (World σ) Unit}

theorem about : (Law.chronicle (σ := σ) free k).About k := ⟨.spared, fun holds => holds.1⟩

theorem allows_plain {st : SocketState} {r : Request}
    (plain : r.method ≠ .create ∧ r.method ≠ .bind ∧ r.method ≠ .connect) :
    st.allows r.method = true := by
  cases r <;> first | rfl | simp [Request.method] at plain

theorem send (between : ∀ m, (Law.chronicle free k).Keeps (meanwhile m)) {r : Request}
    (plain : r.method ≠ .create ∧ r.method ≠ .bind ∧ r.method ≠ .connect) :
    (Law.chronicle free k).Keeps ((Link.via T meanwhile).send (some k.endpoint) r) := by
  apply Law.Keeps.send (between _)
  · intro w
    exact .told (.entry w rfl) (fun h => h.request _ (allows_plain plain)) fun _ => rfl
  · exact fun w t => .spared (.transport w t)
  · intro w answer
    apply Continues.told (.entry w rfl) (fun h => h.answered _ plain _)
    cases r with
    | create type protocol => exact absurd rfl plain.1
    | _ => exact fun _ => rfl

section

variable (between : ∀ m, (Law.chronicle free k).Keeps (meanwhile m))

include between

theorem own (_ : (Law.chronicle (σ := σ) free k).Opens k.endpoint) (fd : Descriptor) :
    (Law.chronicle free k).Keeps ((Link.via T meanwhile).send (some k.endpoint) (.accept fd)) ∧
      (Law.chronicle free k).Keeps ((Link.via T meanwhile).send (some k.endpoint) (.close fd)) :=
  ⟨send between (by simp [Request.method]), send between (by simp [Request.method])⟩

theorem permits : (Law.chronicle free k).Permits (.via T meanwhile) k.endpoint where
  send _ r plain := by
    apply send between
    cases r <;> simp_all [Request.method, Method.isPlain]
  stream w _ n handle creating := .spared (.stream w n handle creating)

theorem yields : (Law.chronicle free k).Yields (.via T meanwhile) k.endpoint where
  shutdown _ _ := send between (by simp [Request.method])
  close _ := send between (by simp [Request.method])
  bare _ holds := .lost holds.1

theorem release : (Law.chronicle free k).Keeps (k.endpoint.release (.via T meanwhile)) :=
  .release (yields between).closes

theorem close : (Law.chronicle free k).Keeps (k.close (.via T meanwhile)) := by
  apply Law.Keeps.andThen (.look _)
  intro st
  split
  · exact release between
  · apply Law.Keeps.andThen
    · intro w holds
      exact .setSocket holds.1 (fun h => h.closed) { SocketState.Keeps.refl _ with
        created := fun _ => rfl } fun _ => rfl
    · exact fun _ => .plain (.emit _ _)

end

theorem interrupt (m : Method) : (Law.chronicle free k).Keeps (World.interrupt T m) := by
  refine .interrupt (fun between depth m => .disturb fun w holds => ?_) m
  have waits : w.Continues free k (w.waiting depth m) := .spared (.waiting w depth m)
  refine ⟨waits, Law.chronicle free k, (Law.chronicle free k).stable holds waits,
    fun _ _ kept => kept, fun d mem _ => ?_⟩
  by_cases own : d.deed.target = k.endpoint
  · cases (holds.2.1 d mem).1 own with
    | inl releases =>
      rw [releases]
      exact release between
    | inr closes =>
      rw [closes]
      exact close between
  · exact about.perform between (holds.2.1 d mem) own

end Chronicle

inductive Socket.Ensured (k : Socket) (w : World σ) : Except SocketError Unit × World σ → Prop
  | before (created : (w.socket k).created = true) : Ensured k w (.ok (), w)
  | failed {e : SocketError} {w' : World σ} (fresh : (w.socket k).created = false)
      (failures : List NativeError) (few : failures.length ≤ 1)
      (asked : ∀ native, (w.socket k).kind.native = .ok native → failures.length = 1)
      (continues : w.Continues False k w')
      (creations : w'.creations k.endpoint = w.creations k.endpoint ++ failures.map .error)
      (still : (w'.socket k).created = false) : Ensured k w (.error e, w')
  | made {w' : World σ} (fresh : (w.socket k).created = false) (fd : Descriptor)
      (continues : w.Continues False k w')
      (creations : w'.creations k.endpoint = w.creations k.endpoint ++ [.ok fd])
      (created : (w'.socket k).created = true) : Ensured k w (.ok (), w')

namespace Chronicle

open World (Continues Told)

variable {free : Prop} {k : Socket} {T : Transport σ} {w : World σ}

theorem creations_told {w' : World σ} {es : List Entry} (told : w.Told k es w') :
    w'.creations k.endpoint = w.creations k.endpoint ++ es.filterMap Entry.created? := by
  rw [World.creations, told.talk, List.filterMap_append]
  rfl

theorem ensured_made {native : Int} {fd : Descriptor} {w₁ w' : World σ} (houses : w.Houses k)
    (fresh : (w.socket k).created = false)
    (told : w.Told k [.request (some k.endpoint) (.create native 0),
      .reply (some k.endpoint) (.create native 0) (.ok fd)] w₁)
    (noted : (w₁.setHandle k.endpoint (.owning fd)).Noted w') :
    k.Ensured w (.ok (), w'.setSocket k { w'.socket k with created := true }) := by
  have later : (w₁.setHandle k.endpoint (.owning fd)).Told k [] w' := .noted noted
  have houses₁ : (w₁.setHandle k.endpoint (.owning fd)).Houses k :=
    ⟨by simpa using (told.houses houses).1, (told.houses houses).2⟩
  have houses' := later.houses houses₁
  have remembered : w'.socket k = w.socket k := later.socket.trans told.socket
  have state : (w'.setSocket k { w'.socket k with created := true }).socket k =
      { w.socket k with created := true } := by
    rw [World.socket_setSocket _ _ _ houses'.2, remembered]
  have talk : (w'.setSocket k { w'.socket k with created := true }).talk k.endpoint =
      (w.talk k.endpoint ++ [.request (some k.endpoint) (.create native 0)]) ++
        [.reply (some k.endpoint) (.create native 0) (.ok fd)] := by
    rw [List.append_assoc]
    exact (later.talk.trans (List.append_nil _)).trans told.talk
  have handle : w'.handle k.endpoint = .owning fd :=
    later.handle.trans (World.handle_setHandle _ _ _ (told.houses houses).1)
  refine .made fresh fd ?_ ?_ (by rw [state])
  · exact {
      chronicled := fun h => by
        have requested := h.request (some k.endpoint) (r := .create native 0)
          (by simp [SocketState.allows, Request.method, fresh])
        have created := requested.created (some k.endpoint) native 0 fd fresh
        rw [World.Chronicled, state, talk]
        exact handle.symm ▸ created
      houses := fun _ => ⟨houses'.1, by simpa [World.setSocket] using houses'.2⟩
      respects := fun h => later.respects (told.respects h)
      creating := (later.creating.trans (World.creating_setHandle ..)).trans told.creating
      keeps := by
        rw [state]
        exact { SocketState.Keeps.refl _ with created := fun _ => rfl }
      settled := fun _ => by rw [state]; rfl
      creations := fun created => by
        rw [fresh] at created
        cases created
      shut := fun h => by
        have created := h.created
        rw [fresh] at created
        cases created
      proper := fun _ => by
        change (w'.handle k.endpoint).Proper
        rw [handle]
        exact .inr ⟨fd, rfl⟩ }
  · rw [World.creations, talk, List.filterMap_append, List.filterMap_append]
    exact congrArg (· ++ _) (List.append_nil _)

theorem ensured (holds : (Law.chronicle free k).holds w) :
    k.Ensured w (k.ensureCreated (.disturbed T) w) := by
  obtain ⟨houses, respects, idle, chronicled⟩ := holds
  cases fresh : (w.socket k).created with
  | true =>
    rw [Socket.run_ensureCreated fresh]
    exact .before fresh
  | false =>
    have bare := chronicled.bare fresh
    have creation := Endpoint.creation (.disturbed T) k.endpoint (w.socket k).kind w
    rw [Socket.ensureCreated, Action.run_bind]
    simp only [Socket.state, fresh]
    change k.Ensured w ((k.endpoint.create (.disturbed T) (w.socket k).kind >>= fun _ =>
      k.update fun st => { st with created := true }) w)
    rw [Action.run_bind]
    generalize k.endpoint.create (.disturbed T) (w.socket k).kind w = run at creation
    -- Nobody else gets at the endpoint while it waits for the answer.
    have asks {w₁ w₂ : World σ} {native : Int} {answer : Except NativeError Descriptor}
        (opened : w.Noted w₁) (asked : k.endpoint.exclusively
          ((Link.disturbed T).send (some k.endpoint) (.create native 0)) w₁ = (answer, w₂)) :
        w.Told k [.request (some k.endpoint) (.create native 0),
          .reply (some k.endpoint) (.create native 0) answer] w₂ := by
      have before : w.Told k [] w₁ := .noted opened
      have told := Still.exclusively (T := T) (before.houses houses) (before.respects respects)
        (before.handle.trans bare) (before.creating.trans idle) (.create native 0)
      rw [asked] at told
      exact before.trans told
    cases creation with
    | taken has noted =>
      rw [bare] at has
      cases has
    | senseless _ unknown noted =>
      have told : w.Told k [] _ := .noted noted
      refine .failed fresh [] (Nat.zero_le _) ?_ (.spared told) (creations_told told) ?_
      · intro native known
        rw [unknown] at known
        cases known
      · rw [told.socket, fresh]
    | @refused native e w₁ w₂ w' _ _ opened asked noted =>
      have told := (asks opened asked).trans (.noted noted)
      refine .failed fresh [e] (Nat.le_refl _) (fun _ _ => rfl) (.told told ?_ ?_)
        (creations_told told) ?_
      · intro h
        have requested := h.request (some k.endpoint) (r := .create native 0)
          (by simp [SocketState.allows, Request.method, fresh])
        rw [List.append_nil, List.append_cons]
        exact requested.refused _ (by simp [SocketState.allows, Request.method, fresh]) e
      · intro created
        rw [fresh] at created
        cases created
      · rw [told.socket, fresh]
    | made _ _ opened asked noted => exact ensured_made houses fresh (asks opened asked) noted

end Chronicle

namespace Chronicle

open World (Continues Told)

variable {k : Socket} {T : Transport σ} {w : World σ}

theorem allows_settled {st st' : SocketState} {m : Method} (once : m ≠ .create)
    (same : st'.settled = st.settled) : st'.allows m = st.allows m := by
  simp only [SocketState.settled, Prod.mk.injEq] at same
  obtain ⟨bound, connected, _, _⟩ := same
  cases m with
  | create => exact absurd rfl once
  | bind => simp [SocketState.allows, bound]
  | connect => simp [SocketState.allows, connected]
  | _ => rfl

theorem created?_reply {caller : Option Endpoint} {r : Request} (other : r.method ≠ .create)
    (answer : Except NativeError r.Reply) : Entry.created? (.reply caller r answer) = none := by
  cases r with
  | create type protocol => exact absurd rfl other
  | _ => rfl

section

variable {r : Request} (once : r.method ≠ .create) {w₁ : World σ}
  (allowed : (w.socket k).allows r.method = true)

include once allowed

theorem requested (holds : (Law.chronicle False k).holds w) :
    ∃ w₁, (Law.chronicle False k).holds w₁ ∧ w.Continues False k w₁ ∧
      (w₁.socket k).allows r.method = true ∧
      (Link.disturbed T).send (some k.endpoint) r w = T.respond (some k.endpoint) r w₁ := by
  have request : w.Continues False k (w.add [.request (some k.endpoint) r]) :=
    .told (.entry w rfl) (fun h => h.request _ allowed) fun _ => rfl
  have holds' := (Law.chronicle False k).stable holds request
  have continues := request.trans (interrupt (T := T) r.method _ holds')
  exact ⟨_, (Law.chronicle False k).stable holds continues, continues,
    (allows_settled once (continues.settled id)).trans allowed, rfl⟩

theorem refusal {e : NativeError}
    (asked : T.respond (some k.endpoint) r w = (.error e, w₁)) : w.Continues False k w₁ := by
  have told := Told.respond (k := k) T r w
  rw [asked] at told
  apply Continues.told told (fun h => h.refused _ allowed _)
  intro _
  rw [List.filterMap_cons, created?_reply once]
  rfl

omit allowed in
theorem settlement {x : r.Reply} {f : SocketState → SocketState} {w' : World σ}
    (settles : ∀ {talk hd}, Chronicle talk (w.socket k) hd →
      Chronicle (talk ++ [.reply (some k.endpoint) r (.ok x)]) (f (w.socket k)) hd)
    (keeps : (w.socket k).Keeps (f (w.socket k))) (houses : w.Houses k)
    (asked : T.respond (some k.endpoint) r w = (.ok x, w₁)) (noted : w₁.Noted w') :
    w.Continues True k (w'.setSocket k (f (w'.socket k))) := by
  have told := Told.respond (k := k) T r w
  rw [asked] at told
  have told := told.trans (.noted noted)
  have houses' := told.houses houses
  have state : (w'.setSocket k (f (w'.socket k))).socket k = f (w.socket k) := by
    rw [World.socket_setSocket _ _ _ houses'.2, told.socket]
  exact {
    chronicled := fun h => by
      rw [World.Chronicled, state]
      exact told.talk.symm ▸ told.handle.symm ▸ settles h
    houses := fun _ => ⟨houses'.1, by simpa [World.setSocket] using houses'.2⟩
    respects := told.respects
    creating := told.creating
    keeps := by rwa [state]
    settled := fun not => absurd trivial not
    creations := fun _ => by
      refine (creations_told told).trans ?_
      rw [List.append_nil, List.filterMap_cons, created?_reply once]
      exact List.append_nil _
    shut := fun h => ⟨by rw [state]; exact keeps.created h.created, told.handle.trans h.bare⟩
    proper := fun h => told.handle ▸ h }

end

end Chronicle

inductive Socket.Attempted (k : Socket) (w : World σ) : Except SocketError Unit × World σ → Prop
  | failed {e : SocketError} {w' : World σ} (continues : w.Continues False k w') :
      Attempted k w (.error e, w')
  | done {w' : World σ} (continues : w.Continues True k w') : Attempted k w (.ok (), w')

namespace Socket.Attempted

variable {k : Socket} {w w' : World σ} {run : Except SocketError Unit × World σ}

theorem after (first : w.Continues False k w') (second : k.Attempted w' run) :
    k.Attempted w run := by
  cases second with
  | failed continues => exact .failed (first.trans continues)
  | done continues => exact .done (first.loosen.trans continues)

theorem continues (h : k.Attempted w run) : w.Continues True k run.2 := by
  cases h with
  | failed continues => exact continues.loosen
  | done continues => exact continues

end Socket.Attempted

namespace Chronicle

open World (Continues)

variable {k : Socket} {T : Transport σ} {w : World σ}

theorem attempted {operation : String} (request : Descriptor → Request) {op : Action σ Unit}
    {f : SocketState → SocketState} (once : ∀ fd, (request fd).method ≠ .create)
    (allowed : ∀ fd, (w.socket k).allows (request fd).method = true)
    (settles : ∀ {talk st hd fd x}, Chronicle talk st hd →
      st.allows (request fd).method = true → st.created = true →
        Chronicle (talk ++ [.reply (some k.endpoint) (request fd) (.ok x)]) (f st) hd)
    (keeps : ∀ {talk st hd fd}, Chronicle talk st hd →
      st.allows (request fd).method = true → st.Keeps (f st))
    (holds : (Law.chronicle False k).holds w) (created : (w.socket k).created = true)
    (requesting : Endpoint.Requesting (.disturbed T) k.endpoint operation request w (op w)) :
    k.Attempted w ((op >>= fun _ => k.update f) w) := by
  rw [Action.run_bind]
  generalize op w = run at requesting
  cases requesting with
  | closed _ noted => exact .failed (.noted noted)
  | @refused fd e w₁ w₂ w' _ opened asked noted =>
    have before : w.Continues False k w₁ := .noted opened
    obtain ⟨w₃, _, during, still, answers⟩ := requested (T := T) (once fd)
      ((allows_settled (once fd) (before.settled id)).trans (allowed fd))
      ((Law.chronicle False k).stable holds before)
    have refused := refusal (T := T) (once fd) still (answers.symm.trans asked)
    exact .failed (((before.trans during).trans refused).trans (.noted noted))
  | @done fd x w₁ w₂ w' _ opened asked noted =>
    have before : w.Continues False k w₁ := .noted opened
    obtain ⟨w₃, holds', during, still, answers⟩ := requested (T := T) (once fd)
      ((allows_settled (once fd) (before.settled id)).trans (allowed fd))
      ((Law.chronicle False k).stable holds before)
    have continues := before.trans during
    have settled := settlement (T := T) (once fd)
      (fun h => settles h still (continues.keeps.created created)) (keeps holds'.2.2.2 still)
      holds'.1 (answers.symm.trans asked) noted
    exact .done (continues.loosen.trans settled)

theorem bindCreated (holds : (Law.chronicle False k).holds w)
    (created : (w.socket k).created = true) (a : Address) :
    k.Attempted w (k.bindCreated (.disturbed T) a w) := by
  rw [Socket.bindCreated, Action.run_bind]
  simp only [Socket.state]
  cases free : (w.socket k).bound with
  | true => exact .failed (.refl w)
  | false =>
    apply attempted (.bind · a) _ _ _ _ holds created (Endpoint.binding _ _ a w)
    · simp [Request.method]
    · simp [Request.method, SocketState.allows, free]
    · intro talk st hd fd x h allowed created
      exact h.bound _ fd a (by simpa [SocketState.allows, Request.method] using allowed) created
    · intro talk st hd fd h allowed
      have free := h.unbound (by simpa [SocketState.allows, Request.method] using allowed)
      exact { SocketState.Keeps.refl st with
        bound := fun _ => rfl
        localAddress := fun a is => by simp [free] at is }

theorem bind (holds : (Law.chronicle False k).holds w) (a : Address) :
    k.Attempted w (k.bind (.disturbed T) a w) := by
  have ensured := ensured (T := T) holds
  rw [Socket.bind, Action.run_bind]
  generalize k.ensureCreated (.disturbed T) w = run at ensured
  cases ensured with
  | before created => exact bindCreated holds created a
  | failed _ _ _ _ continues _ _ => exact .failed continues
  | made _ _ continues _ created =>
    exact .after continues (bindCreated ((Law.chronicle False k).stable holds continues) created a)

theorem connectCreated (holds : (Law.chronicle False k).holds w)
    (created : (w.socket k).created = true) (free : (w.socket k).connected = false)
    (a : Address) : k.Attempted w ((k.endpoint.connect (.disturbed T) a 0 >>= fun _ =>
      k.update fun st => { st with connected := true, bound := true, remoteAddress := some a })
        w) := by
  apply attempted (.connect · a) _ _ _ _ holds created
    (Endpoint.connecting _ _ a 0 w)
  · simp [Request.method]
  · simp [Request.method, SocketState.allows, free]
  · intro talk st hd fd x h allowed created
    exact h.connected _ fd a (by simpa [SocketState.allows, Request.method] using allowed) created
  · intro talk st hd fd h allowed
    have free := h.unconnected (by simpa [SocketState.allows, Request.method] using allowed)
    exact { SocketState.Keeps.refl st with
      bound := fun _ => rfl
      connected := fun _ => rfl
      remoteAddress := fun a is => by simp [free] at is }

theorem connect (holds : (Law.chronicle False k).holds w) (a : Address) :
    k.Attempted w (k.connect (.disturbed T) a w) := by
  have ensured := ensured (T := T) holds
  rw [Socket.connect, Action.run_bind]
  simp only [Socket.state]
  cases free : (w.socket k).connected with
  | true => exact .failed (.refl w)
  | false =>
    change k.Attempted w ((k.ensureCreated (.disturbed T) >>= fun _ =>
      k.endpoint.connect (.disturbed T) a 0 >>= fun _ => k.update fun st =>
        { st with connected := true, bound := true, remoteAddress := some a }) w)
    rw [Action.run_bind]
    generalize k.ensureCreated (.disturbed T) w = run at ensured
    cases ensured with
    | before created => exact connectCreated holds created free a
    | failed _ _ _ _ continues _ _ => exact .failed continues
    | made _ _ continues _ created =>
      have still := congrArg (·.2.1) (continues.settled id)
      exact .after continues (connectCreated ((Law.chronicle False k).stable holds continues)
        created (still.trans free) a)

/-- The chronicle of a socket goes on with all that the socket does. -/
theorem socket : (Law.chronicle True k).AdmitsSocket (.disturbed T) k where
  permits := permits interrupt
  ensureCreated w holds := by
    have ensured := ensured (T := T) holds
    generalize k.ensureCreated (.disturbed T) w = run at ensured
    cases ensured with
    | before _ => exact .refl w
    | failed _ _ _ _ continues _ _ => exact continues.loosen
    | made _ _ continues _ _ => exact continues.loosen
  bind a w holds := (bind holds a).continues
  connect a w holds := (connect holds a).continues
  close := close interrupt

theorem discard {free : Prop} :
    (Law.chronicle free k).Keeps (k.endpoint.discard (.disturbed T)) := by
  intro w holds
  obtain ⟨houses, respects, idle, chronicled⟩ := holds
  have lost : w.Continues free k (w.setHandle k.endpoint {}) := .lost houses
  have discarding := Endpoint.discarding (.disturbed T) k.endpoint w
  generalize (k.endpoint.discard (.disturbed T) w).2 = w' at discarding
  cases discarding with
  | other _ => exact lost
  | @owned fd w' _ noted =>
    have told := Still.exclusively (T := T) (lost.houses houses) (lost.respects respects)
      (World.handle_setHandle _ _ _ houses.1) (lost.creating.trans idle) (.close fd)
    apply (lost.trans (.told told ?_ fun _ => rfl)).trans (.noted noted)
    intro h
    have requested := h.request (some k.endpoint) (r := .close fd) rfl
    rw [List.append_cons]
    exact requested.answered _ (by simp [Request.method]) _

end Chronicle

end ProcessorSockets
