import ProcessorSockets.Proofs.Chronicle
import ProcessorSockets.Proofs.Law.Others

namespace ProcessorSockets

variable {σ : Type}

/-- A deed that takes a socket for the only object, but for streams, on its endpoint. -/
def Deed.Respects (d : Deed) (k : Socket) : Prop :=
  (d.target = k.endpoint → d = .release k.endpoint ∨ d = .closeSocket k) ∧
    ∀ s, d = .closeSocket s → s.index = k.index → s = k

namespace World

def Respects (w : World σ) (k : Socket) : Prop := ∀ d ∈ w.disturbances, d.deed.Respects k

def Houses (w : World σ) (k : Socket) : Prop :=
  k.endpoint.index < w.endpoints.length ∧ k.index < w.sockets.length

structure Told (k : Socket) (es : List Entry) (w w' : World σ) : Prop where
  socket : w'.socket k = w.socket k
  handle : w'.handle k.endpoint = w.handle k.endpoint
  creating : (w'.endpoint k.endpoint).creating = (w.endpoint k.endpoint).creating
  talk : w'.talk k.endpoint = w.talk k.endpoint ++ es
  endpoints : w.endpoints.length ≤ w'.endpoints.length
  sockets : w.sockets.length ≤ w'.sockets.length
  respects : w.Respects k → w'.Respects k

theorem talk_add (w : World σ) (es : List Entry) (ep : Endpoint) :
    (w.add es).talk ep = w.talk ep ++ es.filter (·.caller? = some ep) :=
  List.filter_append ..

namespace Told

variable {k : Socket} {w w' w'' : World σ}

theorem refl (w : World σ) : w.Told k [] w :=
  ⟨rfl, rfl, rfl, (List.append_nil _).symm, Nat.le_refl _, Nat.le_refl _, id⟩

theorem trans {es es' : List Entry} (first : w.Told k es w') (second : w'.Told k es' w'') :
    w.Told k (es ++ es') w'' where
  socket := second.socket.trans first.socket
  handle := second.handle.trans first.handle
  creating := second.creating.trans first.creating
  talk := by rw [second.talk, first.talk, List.append_assoc]
  endpoints := Nat.le_trans first.endpoints second.endpoints
  sockets := Nat.le_trans first.sockets second.sockets
  respects := second.respects ∘ first.respects

theorem add (w : World σ) (es : List Entry) :
    w.Told k (es.filter (·.caller? = some k.endpoint)) (w.add es) :=
  { refl w with talk := talk_add w es k.endpoint }

theorem entry (w : World σ) {e : Entry} (mine : e.caller? = some k.endpoint) :
    w.Told k [e] (w.add [e]) := by
  have told := add (k := k) w [e]
  rwa [List.filter_cons_of_pos (by simpa using mine)] at told

theorem entry_elsewhere (w : World σ) {e : Entry} (other : e.caller? ≠ some k.endpoint) :
    w.Told k [] (w.add [e]) := by
  have told := add (k := k) w [e]
  rwa [List.filter_cons_of_neg (by simpa using other)] at told

theorem notes (w : World σ) {es : List Entry} (notes : ∀ e ∈ es, e.isNote = true) :
    w.Told k [] (w.add es) := by
  have told := add (k := k) w es
  have none : es.filter (·.caller? = some k.endpoint) = [] :=
    List.filter_eq_nil_iff.mpr fun e mem => by simp [Entry.caller?_of_isNote (notes e mem)]
  rwa [none] at told

theorem noted (noted : w.Noted w') : w.Told k [] w' := by
  obtain ⟨es, all, rfl⟩ := noted
  exact notes w all

theorem transport (w : World σ) (t : σ) : w.Told k [] { w with transport := t } := { refl w with }

theorem setEndpoint {ep : Endpoint} (other : ep ≠ k.endpoint) (w : World σ) (st : EndpointState)
    (n : Nat) : w.Told k [] { w.setEndpoint ep st with nextStream := n } := by
  have same : (w.setEndpoint ep st).endpoint k.endpoint = w.endpoint k.endpoint := by
    rw [endpoint_setEndpoint, if_neg]
    exact fun is => other is.1.symm
  exact { refl w with
    handle := congrArg EndpointState.handle same
    creating := congrArg EndpointState.creating same
    endpoints := Nat.le_of_eq (length_endpoints_setEndpoint w ep st).symm }

theorem stream (w : World σ) {st : EndpointState} (n : Nat)
    (handle : st.handle = w.handle k.endpoint)
    (creating : st.creating = (w.endpoint k.endpoint).creating) :
    w.Told k [] { w.setEndpoint k.endpoint st with nextStream := n } := by
  have state : (w.setEndpoint k.endpoint st).endpoint k.endpoint = st ∨
      (w.setEndpoint k.endpoint st).endpoint k.endpoint = w.endpoint k.endpoint := by
    rw [endpoint_setEndpoint]
    split
    · exact .inl rfl
    · exact .inr rfl
  have length := Nat.le_of_eq (length_endpoints_setEndpoint w k.endpoint st).symm
  cases state with
  | inl new =>
    exact { refl w with
      handle := (congrArg EndpointState.handle new).trans handle
      creating := (congrArg EndpointState.creating new).trans creating
      endpoints := length }
  | inr old =>
    exact { refl w with
      handle := congrArg EndpointState.handle old
      creating := congrArg EndpointState.creating old
      endpoints := length }

theorem setSocket {s : Socket} (other : s.index ≠ k.index) (w : World σ) (st : SocketState) :
    w.Told k [] (w.setSocket s st) :=
  { refl w with
    socket := by simp [World.socket, World.setSocket, other]
    sockets := by simp [World.setSocket] }

theorem onto (houses : w.Houses k) (ep : Endpoint) (st : SocketState) :
    w.Told k [] (Socket.onto ep st w).2 :=
  { refl w with
    socket := by simp [World.socket, Socket.onto, List.getElem?_append_left houses.2]
    sockets := by simp [Socket.onto] }

theorem make (houses : w.Houses k) (h : Handle) : w.Told k [] (Endpoint.make h w).2 := by
  have same := endpoint_make_of_inside houses.1 h
  exact { refl w with
    handle := congrArg EndpointState.handle same
    creating := congrArg EndpointState.creating same
    endpoints := by simp [Endpoint.make] }

theorem waiting (w : World σ) (depth : Nat) (m : Method) : w.Told k [] (w.waiting depth m) :=
  { refl w with
    respects := fun all d mem => by
      obtain ⟨d₀, mem₀, same⟩ := deed_waiting mem
      rw [same]
      exact all d₀ mem₀ }

theorem among (w : World σ) {ds : List Disturbance} (respects : ∀ d ∈ ds, d.deed.Respects k) :
    w.Told k [] { w with disturbances := ds } := { refl w with respects := fun _ => respects }

theorem respond (T : Transport σ) (r : Request) (w : World σ) :
    w.Told k [.reply (some k.endpoint) r (T.respond (some k.endpoint) r w).1]
      (T.respond (some k.endpoint) r w).2 := by
  rw [T.run_respond]
  exact ((transport w _).trans (notes _ (by simp))).trans (entry _ rfl)

theorem houses {es : List Entry} (told : w.Told k es w') (houses : w.Houses k) : w'.Houses k :=
  ⟨Nat.lt_of_lt_of_le houses.1 told.endpoints, Nat.lt_of_lt_of_le houses.2 told.sockets⟩

end Told

end World

/-- A law about a socket, which nothing breaks that happens elsewhere. -/
structure Law.About (law : Law σ) (k : Socket) : Prop where
  spares : ∀ {w w' : World σ}, w.Told k [] w' → law.keeps w w'
  houses : ∀ {w}, law.holds w → w.Houses k

namespace Law.About

open World (Told)

variable {law : Law σ} {k : Socket} {T : Transport σ} {meanwhile : Method → StateM (World σ) Unit}

theorem leaves (h : law.About k) : law.Leaves k.endpoint where
  entry w _ other := h.spares (.entry_elsewhere w other)
  transport w t := h.spares (.transport w t)
  state w _ st n other := h.spares (.setEndpoint other w st n)

section

variable (h : law.About k) (between : ∀ m, law.Keeps (meanwhile m))

include h between

theorem send {caller : Option Endpoint} (other : caller ≠ some k.endpoint) (r : Request) :
    law.Keeps ((Link.via T meanwhile).send caller r) := h.leaves.send between other r

theorem perform {d : Deed} (respects : d.Respects k) (other : d.target ≠ k.endpoint) :
    law.Keeps (d.perform (.via T meanwhile)) := by
  apply (h.leaves.ignores between other).bears.perform
  rintro s w st rfl
  apply h.spares (.setSocket _ w st)
  intro same
  rw [respects.2 s rfl same] at other
  exact other rfl

variable (own : law.Opens k.endpoint → ∀ fd,
  law.Keeps ((Link.via T meanwhile).send (some k.endpoint) (.accept fd)) ∧
    law.Keeps ((Link.via T meanwhile).send (some k.endpoint) (.close fd)))

include own

theorem admits {ep : Endpoint} (other : ep ≠ k.endpoint) : law.Admits (.via T meanwhile) ep :=
  h.leaves.admits between own other

omit between own in
theorem founds : law.Founds where
  socket ep st _ holds := h.spares (.onto (h.houses holds) ep st)

theorem hosts : law.Hosts (.via T meanwhile) :=
  h.leaves.hosts between own (fun _ holds => (h.houses holds).1)
    (fun hd _ holds => h.spares (.make (h.houses holds) hd)) h.founds

end

end Law.About

end ProcessorSockets
