import ProcessorSockets.Proofs.Run

namespace ProcessorSockets

variable {σ : Type}

namespace Entry

def created? : Entry → Option (Except NativeError Descriptor)
  | .reply _ (.create _ _) answer => some answer
  | _ => none

def bound? : Entry → Option Address
  | .reply _ (.bind _ address) (.ok _) => some address
  | _ => none

def connected? : Entry → Option Address
  | .reply _ (.connect _ address) (.ok _) => some address
  | _ => none

def concerns (m : Method) : Entry → Bool
  | .request _ r => r.method = m
  | .reply _ r _ => r.method = m
  | _ => false

/-- Nothing is asked for that was settled before. -/
structure Precedes (e e' : Entry) : Prop where
  created : ∀ fd, e.created? = some (.ok fd) → e'.concerns .create = false
  bound : e.bound?.isSome = true → e'.concerns .bind = false
  connected : e.connected?.isSome = true →
    e'.concerns .bind = false ∧ e'.concerns .connect = false

end Entry

namespace World

def talk (w : World σ) (ep : Endpoint) : List Entry := w.log.filter (·.caller? = some ep)

def creations (w : World σ) (ep : Endpoint) : List (Except NativeError Descriptor) :=
  (w.talk ep).filterMap Entry.created?

def bindings (w : World σ) (ep : Endpoint) : List Address := (w.talk ep).filterMap Entry.bound?

def connections (w : World σ) (ep : Endpoint) : List Address :=
  (w.talk ep).filterMap Entry.connected?

end World

def SocketState.allows (st : SocketState) : Method → Bool
  | .create => !st.created
  | .bind => !st.bound
  | .connect => !st.connected
  | _ => true

structure Chronicle (talk : List Entry) (st : SocketState) (h : Handle) : Prop where
  bound_of_connected : st.connected = true → st.bound = true
  created_of_bound : st.bound = true → st.created = true
  bound_of_local : st.localAddress.isSome = true → st.bound = true
  connected_of_remote : st.remoteAddress.isSome = true → st.connected = true
  bindings : talk.filterMap Entry.bound? = st.localAddress.toList
  connections : talk.filterMap Entry.connected? = st.remoteAddress.toList
  creations : ∃ (failures : List NativeError) (made : Option Descriptor),
    talk.filterMap Entry.created? = failures.map .error ++ made.toList.map .ok ∧
      (st.created = false → made = none)
  bare : st.created = false → h = {}
  order : talk.Pairwise Entry.Precedes

namespace Chronicle

theorem skip {α : Type} {f : Entry → Option α} {talk : List Entry} {e : Entry} (none : f e = none) :
    (talk ++ [e]).filterMap f = talk.filterMap f := by simp [none]

theorem fresh (kind : SocketKind) : Chronicle [] (.fresh kind) {} where
  bound_of_connected := nofun
  created_of_bound := nofun
  bound_of_local := nofun
  connected_of_remote := nofun
  bindings := rfl
  connections := rfl
  creations := ⟨[], none, rfl, fun _ => rfl⟩
  bare _ := rfl
  order := .nil

theorem established (h : Handle) : Chronicle [] .established h where
  bound_of_connected _ := rfl
  created_of_bound _ := rfl
  bound_of_local := nofun
  connected_of_remote := nofun
  bindings := rfl
  connections := rfl
  creations := ⟨[], none, rfl, fun _ => rfl⟩
  bare := nofun
  order := .nil

variable {talk : List Entry} {st : SocketState} {hd : Handle} (h : Chronicle talk st hd)

include h

theorem unbound (free : st.bound = false) : st.localAddress = none := by
  cases is : st.localAddress with
  | none => rfl
  | some a =>
    have bound := h.bound_of_local (by simp [is])
    rw [free] at bound
    cases bound

theorem unconnected (free : st.connected = false) : st.remoteAddress = none := by
  cases is : st.remoteAddress with
  | none => rfl
  | some a =>
    have connected := h.connected_of_remote (by simp [is])
    rw [free] at connected
    cases connected

theorem connected_of_bound (free : st.bound = false) : st.connected = false := by
  cases is : st.connected with
  | false => rfl
  | true =>
    rw [h.bound_of_connected is] at free
    cases free

theorem no_binding (free : st.bound = false) : talk.filterMap Entry.bound? = [] := by
  rw [h.bindings, h.unbound free]
  rfl

theorem no_connection (free : st.connected = false) :
    talk.filterMap Entry.connected? = [] := by
  rw [h.connections, h.unconnected free]
  rfl

theorem no_creation (free : st.created = false) {e : Entry} (mem : e ∈ talk) (fd : Descriptor) :
    e.created? ≠ some (.ok fd) := by
  intro made
  obtain ⟨failures, last, all, none⟩ := h.creations
  rw [none free] at all
  have told : .ok fd ∈ talk.filterMap Entry.created? := List.mem_filterMap.mpr ⟨e, mem, made⟩
  simp [all] at told

theorem precedes {e : Entry} {m : Method} (about : ∀ m', e.concerns m' = true → m' = m)
    (allowed : st.allows m = true) : ∀ e₀ ∈ talk, e₀.Precedes e := by
  have not (m' : Method) (settled : m = m' → False) : e.concerns m' = false := by
    cases is : e.concerns m' with
    | false => rfl
    | true => exact (settled (about m' is).symm).elim
  intro e₀ mem
  refine ⟨fun fd made => not _ ?_, fun bound => not _ ?_, fun connected => ⟨not _ ?_, not _ ?_⟩⟩
  · rintro rfl
    exact h.no_creation (by simpa [SocketState.allows] using allowed) mem fd made
  · rintro rfl
    have none := List.filterMap_eq_nil_iff.mp
      (h.no_binding (by simpa [SocketState.allows] using allowed)) e₀ mem
    simp [none] at bound
  · rintro rfl
    have free := h.connected_of_bound (by simpa [SocketState.allows] using allowed)
    have none := List.filterMap_eq_nil_iff.mp (h.no_connection free) e₀ mem
    simp [none] at connected
  · rintro rfl
    have none := List.filterMap_eq_nil_iff.mp
      (h.no_connection (by simpa [SocketState.allows] using allowed)) e₀ mem
    simp [none] at connected

theorem order_push {e : Entry} (after : ∀ e₀ ∈ talk, e₀.Precedes e) :
    (talk ++ [e]).Pairwise Entry.Precedes := by
  rw [List.pairwise_append]
  refine ⟨h.order, List.pairwise_singleton _ e, fun e₀ mem e' last => ?_⟩
  rw [List.mem_singleton.mp last]
  exact after e₀ mem

theorem push {e : Entry} (made : e.created? = none) (bound : e.bound? = none)
    (connected : e.connected? = none) (after : ∀ e₀ ∈ talk, e₀.Precedes e) :
    Chronicle (talk ++ [e]) st hd :=
  { h with
    bindings := (skip bound).trans h.bindings
    connections := (skip connected).trans h.connections
    creations := by
      rw [skip made]
      exact h.creations
    order := h.order_push after }

theorem request (caller : Option Endpoint) {r : Request} (allowed : st.allows r.method = true) :
    Chronicle (talk ++ [.request caller r]) st hd :=
  h.push rfl rfl rfl (h.precedes (by simp [Entry.concerns]) allowed)

theorem after_reply (caller : Option Endpoint) (r : Request) (answer : Except NativeError r.Reply)
    (allowed : st.allows r.method = true) : ∀ e ∈ talk, e.Precedes (.reply caller r answer) :=
  h.precedes (by simp [Entry.concerns]) allowed

theorem refused (caller : Option Endpoint) {r : Request} (allowed : st.allows r.method = true)
    (e : NativeError) :
    Chronicle (talk ++ [.reply caller r (.error e)]) st hd := by
  have after := h.after_reply caller r (.error e) allowed
  cases r with
  | create type protocol =>
    have free : st.created = false := by simpa [SocketState.allows, Request.method] using allowed
    obtain ⟨failures, made, all, unmade⟩ := h.creations
    rw [unmade free] at all
    have told : Entry.created? (.reply caller (.create type protocol) (.error e)) =
      some (.error e) := rfl
    exact { h with
      bindings := (skip rfl).trans h.bindings
      connections := by
        rw [List.filterMap_append]
        exact (List.append_nil _).trans h.connections
      creations := ⟨failures ++ [e], none, by simp [all, told], fun _ => rfl⟩
      order := h.order_push after }
  | _ => exact h.push rfl rfl rfl after

theorem answered (caller : Option Endpoint) {r : Request}
    (plain : r.method ≠ .create ∧ r.method ≠ .bind ∧ r.method ≠ .connect)
    (answer : Except NativeError r.Reply) :
    Chronicle (talk ++ [.reply caller r answer]) st hd := by
  have allowed : st.allows r.method = true := by
    cases r <;> first | rfl | simp [Request.method] at plain
  have after := h.after_reply caller r answer allowed
  cases r with
  | create type protocol => exact absurd rfl plain.1
  | bind fd address => exact absurd rfl plain.2.1
  | connect fd address => exact absurd rfl plain.2.2
  | _ => exact h.push rfl rfl rfl after

theorem created (caller : Option Endpoint) (type protocol : Int) (fd : Descriptor)
    (free : st.created = false) :
    Chronicle (talk ++ [.reply caller (.create type protocol) (.ok fd)])
      { st with created := true } (.owning fd) := by
  have allowed : st.allows .create = true := by simp [SocketState.allows, free]
  obtain ⟨failures, made, all, unmade⟩ := h.creations
  rw [unmade free] at all
  have told : Entry.created? (.reply caller (.create type protocol) (.ok fd)) = some (.ok fd) := rfl
  exact {
    bound_of_connected := h.bound_of_connected
    created_of_bound := fun _ => rfl
    bound_of_local := h.bound_of_local
    connected_of_remote := h.connected_of_remote
    bindings := (skip rfl).trans h.bindings
    connections := (skip rfl).trans h.connections
    creations := ⟨failures, some fd, by simp [all, told], nofun⟩
    bare := nofun
    order := h.order_push (h.after_reply caller (.create type protocol) (.ok fd) allowed) }

theorem bound (caller : Option Endpoint) (fd : Descriptor) (a : Address)
    (free : st.bound = false) (created : st.created = true) :
    Chronicle (talk ++ [.reply caller (.bind fd a) (.ok ())])
      { st with bound := true, localAddress := some a } hd := by
  have allowed : st.allows .bind = true := by simp [SocketState.allows, free]
  have told : Entry.bound? (.reply caller (.bind fd a) (.ok ())) = some a := rfl
  exact {
    bound_of_connected := fun _ => rfl
    created_of_bound := fun _ => created
    bound_of_local := fun _ => rfl
    connected_of_remote := h.connected_of_remote
    bindings := by simp [h.no_binding free, told]
    connections := (skip rfl).trans h.connections
    creations := by
      rw [skip rfl]
      exact h.creations
    bare := h.bare
    order := h.order_push (h.after_reply caller (.bind fd a) (.ok ()) allowed) }

theorem connected (caller : Option Endpoint) (fd : Descriptor) (a : Address)
    (free : st.connected = false) (created : st.created = true) :
    Chronicle (talk ++ [.reply caller (.connect fd a) (.ok ())])
      { st with connected := true, bound := true, remoteAddress := some a } hd := by
  have allowed : st.allows .connect = true := by simp [SocketState.allows, free]
  have told : Entry.connected? (.reply caller (.connect fd a) (.ok ())) = some a := rfl
  exact {
    bound_of_connected := fun _ => rfl
    created_of_bound := fun _ => created
    bound_of_local := fun _ => rfl
    connected_of_remote := fun _ => rfl
    bindings := (skip rfl).trans h.bindings
    connections := by simp [h.no_connection free, told]
    creations := by
      rw [skip rfl]
      exact h.creations
    bare := h.bare
    order := h.order_push (h.after_reply caller (.connect fd a) (.ok ()) allowed) }

theorem lost : Chronicle talk st {} := { h with bare := fun _ => rfl }

theorem closed : Chronicle talk { st with created := true } hd :=
  { h with
    created_of_bound := fun _ => rfl
    creations := by
      obtain ⟨failures, made, all, _⟩ := h.creations
      exact ⟨failures, made, all, nofun⟩
    bare := nofun }

end Chronicle

end ProcessorSockets
