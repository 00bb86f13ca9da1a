import ProcessorSockets.Proofs.Law.Link
import ProcessorSockets.Proofs.Law.Verb
import ProcessorSockets.Proofs.Run

/-! The account of descriptors.  Each descriptor that endpoints got from the transport is set
against those that they asked to close and those that they own.  Single steps shift the
surplus; whole operations leave it as it is, also when others create and close in the middle
of their requests. -/

namespace ProcessorSockets

variable {σ α : Type}

namespace Entry

def produces (fd : Descriptor) : Entry → Bool
  | .reply (some _) (.create _ _) (.ok made) => made = fd
  | .reply (some _) (.accept _) (.ok peer) => peer = fd
  | _ => false

def closes (fd : Descriptor) : Entry → Bool
  | .request (some _) (.close old) => old = fd
  | _ => false

theorem notes_of_isNote {e : Entry} (note : e.isNote = true) (fd : Descriptor) :
    e.produces fd = false ∧ e.closes fd = false := by
  cases e with
  | request caller r => cases note
  | reply caller r answer => cases note
  | _ => exact ⟨rfl, rfl⟩

/-- What an entry adds to what endpoints have to show for. -/
def worth (fd : Descriptor) (e : Entry) : Int :=
  (if e.produces fd then 1 else 0) - (if e.closes fd then 1 else 0)

end Entry

theorem Entry.worth_create (fd : Descriptor) (ep : Endpoint) (type protocol : Int)
    (answer : Except NativeError Descriptor) :
    (Entry.request (some ep) (.create type protocol)).worth fd +
        (Entry.reply (some ep) (.create type protocol) answer).worth fd =
      match answer with
      | .ok made => if made = fd then 1 else 0
      | .error _ => 0 := by
  cases answer <;> simp [worth, produces, closes]

theorem Entry.worth_accept (fd : Descriptor) (ep : Endpoint) (listener : Descriptor)
    (answer : Except NativeError Descriptor) :
    (Entry.request (some ep) (.accept listener)).worth fd +
        (Entry.reply (some ep) (.accept listener) answer).worth fd =
      match answer with
      | .ok peer => if peer = fd then 1 else 0
      | .error _ => 0 := by
  cases answer <;> simp [worth, produces, closes]

theorem Entry.worth_close (fd : Descriptor) (ep : Endpoint) (old : Descriptor)
    (answer : Except NativeError Unit) :
    (Entry.request (some ep) (.close old)).worth fd +
        (Entry.reply (some ep) (.close old) answer).worth fd =
      -(if old = fd then 1 else 0) := by
  cases answer <;> simp [worth, produces, closes]

theorem Entry.worth_other (fd : Descriptor) (caller : Option Endpoint) {r : Request}
    (answer : Except NativeError r.Reply) (other : caller = none ∨
      r.method ≠ .create ∧ r.method ≠ .accept ∧ r.method ≠ .close) :
    (Entry.request caller r).worth fd + (Entry.reply caller r answer).worth fd = 0 := by
  cases caller with
  | none => cases r <;> rfl
  | some ep =>
    cases r with
    | create type protocol => simp [Request.method] at other
    | accept listener => simp [Request.method] at other
    | close old => simp [Request.method] at other
    | _ => rfl

namespace Handle

def worth (fd : Descriptor) (h : Handle) : Int := if h = .owning fd then 1 else 0

@[simp] theorem worth_owning (fd mine : Descriptor) :
    (owning mine).worth fd = if mine = fd then 1 else 0 := by simp [worth, owning]

theorem worth_of_none {h : Handle} (without : h.fd = none) (fd : Descriptor) :
    h.worth fd = 0 := by
  apply if_neg
  rintro rfl
  cases without

@[simp] theorem worth_empty (fd : Descriptor) : ({} : Handle).worth fd = 0 :=
  worth_of_none rfl fd

theorem worth_of_unowned {h : Handle} (unowned : h.owned = false) (fd : Descriptor) :
    h.worth fd = 0 := by
  apply if_neg
  rintro rfl
  cases unowned

end Handle

namespace World

def produced (w : World σ) (fd : Descriptor) : Nat := w.log.countP (·.produces fd)

def closings (w : World σ) (fd : Descriptor) : Nat := w.log.countP (·.closes fd)

def owners (w : World σ) (fd : Descriptor) : Nat := w.endpoints.countP (·.handle = .owning fd)

/-- What was produced, and neither closed nor is owned. -/
def surplus (w : World σ) (fd : Descriptor) : Int := w.produced fd - w.closings fd - w.owners fd

def Known (w : World σ) : Prop :=
  ∀ e ∈ w.log, ∀ ep, e.caller? = some ep → ep.index < w.endpoints.length

variable (w : World σ)

theorem surplus_add (e : Entry) (fd : Descriptor) :
    (w.add [e]).surplus fd = w.surplus fd + e.worth fd := by
  simp only [surplus, produced, closings, log_add, List.countP_append, Entry.worth]
  change _ - (w.owners fd : Int) = _
  by_cases p : e.produces fd = true <;> by_cases c : e.closes fd = true <;> simp [p, c] <;> omega

theorem owners_setEndpoint {ep : Endpoint} (inside : ep.index < w.endpoints.length)
    (st : EndpointState) (fd : Descriptor) :
    ((w.setEndpoint ep st).owners fd : Int) =
      w.owners fd - (w.handle ep).worth fd + st.handle.worth fd := by
  have there : w.endpoints[ep.index].handle = w.handle ep := by
    simp [handle, endpoint, inside]
  simp only [owners, setEndpoint]
  rw [List.countP_set inside, there]
  by_cases was : w.handle ep = .owning fd
  · have counted : 0 < w.endpoints.countP (·.handle = .owning fd) :=
      List.countP_pos_iff.mpr ⟨_, List.getElem_mem inside, by simp [there, was]⟩
    by_cases now : st.handle = .owning fd <;> simp [Handle.worth, was, now] <;> omega
  · by_cases now : st.handle = .owning fd <;> simp [Handle.worth, was, now]

theorem surplus_setEndpoint {ep : Endpoint} (inside : ep.index < w.endpoints.length)
    (st : EndpointState) (fd : Descriptor) :
    (w.setEndpoint ep st).surplus fd =
      w.surplus fd + ((w.handle ep).worth fd - st.handle.worth fd) := by
  have owners := w.owners_setEndpoint inside st fd
  change ((w.produced fd : Int) - w.closings fd - (w.setEndpoint ep st).owners fd) = _
  rw [owners]
  simp only [surplus]
  omega

theorem surplus_congr (w' : World σ) (log : w'.log = w.log)
    (size : w'.endpoints.length = w.endpoints.length)
    (handles : ∀ ep, w'.handle ep = w.handle ep) (fd : Descriptor) :
    w'.surplus fd = w.surplus fd := by
  have same : w'.endpoints.map (·.handle) = w.endpoints.map (·.handle) := by
    apply List.ext_getElem (by simpa using size)
    intro i inside' inside
    rw [List.length_map] at inside inside'
    simpa [handle, endpoint, inside, inside'] using handles ⟨i⟩
  have owners : w'.owners fd = w.owners fd := by
    have counted := congrArg (List.countP (· = Handle.owning fd)) same
    rwa [List.countP_map, List.countP_map] at counted
  simp only [surplus, produced, closings, log, owners]

theorem surplus_setCreating (ep : Endpoint) (b : Bool) (fd : Descriptor) :
    (w.setCreating ep b).surplus fd = w.surplus fd :=
  surplus_congr w (w.setCreating ep b) rfl (length_endpoints_setCreating w ep b)
    (fun other => handle_setCreating w ep other b) fd

/-- A step that shifts the surplus.  It disposes only of some endpoints, and of none of which
somebody has the handle for himself. -/
structure Shift (disposes : Endpoint → Prop) (shift : Descriptor → Int) (w w' : World σ) :
    Prop where
  surplus : ∀ fd, w'.surplus fd = w.surplus fd + shift fd
  size : w.endpoints.length ≤ w'.endpoints.length
  creating : ∀ ep, (w'.endpoint ep).creating = (w.endpoint ep).creating
  handle : ∀ ep, (disposes ep → (w.endpoint ep).creating = true) → w'.handle ep = w.handle ep
  deeds : ∀ d' ∈ w'.disturbances, ∃ d ∈ w.disturbances, d'.deed = d.deed
  known : w.Known → w'.Known

namespace Shift

variable {disposes : Endpoint → Prop} {shift more : Descriptor → Int} {w w' w'' : World σ}

theorem refl (w : World σ) : Shift disposes (fun _ => 0) w w where
  surplus _ := by omega
  size := Nat.le_refl _
  creating _ := rfl
  handle _ _ := rfl
  deeds d h := ⟨d, h, rfl⟩
  known h := h

theorem trans (first : Shift disposes shift w w') (second : Shift disposes more w' w'') :
    Shift disposes (fun fd => shift fd + more fd) w w'' where
  surplus fd := by rw [second.surplus, first.surplus]; omega
  size := Nat.le_trans first.size second.size
  creating ep := (second.creating ep).trans (first.creating ep)
  handle ep free := by
    rw [second.handle ep fun d => (first.creating ep).trans (free d), first.handle ep free]
  deeds d'' h := by
    obtain ⟨d', h', same'⟩ := second.deeds d'' h
    obtain ⟨d, h, same⟩ := first.deeds d' h'
    exact ⟨d, h, same'.trans same⟩
  known h := second.known (first.known h)

theorem quiet (h : Shift disposes shift w w') (quiet : w.disturbances = []) :
    w'.disturbances = [] := by
  refine List.eq_nil_iff_forall_not_mem.mpr fun d mem => ?_
  obtain ⟨d₀, mem₀, _⟩ := h.deeds d mem
  simp [quiet] at mem₀

theorem totals (h : Shift disposes shift w w') (total : ∀ fd, shift fd = more fd) :
    Shift disposes more w w' := by
  rwa [← funext total]

theorem entry (e : Entry) (caller : ∀ ep, e.caller? = some ep → ep.index < w.endpoints.length) :
    Shift disposes (e.worth ·) w (w.add [e]) where
  surplus := w.surplus_add e
  size := Nat.le_refl _
  creating _ := rfl
  handle _ _ := rfl
  deeds d h := ⟨d, h, rfl⟩
  known h := by
    intro e' mem ep calls
    cases List.mem_append.mp mem with
    | inl old => exact h e' old ep calls
    | inr new => exact caller ep (List.mem_singleton.mp new ▸ calls)

theorem notes (w : World σ) {es : List Entry} (notes : ∀ e ∈ es, e.isNote = true) :
    Shift disposes (fun _ => 0) w (w.add es) := by
  induction es generalizing w with
  | nil =>
    rw [World.add_nil]
    exact refl w
  | cons e es ih =>
    have silent := Entry.notes_of_isNote (notes e (by simp))
    have first : Shift disposes (e.worth ·) w (w.add [e]) :=
      entry e fun ep calls => by
        rw [Entry.caller?_of_isNote (notes e (by simp))] at calls
        cases calls
    have rest := ih (w.add [e]) fun e' h => notes e' (by simp [h])
    have same : w.add (e :: es) = (w.add [e]).add es := by simp [World.add]
    rw [same]
    apply (first.trans rest).totals
    intro fd
    simp [Entry.worth, (silent fd).1, (silent fd).2]

theorem noted {w w' : World σ} (noted : w.Noted w') : Shift disposes (fun _ => 0) w w' := by
  obtain ⟨es, silent, rfl⟩ := noted
  exact notes w silent

theorem transport (w : World σ) (t : σ) :
    Shift disposes (fun _ => 0) w { w with transport := t } where
  surplus fd := by change w.surplus fd = _; omega
  size := Nat.le_refl _
  creating _ := rfl
  handle _ _ := rfl
  deeds d h := ⟨d, h, rfl⟩
  known h := h

theorem setEndpoint {ep : Endpoint} {st : EndpointState} {n : Nat}
    (handle : st.handle = w.handle ep) (creating : st.creating = (w.endpoint ep).creating) :
    Shift disposes (fun _ => 0) w { w.setEndpoint ep st with nextStream := n } := by
  have handles (other : Endpoint) : (w.setEndpoint ep st).handle other = w.handle other := by
    simp only [World.handle, endpoint_setEndpoint]
    split
    · rename_i same
      rw [same.1]
      exact handle
    · rfl
  constructor
  · intro fd
    rw [Int.add_zero]
    exact surplus_congr w (w.setEndpoint ep st) rfl
      (length_endpoints_setEndpoint w ep st) handles fd
  · exact Nat.le_of_eq (length_endpoints_setEndpoint w ep st).symm
  · intro other
    change ((w.setEndpoint ep st).endpoint other).creating = _
    rw [endpoint_setEndpoint]
    split
    · rename_i same
      rw [same.1]
      exact creating
    · rfl
  · exact fun other _ => handles other
  · exact fun d mem => ⟨d, mem, rfl⟩
  · intro known e mem other calls
    change _ < (w.setEndpoint ep st).endpoints.length
    rw [length_endpoints_setEndpoint]
    exact known e mem other calls

theorem make {h : Handle} (unowned : h.owned = false)
    (new : disposes ⟨w.endpoints.length⟩) :
    Shift disposes (fun _ => 0) w (Endpoint.make h w).2 := by
  have there (ep : Endpoint) (old : ep ≠ ⟨w.endpoints.length⟩) :
      (Endpoint.make h w).2.endpoint ep = w.endpoint ep := by
    rw [World.endpoint_make, if_neg old]
  constructor
  · intro fd
    have differ : h ≠ .owning fd := by
      rintro rfl
      cases unowned
    have owners : (Endpoint.make h w).2.owners fd = w.owners fd := by
      simp [Endpoint.make, owners, differ]
    change (w.produced fd : Int) - w.closings fd - (Endpoint.make h w).2.owners fd = _
    rw [owners, Int.add_zero]
    rfl
  · simp [Endpoint.make]
  · intro ep
    by_cases fresh : ep = ⟨w.endpoints.length⟩
    · subst fresh
      simp [Endpoint.make, World.endpoint]
    · rw [there ep fresh]
  · intro ep free
    have old : ep ≠ ⟨w.endpoints.length⟩ := by
      rintro rfl
      have := free new
      simp [World.endpoint] at this
    rw [World.handle, there ep old]
    rfl
  · exact fun d mem => ⟨d, mem, rfl⟩
  · intro known e mem ep calls
    have := known e mem ep calls
    simp only [Endpoint.make, List.length_append]
    omega

theorem setHandle {ep : Endpoint} (inside : ep.index < w.endpoints.length)
    (mine : disposes ep) (idle : (w.endpoint ep).creating = false) (h : Handle) :
    Shift disposes (fun fd => (w.handle ep).worth fd - h.worth fd) w (w.setHandle ep h) where
  surplus fd := by rw [World.setHandle, surplus_setEndpoint w inside]
  size := by simp [World.setHandle]
  creating := by simp
  handle other free := by
    apply handle_setHandle_of_ne
    rintro rfl
    rw [free mine] at idle
    cases idle
  deeds d h := ⟨d, h, rfl⟩
  known known e mem ep calls := by
    have := known e mem ep calls
    simpa [World.setHandle] using this

theorem exclusively {ep : Endpoint} {step : StateM (World σ) α}
    (inside : ep.index < w.endpoints.length) (idle : (w.endpoint ep).creating = false)
    (during : Shift disposes shift (w.setCreating ep true) (step (w.setCreating ep true)).2) :
    Shift disposes shift w (ep.exclusively step w).2 ∧
      (ep.exclusively step w).2.handle ep = w.handle ep := by
  have closed (other : Endpoint) (free : disposes other → (w.endpoint other).creating = true) :
      disposes other → ((w.setCreating ep true).endpoint other).creating = true := by
    intro mine
    rw [creating_setCreating]
    split
    · rfl
    · exact free mine
  rw [Endpoint.run_exclusively]
  constructor
  · constructor
    · intro fd
      rw [surplus_setCreating, during.surplus, surplus_setCreating]
    · have size := during.size
      rwa [length_endpoints_setCreating] at size ⊢
    · intro other
      have size := during.size
      rw [length_endpoints_setCreating] at size
      rw [creating_setCreating]
      split
      · rename_i same
        rw [same.1, idle]
      · rename_i differ
        have other : ¬(other = ep ∧ ep.index < w.endpoints.length) :=
          fun same => differ ⟨same.1, Nat.lt_of_lt_of_le same.2 size⟩
        rw [during.creating, creating_setCreating, if_neg other]
    · intro other free
      rw [handle_setCreating, during.handle other (closed other free), handle_setCreating]
    · exact during.deeds
    · intro known e mem other calls
      have known' : (w.setCreating ep true).Known := by
        intro e mem other calls
        rw [length_endpoints_setCreating]
        exact known e mem other calls
      rw [length_endpoints_setCreating]
      exact during.known known' e mem other calls
  · rw [handle_setCreating, during.handle ep, handle_setCreating]
    intro _
    rw [creating_setCreating, if_pos ⟨rfl, inside⟩]

end Shift

end World

end ProcessorSockets
