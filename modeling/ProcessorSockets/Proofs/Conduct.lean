import ProcessorSockets.Proofs.Law.Link

/-! Calls.  Where nobody acts in the middle of requests, each request is followed by its answer,
and a step is told by the calls that it makes: which descriptors they are about, and for which
failure among them it comes to an end. -/

namespace ProcessorSockets

variable {σ α β : Type}

structure Call where
  request : Request
  answer : Except NativeError request.Reply

namespace Call

def entries (caller : Option Endpoint) (c : Call) : List Entry :=
  [.request caller c.request, .reply caller c.request c.answer]

def error? (c : Call) : Option NativeError :=
  match c.answer with
  | .ok _ => none
  | .error e => some e

def created? : Call → Option Descriptor
  | ⟨.create _ _, .ok fd⟩ => some fd
  | _ => none

def accepted? : Call → Option Descriptor
  | ⟨.accept _, .ok fd⟩ => some fd
  | _ => none

/-- Whether a failed call is of no account with another after it: an interrupted transfer that
is made again, and the shutdown that only prepares for a close. -/
def passes (c next : Call) : Bool :=
  match c.request with
  | .read _ _ => c.error?.any (·.isInterrupted) && next.request = c.request
  | .write _ _ => c.error?.any (·.isInterrupted) && next.request = c.request
  | .shutdown fd .both => next.request = .close fd
  | _ => false

def failure? : List Call → Option NativeError
  | [] => none
  | c :: rest =>
    match c.error? with
    | none => failure? rest
    | some e => if rest.head?.any c.passes then failure? rest else some e

def end? : Call → Option NativeError
  | ⟨.read _ _, .ok []⟩ => some (.described .unexpectedEof "peer closed the stream")
  | ⟨.write _ _, .ok 0⟩ => some (.bare .writeZero)
  | _ => none

/-- What there is to report of calls that came to nothing. -/
def source (calls : List Call) : Option NativeError :=
  (failure? calls).or (calls.getLast?.bind end?)

def Clean (calls : List Call) : Prop := ∀ rest, failure? (calls ++ rest) = failure? rest

/-- Calls that keep to known descriptors, and to those that they create on the way. -/
def Confined (known : List Descriptor) : List Call → Prop
  | [] => True
  | c :: rest => (∀ fd, c.request.descriptor? = some fd → fd ∈ known) ∧
      Confined (c.created?.toList ++ known) rest

/-- How a step that was begun ends: well, or with the failure of one of its calls. -/
def Settles (calls : List Call) : Except SocketError α → Prop
  | .ok _ => Clean calls
  | .error e => ∃ operation src, e = .native operation src ∧ source calls = some src

theorem Clean.nil : Clean [] := fun _ => rfl

theorem Clean.ok {c : Call} (done : c.error? = none) : Clean [c] := by
  intro rest
  simp [failure?, done]

theorem Clean.append {calls more : List Call} (first : Clean calls) (second : Clean more) :
    Clean (calls ++ more) := by
  intro rest
  rw [List.append_assoc, first, second]

theorem Clean.passing {c next : Call} {rest : List Call} (passes : c.passes next = true)
    (clean : Clean (next :: rest)) : Clean (c :: next :: rest) := by
  intro more
  rw [List.cons_append, failure?]
  cases c.error? with
  | none => exact clean more
  | some e =>
    simp only [List.cons_append, List.head?_cons, Option.any_some, passes, if_true]
    exact clean more

theorem failure?_passing {c next : Call} {rest : List Call} (passes : c.passes next = true) :
    failure? (c :: next :: rest) = failure? (next :: rest) := by
  rw [failure?]
  cases c.error? with
  | none => rfl
  | some e => simp only [List.head?_cons, Option.any_some, passes, if_true]

theorem failure?_firm (rest : List Call) {calls : List Call} {c : Call} {e : NativeError}
    (clean : Clean calls) (failed : c.error? = some e) (firm : ∀ next, c.passes next = false) :
    failure? (calls ++ c :: rest) = some e := by
  rw [clean, failure?, failed]
  cases rest <;> simp [firm]

theorem source_of_failure? {calls : List Call} {e : NativeError} (h : failure? calls = some e) :
    source calls = some e := by
  rw [source, h]
  rfl

theorem source_append {calls more : List Call} {e : NativeError} (clean : Clean calls)
    (reports : source more = some e) : source (calls ++ more) = some e := by
  cases more with
  | nil => cases reports
  | cons c rest =>
    rw [source, List.getLast?_append, clean, List.getLast?_cons, Option.some_or,
      ← List.getLast?_cons]
    exact reports

theorem Settles.append {calls more : List Call} {r : Except SocketError α} (clean : Clean calls)
    (settles : Settles more r) : Settles (calls ++ more) r := by
  cases r with
  | ok _ => exact clean.append settles
  | error e =>
    obtain ⟨operation, src, native, reports⟩ := settles
    exact ⟨operation, src, native, source_append clean reports⟩

theorem Settles.last {c : Call} {operation : String} {e : NativeError}
    (failed : c.error? = some e) :
    Settles (α := α) [c] (.error (.native operation e)) := by
  refine ⟨operation, e, rfl, source_of_failure? ?_⟩
  simp [failure?, failed]

theorem Settles.passing {c next : Call} {rest : List Call} {r : Except SocketError α}
    (passes : c.passes next = true) (settles : Settles (next :: rest) r) :
    Settles (c :: next :: rest) r := by
  cases r with
  | ok _ => exact Clean.passing passes settles
  | error e =>
    obtain ⟨operation, src, native, reports⟩ := settles
    refine ⟨operation, src, native, ?_⟩
    rw [source, failure?_passing passes, List.getLast?_cons_cons]
    exact reports

namespace Confined

variable {known : List Descriptor} {calls : List Call}

theorem mono {more : List Descriptor} (h : Confined known calls) (all : known ⊆ more) :
    Confined more calls := by
  induction calls generalizing known more with
  | nil => trivial
  | cons c rest ih =>
    exact ⟨fun fd about => all (h.1 fd about),
      ih h.2 (List.append_subset.mpr ⟨List.subset_append_left _ _,
        List.Subset.trans all (List.subset_append_right _ _)⟩)⟩

theorem append {more : List Call} (first : Confined known calls)
    (second : Confined (calls.filterMap created? ++ known) more) :
    Confined known (calls ++ more) := by
  induction calls generalizing known with
  | nil => exact second
  | cons c rest ih =>
    refine ⟨first.1, ih first.2 (second.mono ?_)⟩
    intro fd mem
    cases made : c.created? with
    | none => simpa [made] using mem
    | some fd' => grind

theorem about {fd : Descriptor} (mem : fd ∈ known)
    (all : ∀ c ∈ calls, c.request.descriptor? = some fd) : Confined known calls := by
  induction calls generalizing known with
  | nil => trivial
  | cons c rest ih =>
    refine ⟨fun fd' is => ?_, ih (List.mem_append_right _ mem) fun c' h => all c' (by simp [h])⟩
    rw [all c (by simp)] at is
    exact Option.some.inj is ▸ mem

theorem split {before after : List Call} {c : Call} (h : Confined known (before ++ c :: after))
    {fd : Descriptor} (about : c.request.descriptor? = some fd) :
    fd ∈ known ∨ ∃ made ∈ before, made.created? = some fd := by
  induction before generalizing known with
  | nil => exact .inl (h.1 fd about)
  | cons first rest ih =>
    obtain old | ⟨made, mem, gives⟩ := ih h.2
    · cases List.mem_append.mp old with
      | inl created => exact .inr ⟨first, by simp, by simpa using created⟩
      | inr known => exact .inl known
    · exact .inr ⟨made, List.mem_cons_of_mem _ mem, gives⟩

end Confined

end Call

namespace World

def said (w : World σ) : List Entry := w.log.filter (!·.isNote)

def news (w w' : World σ) : List Entry := w'.said.drop w.said.length

theorem news_of_said {w w' : World σ} {es : List Entry} (said : w'.said = w.said ++ es) :
    w.news w' = es := by
  rw [news, said, List.drop_left]

theorem Noted.socket {w w' : World σ} (noted : w.Noted w') (s : Socket) :
    w'.socket s = w.socket s := by
  obtain ⟨_, _, rfl⟩ := noted
  rfl

theorem Noted.quiet {w w' : World σ} (noted : w.Noted w') (quiet : w.disturbances = []) :
    w'.disturbances = [] := by
  obtain ⟨_, _, rfl⟩ := noted
  exact quiet

/-- Nothing happened but that calls were made. -/
structure Called (caller : Option Endpoint) (calls : List Call) (w w' : World σ) : Prop where
  said : w'.said = w.said ++ calls.flatMap (·.entries caller)
  handle : ∀ ep, w'.handle ep = w.handle ep
  size : w'.endpoints.length = w.endpoints.length
  sockets : w'.sockets = w.sockets
  disturbances : w'.disturbances = w.disturbances

theorem said_add (w : World σ) (es : List Entry) :
    (w.add es).said = w.said ++ es.filter (!·.isNote) := List.filter_append ..

theorem said_notes (w : World σ) {es : List Entry} (notes : ∀ e ∈ es, e.isNote = true) :
    (w.add es).said = w.said := by
  rw [said_add, List.filter_eq_nil_iff.mpr (by simpa using notes), List.append_nil]

namespace Called

variable {caller : Option Endpoint} {calls more : List Call} {w w' w'' : World σ}

theorem refl (w : World σ) : w.Called caller [] w where
  said := (List.append_nil _).symm
  handle _ := rfl
  size := rfl
  sockets := rfl
  disturbances := rfl

theorem trans (first : w.Called caller calls w') (second : w'.Called caller more w'') :
    w.Called caller (calls ++ more) w'' where
  said := by rw [second.said, first.said, List.flatMap_append, List.append_assoc]
  handle ep := (second.handle ep).trans (first.handle ep)
  size := second.size.trans first.size
  sockets := second.sockets.trans first.sockets
  disturbances := second.disturbances.trans first.disturbances

theorem notes (w : World σ) {es : List Entry} (notes : ∀ e ∈ es, e.isNote = true) :
    w.Called caller [] (w.add es) :=
  { (refl w : w.Called caller [] w) with
    said := (said_notes w notes).trans (List.append_nil _).symm }

theorem noted (noted : w.Noted w') : w.Called caller [] w' := by
  obtain ⟨es, all, rfl⟩ := noted
  exact notes w all

theorem after (called : w.Called caller calls w') (noted : w'.Noted w'') :
    w.Called caller calls w'' := by
  have all := called.trans (.noted noted)
  rwa [List.append_nil] at all

theorem before (noted : w.Noted w') (called : w'.Called caller calls w'') :
    w.Called caller calls w'' := (Called.noted noted).trans called

theorem quiet (called : w.Called caller calls w') (quiet : w.disturbances = []) :
    w'.disturbances = [] := called.disturbances.trans quiet

theorem setEndpoint {ep : Endpoint} {st : EndpointState} {n : Nat}
    (same : st.handle = w.handle ep) :
    w.Called caller [] { w.setEndpoint ep st with nextStream := n } :=
  { refl w with
    handle := fun other => by
      change ((w.setEndpoint ep st).endpoint other).handle = _
      rw [endpoint_setEndpoint]
      split
      case isTrue is => rw [is.1, same]
      case isFalse => rfl
    size := length_endpoints_setEndpoint w ep st }

theorem setCreating (w : World σ) (ep : Endpoint) (creating : Bool) :
    w.Called caller [] (w.setCreating ep creating) := by
  have same : ({ w.endpoint ep with creating } : EndpointState).handle = w.handle ep := rfl
  have called : w.Called caller [] { w.setCreating ep creating with nextStream := w.nextStream } :=
    setEndpoint same
  exact called

theorem exclusively {ep : Endpoint} {step : StateM (World σ) α}
    (called : (w.setCreating ep true).Called caller calls (step (w.setCreating ep true)).2) :
    w.Called caller calls (ep.exclusively step w).2 := by
  have all := ((setCreating w ep true).trans called).trans (setCreating _ ep false)
  rwa [List.nil_append, List.append_nil] at all

end Called

end World

/-- A link on which a request is followed by its answer, if nobody means to disturb it. -/
def Link.Straight (L : Link σ) : Prop := ∀ caller r (w : World σ), w.disturbances = [] →
  w.Called caller [⟨r, (L.send caller r w).1⟩] (L.send caller r w).2

namespace Link

open World (Called)

variable {T : Transport σ}

theorem called_respond (caller : Option Endpoint) (r : Request) (w : World σ) :
    w.Called caller [⟨r, (T.respond caller r (w.add [.request caller r])).1⟩]
      (T.respond caller r (w.add [.request caller r])).2 where
  said := by
    rw [T.run_respond, World.said_add, World.said_notes _ (by simp)]
    change (w.add [.request caller r]).said ++ _ = _
    rw [World.said_add, List.append_assoc]
    rfl
  handle _ := by rw [T.run_respond]; rfl
  size := by rw [T.run_respond]; rfl
  sockets := by rw [T.run_respond]; rfl
  disturbances := by rw [T.run_respond]; rfl

theorem straight_direct (T : Transport σ) : (Link.direct T).Straight :=
  fun caller r w _ => called_respond caller r w

theorem straight_disturbed (T : Transport σ) : (Link.disturbed T).Straight := by
  intro caller r w quiet
  rw [run_disturbed, World.interrupt_quiet T _ (w := w.add [.request caller r]) quiet]
  exact called_respond caller r w

end Link

end ProcessorSockets
