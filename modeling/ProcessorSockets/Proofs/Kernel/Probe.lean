import ProcessorSockets.Proofs.Kernel.Names

namespace ProcessorSockets.UnixDomain

open FileTree (Path Node Tree)

/-- A stream socket to which no connection can be made. -/
def Sock.Refuses (k : Sock) : Prop := k.style = .stream ∧ (k.backlog = none ∨ k.readShut = true)

instance (k : Sock) : Decidable k.Refuses := inferInstanceAs (Decidable (_ ∧ _))

namespace Call

variable {α β : Type}

def Succeeds (c : Call α) : Prop := ∀ s, ∃ a, (c s).1 = .ok a

namespace Succeeds

theorem done (a : α) : Succeeds (pure a : Call α) := fun _ => ⟨a, rfl⟩

theorem sock (id : Nat) : Succeeds (UnixDomain.sock id) := fun _ => ⟨_, rfl⟩

theorem update (id : Nat) (f : Sock → Sock) : Succeeds (UnixDomain.update id f) := fun _ => ⟨_, rfl⟩

theorem andThen {c : Call α} {f : α → Call β} (first : Succeeds c) (next : ∀ a, Succeeds (f a)) :
    Succeeds (c >>= f) := by
  intro s
  obtain ⟨a, gives⟩ := first s
  have run : c s = (.ok a, (c s).2) := Prod.ext gives rfl
  rw [run_bind_ok run]
  exact next a _

theorem each {ids : List Nat} {body : Nat → Call Unit} (all : ∀ id, Succeeds (body id)) :
    Succeeds (forIn ids PUnit.unit fun id _ => do
      body id
      pure (ForInStep.yield PUnit.unit)) := by
  induction ids with
  | nil => exact .done _
  | cons id rest ih =>
    rw [List.forIn_cons]
    apply andThen
    · exact .andThen (all id) fun _ => .done _
    · intro step
      cases step with
      | done _ => exact .done _
      | yield _ => exact ih

theorem hangUp (id : Nat) (lost : Bool) : Succeeds (UnixDomain.hangUp id lost) := by
  unfold UnixDomain.hangUp
  refine .andThen (.sock id) fun k => .andThen (.update id _) fun _ => ?_
  cases k.peer with
  | none => exact .done ()
  | some far =>
    change Succeeds (if k.style.paired then _ else _)
    split
    · exact .update far _
    · exact .done ()

theorem closeSocket (id : Nat) : Succeeds (UnixDomain.closeSocket id) :=
  .andThen (.sock id) fun _ => .andThen (.hangUp id false) fun _ =>
    .andThen (.each fun id => .hangUp id true) fun _ => .done ()

end Succeeds

end Call

namespace State

variable {held : List (Descriptor × String)} {s : State} {id : Nat}

def withProbe (s : State) : State := { s with sockets := s.sockets ++ [{ style := .stream }] }

theorem run_probe (path : String) (s : State) :
    UnixDomain.probe path s =
      ((connectTo s.sockets.length (bytesOf path) s.withProbe).1,
        (closeSocket s.sockets.length
          (connectTo s.sockets.length (bytesOf path) s.withProbe).2).2) := by
  have made : newSocket { style := .stream } s = (.ok s.sockets.length, s.withProbe) := rfl
  unfold UnixDomain.probe
  rw [Call.run_bind_ok made]
  generalize connectTo s.sockets.length (bytesOf path) = dial
  have tried : (ExceptT.lift dial.run : Call (Except Int Unit)) s.withProbe =
      (.ok (dial s.withProbe).1, (dial s.withProbe).2) := rfl
  rw [Call.run_bind_ok tried]
  obtain ⟨_, gives⟩ := Call.Succeeds.closeSocket s.sockets.length (dial s.withProbe).2
  have closed : closeSocket s.sockets.length (dial s.withProbe).2 = (.ok (), _) :=
    Prod.ext gives rfl
  rw [Call.run_bind_ok closed]
  rfl

theorem Serves.probe (h : s.Serves held) (path : String) :
    (UnixDomain.probe path s).2.Serves held := by
  have begun : s.withProbe.Spares held [s.sockets.length] :=
    ⟨h.newSocket rfl, fun id mem => List.mem_singleton.mp mem ▸ h.free rfl⟩
  have tried := indifferent_spares.connectTo s.sockets.length (bytesOf path) _ begun
  rw [run_probe]
  exact tried.serves.closeSocket (tried.free _ (List.mem_singleton.mpr rfl))

section

variable {path : List UInt8} {end_ : Path} {far : Nat}
  (leads : s.tree.get path = .ok (end_, .socket (some far))) (alive : (s.sock far).closed = false)

include leads alive

theorem run_target (style : Style) : target style path s =
    if (s.sock far).style ≠ style then (.error Errno.wrongType, s) else (.ok far, s) := by
  have run : (get : Call State) s = (.ok s, s) := rfl
  unfold target
  rw [Call.run_bind_ok run, leads]
  change (if (s.sock far).closed then _ else _ : Call Nat) s = _
  rw [alive, if_neg Bool.false_ne_true]
  split <;> rfl

theorem run_connectTo_refused (stream : (s.sock id).style = .stream)
    (refuses : (s.sock far).Refuses) :
    connectTo id path s = (.error Errno.connectionRefused, s) := by
  have known (i : Nat) : UnixDomain.sock i s = (.ok (s.sock i), s) := rfl
  unfold connectTo
  rw [Call.run_bind_ok (known id)]
  change (target (s.sock id).style path >>= _) s = _
  have found := run_target leads alive (s.sock id).style
  rw [stream, refuses.1, if_neg (by simp)] at found
  rw [stream, Call.run_bind_ok found]
  change connectPaired id far s = _
  unfold connectPaired
  rw [Call.run_bind_ok (known far)]
  cases waits : (s.sock far).backlog with
  | none => rfl
  | some backlog =>
    obtain none | shut := refuses.2
    · rw [waits] at none
      cases none
    · change (if (s.sock far).readShut then _ else _ : Call Unit) s = _
      rw [shut]
      rfl

theorem connectTo_error (stream : (s.sock id).style = .stream)
    (new : (s.sock id).established = false ∧ (s.sock id).backlog = none)
    (welcomes : ¬(s.sock far).Refuses) {code : Int}
    (fails : (connectTo id path s).1 = .error code) :
    code = Errno.wrongType ∨ code = Errno.again := by
  have known (i : Nat) : UnixDomain.sock i s = (.ok (s.sock i), s) := rfl
  unfold connectTo at fails
  rw [Call.run_bind_ok (known id)] at fails
  change ((target (s.sock id).style path >>= _) s).1 = _ at fails
  have found := run_target leads alive (s.sock id).style
  rw [stream] at found fails
  by_cases other : (s.sock far).style ≠ .stream
  · rw [if_pos other] at found
    rw [Call.run_bind_error found] at fails
    exact .inl (Except.error.inj fails).symm
  · rw [if_neg other] at found
    rw [Call.run_bind_ok found] at fails
    change (connectPaired id far s).1 = _ at fails
    unfold connectPaired at fails
    rw [Call.run_bind_ok (known far)] at fails
    have same : (s.sock far).style = .stream := by simpa using other
    cases waits : (s.sock far).backlog with
    | none => exact absurd ⟨same, .inl waits⟩ welcomes
    | some backlog =>
      rw [waits] at fails
      change ((if (s.sock far).readShut then _ else _ : Call Unit) s).1 = _ at fails
      cases shut : (s.sock far).readShut with
      | true => exact absurd ⟨same, .inr shut⟩ welcomes
      | false =>
        rw [shut] at fails
        change
          ((if backlog < (s.sock far).waiting.length then _ else _ : Call Unit) s).1 = _ at fails
        split at fails
        · exact .inr (Except.error.inj fails).symm
        · change ((UnixDomain.sock id >>= _) s).1 = _ at fails
          rw [Call.run_bind_ok (known id)] at fails
          dsimp only at fails
          rw [new.1, new.2] at fails
          cases fails

end

theorem sock_withProbe (s : State) (id : Nat) :
    s.withProbe.sock id = if id = s.sockets.length then { style := .stream } else s.sock id :=
  sock_new ..

theorem run_closeSocket_withProbe (s : State) :
    (closeSocket s.sockets.length s.withProbe).2 =
      s.withProbe.setSock s.sockets.length { style := .stream, closed := true } := by
  have here : s.withProbe.sock s.sockets.length = { style := .stream } := by
    rw [sock_withProbe, if_pos rfl]
  have known : UnixDomain.sock s.sockets.length s.withProbe =
    (.ok { style := .stream }, s.withProbe) :=
    congrArg (fun k => (Except.ok k, s.withProbe)) here
  have closed : hangUp s.sockets.length false s.withProbe =
      (.ok (), s.withProbe.setSock s.sockets.length { style := .stream, closed := true }) := by
    unfold hangUp
    rw [Call.run_bind_ok known]
    change (Except.ok (), s.withProbe.setSock s.sockets.length _) = _
    rw [here]
  unfold closeSocket
  rw [Call.run_bind_ok known]
  change ((hangUp s.sockets.length false >>= _) s.withProbe).2 = _
  rw [Call.run_bind_ok closed]
  rfl

section

variable {path : String} {end_ : Path} {far : Nat}
  (leads : s.tree.get (bytesOf path) = .ok (end_, .socket (some far)))
  (alive : (s.sock far).closed = false) (inside : far < s.sockets.length)

include leads alive inside

/-- Probes tell a socket that refuses. -/
theorem refuses_of_probe {code : Int} (fails : (UnixDomain.probe path s).1 = .error code)
    (refused : Errno.kind code = .connectionRefused) : (s.sock far).Refuses := by
  have old : s.withProbe.sock far = s.sock far := by
    rw [sock_withProbe, if_neg (Nat.ne_of_lt inside)]
  have new : s.withProbe.sock s.sockets.length = { style := .stream } := by
    rw [sock_withProbe, if_pos rfl]
  by_contra welcomes
  rw [run_probe] at fails
  rw [← old] at alive welcomes
  have known := connectTo_error (s := s.withProbe) leads alive (by rw [new]) (by rw [new]; simp)
    welcomes fails
  cases known with
  | inl other =>
    subst other
    exact absurd refused (by decide)
  | inr full =>
    subst full
    exact absurd refused (by decide)

theorem probe_refused (refuses : (s.sock far).Refuses) :
    (UnixDomain.probe path s).1 = .error Errno.connectionRefused := by
  have old : s.withProbe.sock far = s.sock far := by
    rw [sock_withProbe, if_neg (Nat.ne_of_lt inside)]
  have new : (s.withProbe.sock s.sockets.length).style = .stream := by
    rw [sock_withProbe, if_pos rfl]
  rw [← old] at alive refuses
  have leads : s.withProbe.tree.get (bytesOf path) = .ok (end_, .socket (some far)) := leads
  rw [run_probe, run_connectTo_refused leads alive new refuses]

end

structure Probed (s : State) (path : List UInt8) (r : Except Int Unit × State) : Prop where
  tree : r.2.tree = s.tree
  descriptors : r.2.descriptors = s.descriptors
  more : s.sockets.length ≤ r.2.sockets.length
  sock : ∀ i, i < s.sockets.length → r.2.sock i = s.sock i ∨
    r.1 = .ok () ∧ (s.sock i).closed = false ∧ ¬(s.sock i).Refuses ∧
      (∃ end_, s.tree.get path = .ok (end_, .socket (some i))) ∧
      ∃ far, s.sockets.length ≤ far ∧ (r.2.sock far).writeShut = true ∧
        r.2.sock i = { s.sock i with waiting := (s.sock i).waiting ++ [far] }

inductive Dial (s : State) (path : List UInt8) : Except Int Unit × State → Prop
  | refused (code : Int) : Dial s path (.error code, s.withProbe)
  | made {far : Nat} {end_ : Path} {s' : State}
      (leads : s.tree.get path = .ok (end_, .socket (some far)))
      (inside : far < s.sockets.length) (alive : (s.sock far).closed = false)
      (welcomes : ¬(s.sock far).Refuses)
      (tree : s'.tree = s.tree) (descriptors : s'.descriptors = s.descriptors)
      (more : s'.sockets.length = s.sockets.length + 2)
      (near : s'.sock s.sockets.length =
        { style := .stream, established := true, peer := some (s.sockets.length + 1) })
      (listener : s'.sock far =
        { s.sock far with waiting := (s.sock far).waiting ++ [s.sockets.length + 1] })
      (others : ∀ i, i < s.sockets.length → i ≠ far → s'.sock i = s.sock i) :
      Dial s path (.ok (), s')

theorem run_target_nobody {path : List UInt8} {s : State} {end_ : Path} {node : Node}
    (led : s.tree.get path = .ok (end_, node))
    (nobody : ∀ id, node = .socket (some id) → (s.sock id).closed = true) (style : Style) :
    target style path s = (.error Errno.connectionRefused, s) := by
  have run : (get : Call State) s = (.ok s, s) := rfl
  unfold target
  rw [Call.run_bind_ok run, led]
  cases node with
  | socket bound =>
    cases bound with
    | some id =>
      change (if (s.sock id).closed then _ else _ : Call Nat) s = _
      rw [nobody id rfl]
      rfl
    | none => rfl
  | directory => rfl
  | file => rfl

theorem run_target_error {path : List UInt8} {s : State} {code : Int}
    (fails : s.tree.get path = .error code) (style : Style) :
    target style path s = (.error code, s) := by
  have run : (get : Call State) s = (.ok s, s) := rfl
  unfold target
  rw [Call.run_bind_ok run, fails]
  rfl

theorem target_found (style : Style) (path : List UInt8) (s : State) :
    (∃ code, target style path s = (.error code, s)) ∨
      ∃ far end_, target style path s = (.ok far, s) ∧
        s.tree.get path = .ok (end_, .socket (some far)) ∧ (s.sock far).closed = false ∧
          (s.sock far).style = style := by
  cases led : s.tree.get path with
  | error code => exact .inl ⟨code, run_target_error led style⟩
  | ok found =>
    obtain ⟨end_, node⟩ := found
    by_cases open_ : ∃ far, node = .socket (some far) ∧ (s.sock far).closed = false
    · obtain ⟨far, rfl, alive⟩ := open_
      have runs := run_target led alive style
      by_cases same : (s.sock far).style = style
      · rw [if_neg (by simpa using same)] at runs
        exact .inr ⟨far, end_, runs, rfl, alive, same⟩
      · rw [if_pos same] at runs
        exact .inl ⟨_, runs⟩
    · refine .inl ⟨_, run_target_nobody led (fun id is => ?_) style⟩
      cases alive : (s.sock id).closed with
      | true => rfl
      | false => exact absurd ⟨id, is, alive⟩ open_

theorem run_connectTo_error {path : List UInt8} {s : State} {code : Int}
    (fails : ∀ style, target style path s = (.error code, s)) (id : Nat) :
    connectTo id path s = (.error code, s) := by
  have known : UnixDomain.sock id s = (.ok (s.sock id), s) := rfl
  unfold connectTo
  rw [Call.run_bind_ok known]
  exact Call.run_bind_error (fails _)

theorem run_connect_error {fd : Descriptor} {raw : List UInt8} {s : State} {id : Nat} {code : Int}
    (has : s.socketOf? fd = some id)
    (fails : s.tree.get (Sockaddr.pathOf raw) = .error code) :
    connect fd raw s = (.error code, s) := by
  unfold connect
  rw [Call.run_bind_ok (lookup_some has)]
  exact run_connectTo_error (run_target_error fails) id

theorem probe_nobody {path : String} {s : State} {end_ : Path} {node : Node}
    (led : s.tree.get (bytesOf path) = .ok (end_, node))
    (nobody : ∀ id, node = .socket (some id) →
      id < s.sockets.length ∧ (s.sock id).closed = true) :
    (UnixDomain.probe path s).1 = .error Errno.connectionRefused := by
  have led' : s.withProbe.tree.get (bytesOf path) = .ok (end_, node) := led
  rw [run_probe, run_connectTo_error (run_target_nobody led' fun id is => ?_)]
  obtain ⟨inside, closed⟩ := nobody id is
  rw [sock_withProbe, if_neg (Nat.ne_of_lt inside), closed]

def withFarEnd (s : State) : State :=
  { s.withProbe with sockets := s.withProbe.sockets ++
    [{ style := .stream, bound := true, established := true, peer := some s.sockets.length }] }

def withGuest (s : State) (far : Nat) : State :=
  s.withFarEnd.setSock far { s.withFarEnd.sock far with
    waiting := (s.withFarEnd.sock far).waiting ++ [s.withProbe.sockets.length] }

def withMeeting (s : State) (far : Nat) : State :=
  (s.withGuest far).setSock s.sockets.length { (s.withGuest far).sock s.sockets.length with
    established := true, peer := some s.withProbe.sockets.length }

section

variable (s : State) {far : Nat} (before : far < s.sockets.length)

theorem length_withProbe : s.withProbe.sockets.length = s.sockets.length + 1 := by
  simp [withProbe]

theorem length_withFarEnd : s.withFarEnd.sockets.length = s.sockets.length + 2 := by
  simp [withFarEnd, length_withProbe]

theorem length_withMeeting (far : Nat) :
    (s.withMeeting far).sockets.length = s.sockets.length + 2 := by
  rw [withMeeting, length_setSock, withGuest, length_setSock, length_withFarEnd]

theorem sock_withFarEnd {i : Nat} (inside : i < s.sockets.length) :
    s.withFarEnd.sock i = s.sock i := by
  rw [withFarEnd, sock_new, if_neg (by rw [length_withProbe]; omega), sock_withProbe,
    if_neg (by omega)]

include before

theorem sock_withMeeting_probe : (s.withMeeting far).sock s.sockets.length =
    { style := .stream, established := true, peer := some (s.sockets.length + 1) } := by
  have new : s.withFarEnd.sock s.sockets.length = { style := .stream } := by
    rw [withFarEnd, sock_new, if_neg (by rw [length_withProbe]; omega), sock_withProbe, if_pos rfl]
  rw [withMeeting, sock_setSock,
    if_pos ⟨rfl, by rw [withGuest, length_setSock, length_withFarEnd]; omega⟩, withGuest,
    sock_setSock, if_neg (by omega), new, length_withProbe]

theorem sock_withMeeting_listener : (s.withMeeting far).sock far =
    { s.sock far with waiting := (s.sock far).waiting ++ [s.sockets.length + 1] } := by
  rw [withMeeting, sock_setSock, if_neg (by omega), withGuest, sock_setSock,
    if_pos ⟨rfl, by rw [length_withFarEnd]; omega⟩, sock_withFarEnd s before, length_withProbe]

omit before in
theorem sock_withMeeting_other {i : Nat} (inside : i < s.sockets.length) (other : i ≠ far) :
    (s.withMeeting far).sock i = s.sock i := by
  rw [withMeeting, sock_setSock, if_neg (by omega), withGuest, sock_setSock, if_neg (by omega),
    sock_withFarEnd s inside]

end

theorem inside_of_backlog {s : State} {far : Nat} {backlog : Int}
    (waits : (s.withProbe.sock far).backlog = some backlog) : far < s.sockets.length := by
  by_contra out
  have none : (s.withProbe.sock far).backlog = none := by
    rw [sock_withProbe]
    split
    · rfl
    · simp [sock, List.getD, List.getElem?_eq_none_iff.mpr (Nat.le_of_not_lt out)]
  rw [none] at waits
  cases waits

theorem dial (s : State) (path : List UInt8) :
    s.Dial path (connectTo s.sockets.length path s.withProbe) := by
  have known (i : Nat) :
      UnixDomain.sock i s.withProbe = (.ok (s.withProbe.sock i), s.withProbe) := rfl
  have new : s.withProbe.sock s.sockets.length = { style := .stream } := by
    rw [sock_withProbe, if_pos rfl]
  -- Wherever the connection fails, nothing has changed but that the probe has its own socket.
  unfold connectTo
  rw [Call.run_bind_ok (known _), new]
  change s.Dial path ((target .stream path >>= _) s.withProbe)
  obtain ⟨code, fails⟩ | ⟨far, end_, finds, leads, alive, stream⟩ :=
    target_found .stream path s.withProbe
  · rw [Call.run_bind_error fails]
    exact .refused code
  rw [Call.run_bind_ok finds]
  change s.Dial path (connectPaired s.sockets.length far s.withProbe)
  unfold connectPaired
  rw [Call.run_bind_ok (known far)]
  cases waits : (s.withProbe.sock far).backlog with
  | none => exact .refused _
  | some backlog =>
    have before := inside_of_backlog waits
    change s.Dial path
      ((if (s.withProbe.sock far).readShut then _ else _ : Call Unit) s.withProbe)
    cases shut : (s.withProbe.sock far).readShut with
    | true => exact .refused _
    | false =>
      change s.Dial path ((if backlog < (s.withProbe.sock far).waiting.length then _ else _ :
        Call Unit) s.withProbe)
      split
      · exact .refused _
      · rw [Call.run_bind_ok (known _), new]
        change s.Dial path (.ok (), s.withMeeting far)
        have old : s.withProbe.sock far = s.sock far := by
          rw [sock_withProbe, if_neg (Nat.ne_of_lt before)]
        rw [old] at waits shut alive
        exact .made leads before alive (by simp [Sock.Refuses, waits, shut]) rfl rfl
          (s.length_withMeeting far) (s.sock_withMeeting_probe before)
          (s.sock_withMeeting_listener before) fun i => s.sock_withMeeting_other

theorem run_closeSocket_stream {far : Nat} (stream : (s.sock id).style = .stream)
    (none : (s.sock id).waiting = []) (peer : (s.sock id).peer = some far) :
    ∃ k f, f.writeShut = true ∧ (closeSocket id s).2 = (s.setSock id k).setSock far f := by
  have known : UnixDomain.sock id s = (.ok (s.sock id), s) := rfl
  let k := { s.sock id with closed := true, peer := Option.none, queue := [], waiting := [] }
  let f := (s.setSock id k).sock far
  let f' := { f with
    readShut := true, writeShut := true, reset := f.reset || false || (s.sock id).queue ≠ [] }
  have closed : hangUp id false s = (.ok (), (s.setSock id k).setSock far f') := by
    unfold hangUp
    rw [Call.run_bind_ok known, peer, stream]
    rfl
  refine ⟨k, f', rfl, ?_⟩
  unfold closeSocket
  rw [Call.run_bind_ok known, none]
  rw [Call.run_bind_ok closed]
  rfl

theorem probed (path : String) (s : State) : s.Probed (bytesOf path) (UnixDomain.probe path s) := by
  have dialled := s.dial (bytesOf path)
  rw [run_probe]
  generalize connectTo s.sockets.length (bytesOf path) s.withProbe = r at dialled ⊢
  cases dialled with
  | refused code =>
    rw [run_closeSocket_withProbe]
    refine ⟨rfl, rfl, by simp [length_setSock, withProbe], fun i inside => .inl ?_⟩
    rw [sock_setSock, if_neg fun same => Nat.ne_of_lt inside same.1, sock_withProbe,
      if_neg (Nat.ne_of_lt inside)]
  | @made far end_ s' leads inside alive welcomes tree descriptors more near listener others =>
    have peer : (s'.sock s.sockets.length).peer = some (s.sockets.length + 1) := by rw [near]
    obtain ⟨k, f, shut, closed⟩ := run_closeSocket_stream (by rw [near]) (by rw [near]) peer
    rw [closed]
    have last : s.sockets.length + 1 < (s'.setSock s.sockets.length k).sockets.length := by
      rw [length_setSock]
      omega
    have old (i : Nat) (inside : i < s.sockets.length) :
        ((s'.setSock s.sockets.length k).setSock (s.sockets.length + 1) f).sock i = s'.sock i := by
      rw [sock_setSock, if_neg (by omega), sock_setSock, if_neg (by omega)]
    refine ⟨tree, descriptors, by simp only [length_setSock]; omega, fun i before => ?_⟩
    rw [old i before]
    by_cases here : i = far
    · subst here
      refine .inr ⟨rfl, alive, welcomes, ⟨end_, leads⟩, _, Nat.le_succ _, ?_, listener⟩
      rw [sock_setSock, if_pos ⟨rfl, last⟩, shut]
    · exact .inl (others i before here)

end State

end ProcessorSockets.UnixDomain
