import ProcessorSockets.Proofs.Kernel.Probe
import ProcessorSockets.Proofs.Transport.Directories
import ProcessorSockets.Proofs.Transport.Sockaddr

namespace ProcessorSockets

namespace Loopback

open FileTree (Path Node Tree)
open UnixDomain (State Sock kernel)

theorem Place.sockaddr_of_path {place : Place} {a : Address} {path : String}
    (gives : place.pathFor a = .ok path) : place.sockaddr a =
      if Limits.pathSize < (bytesOf path).length then
        .error (.described .invalidInput ("socket path too long: " ++ path))
      else .ok (Sockaddr.path (bytesOf path)) := by
  unfold Place.sockaddr
  rw [gives]
  by_cases long : Limits.pathSize < (bytesOf path).length
  · simp [long, Bind.bind, Except.bind, throw, throwThe, MonadExceptOf.throw]
  · simp [long, Bind.bind, Except.bind, pure, Except.pure]

structure Place.Writes (place : Place) (a : Address) (path : String) : Prop where
  gives : place.pathFor a = .ok path
  fits : (bytesOf path).length ≤ Limits.pathSize

theorem Place.Writes.sockaddr {place : Place} {a : Address} {path : String}
    (h : place.Writes a path) :
    place.sockaddr a = .ok (Sockaddr.path (bytesOf path)) := by
  rw [sockaddr_of_path h.gives, if_neg (Nat.not_lt.mpr h.fits)]

def withProbe (desk : Desk State) (path : String) : Desk State :=
  { desk with kernel := (UnixDomain.probe path desk.kernel).2 }

def Refused (outcome : Except Int Unit) : Prop :=
  ∃ code, outcome = .error code ∧ Errno.kind code = .connectionRefused

/-- The ways of taking a name: what the caller is told, and how the desk is left. -/
inductive Claimed (fd : Descriptor) (path : String) (desk : Desk State) :
    Except NativeError Unit → Desk State → Prop
  | bound {s : State} (names : desk.kernel.Binding fd (bytesOf path) (.ok (), s)) :
      Claimed fd path desk (.ok ())
        { kernel := s, bound := (fd, path) :: desk.bound.filter (·.1 ≠ fd) }
  | failed {code : Int} (other : code ≠ Errno.addressInUse)
      (names : desk.kernel.Binding fd (bytesOf path) (.error code, desk.kernel)) :
      Claimed fd path desk (.error (.os code)) desk
  | kept {end_ : Path} {node : Node}
      (taken : desk.kernel.tree.get (bytesOf path) = .ok (end_, node))
      (stays : Refused (UnixDomain.probe path desk.kernel).1 →
        ∃ code, desk.kernel.tree.remove (bytesOf path) = .error code) :
      Claimed fd path desk (.error (.os Errno.addressInUse)) (withProbe desk path)
  | cleared {t : Tree} {id : Nat} (refused : Refused (UnixDomain.probe path desk.kernel).1)
      (removed : desk.kernel.tree.remove (bytesOf path) = .ok t)
      (has : desk.kernel.socketOf? fd = some id) (named : (desk.kernel.sock id).bound = true) :
      Claimed fd path desk (.error (.os Errno.invalid)) (withTree (withProbe desk path) t)
  | replaced {t : Tree} {s : State} (refused : Refused (UnixDomain.probe path desk.kernel).1)
      (removed : desk.kernel.tree.remove (bytesOf path) = .ok t)
      (names : (withTree (withProbe desk path) t).kernel.Binding fd (bytesOf path) (.ok (), s)) :
      Claimed fd path desk (.ok ())
        { kernel := s, bound := (fd, path) :: desk.bound.filter (·.1 ≠ fd) }

inductive Errand (place : Place) (fd : Descriptor) (a : Address) (desk : Desk State) :
    Except NativeError Unit → Desk State → Prop
  | invalid {e : NativeError} (no : ∀ path, ¬place.Writes a path) :
      Errand place fd a desk (.error e) desk
  | astray {e : NativeError} {t : Tree} (grows : desk.kernel.tree.Grows t)
      (missing : ¬place.There desk.kernel.tree) :
      Errand place fd a desk (.error e) (withTree desk t)
  | claimed {path : String} {t : Tree} {r : Except NativeError Unit} {desk' : Desk State}
      (writes : place.Writes a path) (proper : 0 ∉ bytesOf path) (grows : desk.kernel.tree.Grows t)
      (same : place.There desk.kernel.tree → t = desk.kernel.tree)
      (claimed : Claimed fd path (withTree desk t) r desk') : Errand place fd a desk r desk'

inductive Course (place : Place) (fd : Descriptor) (a : Address) (desk : Desk State) :
    Except NativeError Unit → Desk State → Prop
  | invalid {e : NativeError} (no : ∀ path, ¬place.Writes a path) :
      Course place fd a desk (.error e) desk
  | astray {e : NativeError} {t : Tree} (grows : desk.kernel.tree.Grows t)
      (missing : ¬place.There desk.kernel.tree) :
      Course place fd a desk (.error e) (withTree desk t)
  | bound {path : String} {t : Tree} {s : State} (writes : place.Writes a path)
      (proper : 0 ∉ bytesOf path) (grows : desk.kernel.tree.Grows t)
      (names : (withTree desk t).kernel.Binding fd (bytesOf path) (.ok (), s)) :
      Course place fd a desk (.ok ())
        { kernel := s, bound := (fd, path) :: desk.bound.filter (·.1 ≠ fd) }
  | failed {path : String} {t : Tree} {code : Int} (writes : place.Writes a path)
      (grows : desk.kernel.tree.Grows t) (other : code ≠ Errno.addressInUse)
      (names : (withTree desk t).kernel.Binding fd (bytesOf path)
        (.error code, (withTree desk t).kernel)) :
      Course place fd a desk (.error (.os code)) (withTree desk t)
  | kept {path : String} {t : Tree} {end_ : Path} {node : Node} (writes : place.Writes a path)
      (grows : desk.kernel.tree.Grows t) (taken : t.get (bytesOf path) = .ok (end_, node))
      (stays : Refused (UnixDomain.probe path (withTree desk t).kernel).1 →
        ∃ code, t.remove (bytesOf path) = .error code) :
      Course place fd a desk (.error (.os Errno.addressInUse))
        (withProbe (withTree desk t) path)
  | cleared {path : String} {t t' : Tree} {id : Nat} (writes : place.Writes a path)
      (grows : desk.kernel.tree.Grows t)
      (refused : Refused (UnixDomain.probe path (withTree desk t).kernel).1)
      (removed : t.remove (bytesOf path) = .ok t')
      (has : desk.kernel.socketOf? fd = some id) (named : (desk.kernel.sock id).bound = true) :
      Course place fd a desk (.error (.os Errno.invalid))
        (withTree (withProbe (withTree desk t) path) t')
  | replaced {path : String} {t t' : Tree} {s : State} (writes : place.Writes a path)
      (proper : 0 ∉ bytesOf path) (grows : desk.kernel.tree.Grows t)
      (refused : Refused (UnixDomain.probe path (withTree desk t).kernel).1)
      (removed : t.remove (bytesOf path) = .ok t')
      (names : (withTree (withProbe (withTree desk t) path) t').kernel.Binding fd (bytesOf path)
        (.ok (), s)) :
      Course place fd a desk (.ok ())
        { kernel := s, bound := (fd, path) :: desk.bound.filter (·.1 ≠ fd) }

variable {place : Place} {fd : Descriptor} {a : Address} {desk : Desk State} {notes : List Note}

theorem run_lift {α : Type} (r : Except NativeError α) (st : Desk State × List Note) :
    (liftM r : Native State α) st = (r, st) := by
  cases r with
  | ok _ => rfl
  | error _ => rfl

section

variable (desk) (t : Tree) (path : String)

@[simp] theorem withTree_tree : (withTree desk t).kernel.tree = t := rfl

@[simp] theorem withTree_socketOf? (fd : Descriptor) :
    (withTree desk t).kernel.socketOf? fd = desk.kernel.socketOf? fd := rfl

@[simp] theorem withTree_sock (id : Nat) :
    (withTree desk t).kernel.sock id = desk.kernel.sock id := rfl

theorem withProbe_kernel :
    (withProbe desk path).kernel = (UnixDomain.probe path desk.kernel).2 := rfl

@[simp] theorem withProbe_tree : (withProbe desk path).kernel.tree = desk.kernel.tree := by
  rw [withProbe_kernel, (State.probed path desk.kernel).tree]

@[simp] theorem withProbe_socketOf? (fd : Descriptor) :
    (withProbe desk path).kernel.socketOf? fd = desk.kernel.socketOf? fd := by
  unfold State.socketOf?
  rw [withProbe_kernel, (State.probed path desk.kernel).descriptors]

theorem named_withProbe {id : Nat} (inside : id < desk.kernel.sockets.length) :
    ((withProbe desk path).kernel.sock id).bound = (desk.kernel.sock id).bound := by
  rw [withProbe_kernel]
  cases (State.probed path desk.kernel).sock id inside with
  | inl same => rw [same]
  | inr queued =>
    obtain ⟨_, _, _, _, far, _, _, same⟩ := queued
    rw [same]

end

theorem run_probe (path : String) (desk : Desk State) (notes : List Note) :
    probe kernel path (desk, notes) = (.ok (UnixDomain.probe path desk.kernel).1,
      (withProbe desk path, notes)) :=
  congrArg (fun notes => (Except.ok _, (_, notes))) (List.append_nil notes)

theorem call_unlink_ok {s : State} {path : String} {t : Tree}
    (removed : s.tree.remove (bytesOf path) = .ok t) :
    kernel.call (.unlink path) s = (.ok (), { s with tree := t }) :=
  State.run_onTree_ok (f := (·.remove (bytesOf path))) removed

theorem call_unlink_error {s : State} {path : String} {code : Int}
    (fails : s.tree.remove (bytesOf path) = .error code) :
    kernel.call (.unlink path) s = (.error code, s) :=
  State.run_onTree_error (f := (·.remove (bytesOf path))) fails

theorem run_reclaim_kept {path : String}
    (stays : Refused (UnixDomain.probe path desk.kernel).1 →
      ∃ code, desk.kernel.tree.remove (bytesOf path) = .error code) (notes : List Note) :
    ∃ notes', reclaim kernel path (desk, notes) =
      (.ok false, (withProbe desk path, notes')) := by
  unfold reclaim
  rw [Native.run_bind_ok (run_probe path desk notes)]
  cases outcome : (UnixDomain.probe path desk.kernel).1 with
  | ok _ => exact ⟨notes, rfl⟩
  | error code =>
    by_cases refused : Errno.kind code = .connectionRefused
    · obtain ⟨code', fails⟩ := stays ⟨code, outcome, refused⟩
      rw [← withProbe_tree desk path] at fails
      refine ⟨notes ++ [.syscall (.unlink path)] ++
        [.event ⟨.warn, "Failed to remove stale socket file"⟩], ?_⟩
      dsimp only
      rw [if_pos refused, Native.run_bind_ok (Native.run_attempt _ _),
        Native.run_syscall_error (call_unlink_error fails)]
      rfl
    · refine ⟨notes, ?_⟩
      dsimp only
      rw [if_neg refused]
      rfl

theorem run_reclaim {path : String} {t : Tree}
    (refused : Refused (UnixDomain.probe path desk.kernel).1)
    (removed : desk.kernel.tree.remove (bytesOf path) = .ok t) (notes : List Note) :
    ∃ notes', reclaim kernel path (desk, notes) =
      (.ok true, (withTree (withProbe desk path) t, notes')) := by
  obtain ⟨code, outcome, refused⟩ := refused
  rw [← withProbe_tree desk path] at removed
  unfold reclaim
  rw [Native.run_bind_ok (run_probe path desk notes), outcome]
  refine ⟨notes ++ [.syscall (.unlink path)] ++ [.event ⟨.debug, "Removed stale socket file"⟩], ?_⟩
  dsimp only
  rw [if_pos refused, Native.run_bind_ok (Native.run_attempt _ _),
    Native.run_syscall_ok (call_unlink_ok removed)]
  rfl

def claim (fd : Descriptor) (path : String) (raw : List UInt8) : Native State Unit := do
  match ← Native.attempt (Native.syscall kernel (.bind fd raw)) with
  | .ok () => pure ()
  | .error e =>
    if e = .os Errno.addressInUse then
      if ← reclaim kernel path then Native.syscall kernel (.bind fd raw) else throw e
    else throw e
  hold fd path

theorem bind_claims (place : Place) (fd : Descriptor) (a : Address) :
    bind kernel place fd a = (do
      let path ← place.pathFor a
      let raw ← place.sockaddr a
      makeDirectories kernel (place.directory.toList.length + 1) place.directory.toList
      claim fd path raw) := rfl

theorem run_claim_ok (path : String) (notes : List Note) {raw : List UInt8} {s : State}
    (run : kernel.call (.bind fd raw) desk.kernel = (.ok (), s)) :
    ∃ notes', claim fd path raw (desk, notes) =
      (.ok (), ({ kernel := s, bound := (fd, path) :: desk.bound.filter (·.1 ≠ fd) }, notes')) := by
  refine ⟨notes ++ [Note.syscall (.bind fd raw)], ?_⟩
  unfold claim
  rw [Native.run_bind_ok (Native.run_attempt _ _), Native.run_syscall_ok run]
  rfl

theorem run_claim_error (path : String) (notes : List Note) {raw : List UInt8} {code : Int}
    (other : code ≠ Errno.addressInUse)
    (run : kernel.call (.bind fd raw) desk.kernel = (.error code, desk.kernel)) :
    ∃ notes', claim fd path raw (desk, notes) = (.error (.os code), (desk, notes')) := by
  refine ⟨notes ++ [Note.syscall (.bind fd raw)], ?_⟩
  unfold claim
  rw [Native.run_bind_ok (Native.run_attempt _ _), Native.run_syscall_error run]
  dsimp only
  rw [if_neg fun is => other (NativeError.os.inj is)]
  rfl

section

variable {path : String} {raw : List UInt8} {desk' : Desk State}
  (run : kernel.call (.bind fd raw) desk.kernel = (.error Errno.addressInUse, desk.kernel))

include run

theorem run_claim_kept
    (notes : List Note)
    (kept : ∀ notes, ∃ notes', reclaim kernel path (desk, notes) = (.ok false, (desk', notes'))) :
    ∃ notes', claim fd path raw (desk, notes) =
      (.error (.os Errno.addressInUse), (desk', notes')) := by
  obtain ⟨notes', kept⟩ := kept (notes ++ [Note.syscall (.bind fd raw)])
  refine ⟨notes', ?_⟩
  unfold claim
  rw [Native.run_bind_ok (Native.run_attempt _ _), Native.run_syscall_error run]
  dsimp only
  rw [if_pos rfl, Native.run_bind_ok kept]
  rfl

theorem run_claim_again
    (notes : List Note)
    (freed : ∀ notes, ∃ notes', reclaim kernel path (desk, notes) = (.ok true, (desk', notes'))) :
    ∃ notes', claim fd path raw (desk, notes) =
      (Native.syscall kernel (.bind fd raw) >>= fun _ => hold fd path) (desk', notes') := by
  obtain ⟨notes', freed⟩ := freed (notes ++ [Note.syscall (.bind fd raw)])
  refine ⟨notes', ?_⟩
  unfold claim
  rw [Native.run_bind_ok (Native.run_attempt _ _), Native.run_syscall_error run]
  dsimp only
  rw [if_pos rfl, Native.run_bind_ok freed]
  rfl

end

section

variable {path : String} {raw : List UInt8}
  (known : ∀ {id}, desk.kernel.socketOf? fd = some id → id < desk.kernel.sockets.length)
  (binding : ∀ s : State, s.Binding fd (bytesOf path) (kernel.call (.bind fd raw) s))

include known binding

theorem claims_cleared {t : Tree} {id : Nat} (has : desk.kernel.socketOf? fd = some id)
    {end_ : Path} {node : Node} (taken : desk.kernel.tree.get (bytesOf path) = .ok (end_, node))
    (refused : Refused (UnixDomain.probe path desk.kernel).1)
    (removed : desk.kernel.tree.remove (bytesOf path) = .ok t) (notes : List Note) :
    Claimed fd path desk
      ((Native.syscall kernel (.bind fd raw) >>= fun _ => hold fd path)
        (withTree (withProbe desk path) t, notes)).1
      ((Native.syscall kernel (.bind fd raw) >>= fun _ => hold fd path)
        (withTree (withProbe desk path) t, notes)).2.1 := by
  have has' : (withTree (withProbe desk path) t).kernel.socketOf? fd = some id := by
    simpa only [withTree_socketOf?, withProbe_socketOf?] using has
  have freed := Tree.get_remove taken removed
  have names := binding (withTree (withProbe desk path) t).kernel
  generalize run : kernel.call (.bind fd raw)
    (withTree (withProbe desk path) t).kernel = r at names
  cases names with
  | closed none => cases has'.symm.trans none
  | lost nowhere => cases freed.1.symm.trans nowhere
  | taken _ there =>
    obtain ⟨leads, found⟩ := Tree.get_ok.mp there
    cases freed.1.symm.trans leads
    cases freed.2.symm.trans found
  | @named id' has'' bound missing =>
    cases has'.symm.trans has''
    rw [Native.run_bind_error (Native.run_syscall_error run)]
    refine .cleared refused removed has ?_
    rw [withTree_sock, named_withProbe desk path (known has)] at bound
    exact bound
  | bound has'' free made =>
    rw [Native.run_bind_ok (Native.run_syscall_ok run)]
    exact .replaced refused removed (.bound has'' free made)

end

theorem claims (desk : Desk State) {path : String}
    (known : ∀ {id}, desk.kernel.socketOf? fd = some id → id < desk.kernel.sockets.length)
    (proper : 0 ∉ bytesOf path) (fits : (bytesOf path).length ≤ Limits.pathSize)
    (notes : List Note) :
    Claimed fd path desk (claim fd path (Sockaddr.path (bytesOf path)) (desk, notes)).1
      (claim fd path (Sockaddr.path (bytesOf path)) (desk, notes)).2.1 := by
  have whole := Sockaddr.pathOf_path proper fits
  have binding (s : State) : s.Binding fd (bytesOf path)
      (kernel.call (.bind fd (Sockaddr.path (bytesOf path))) s) := by
    have names := s.binding fd (Sockaddr.path (bytesOf path))
    rw [whole] at names
    exact names
  generalize Sockaddr.path (bytesOf path) = raw at binding ⊢
  have names := binding desk.kernel
  have fails {code : Int} (other : code ≠ Errno.addressInUse)
      (run : kernel.call (.bind fd raw) desk.kernel = (.error code, desk.kernel))
      (names : desk.kernel.Binding fd (bytesOf path) (.error code, desk.kernel)) :
      Claimed fd path desk (claim fd path raw (desk, notes)).1
        (claim fd path raw (desk, notes)).2.1 := by
    obtain ⟨notes', runs⟩ := run_claim_error path notes other run
    rw [runs]
    exact .failed other names
  generalize run : kernel.call (.bind fd raw) desk.kernel = r at names
  cases names with
  | closed none => exact fails (by decide) run (.closed none)
  | lost nowhere =>
    refine fails ?_ run (.lost nowhere)
    rintro rfl
    exact absurd (Tree.resolve_error nowhere) (by decide)
  | named has bound missing => exact fails (by decide) run (.named has bound missing)
  | bound has free made =>
    obtain ⟨notes', runs⟩ := run_claim_ok path notes run
    rw [runs]
    exact .bound (.bound has free made)
  | @taken id has end_ node taken =>
    -- The bind is tried again only if nobody answers the probe and the file can be removed.
    have kept (stays : Refused (UnixDomain.probe path desk.kernel).1 →
        ∃ code, desk.kernel.tree.remove (bytesOf path) = .error code) :
        Claimed fd path desk (claim fd path raw (desk, notes)).1
          (claim fd path raw (desk, notes)).2.1 := by
      obtain ⟨notes', runs⟩ := run_claim_kept run notes (run_reclaim_kept stays)
      rw [runs]
      exact .kept taken stays
    by_cases refused : Refused (UnixDomain.probe path desk.kernel).1
    · cases removed : desk.kernel.tree.remove (bytesOf path) with
      | error code => exact kept fun _ => ⟨code, removed⟩
      | ok t =>
        obtain ⟨notes', runs⟩ := run_claim_again run notes (run_reclaim refused removed)
        rw [runs]
        exact claims_cleared known binding has taken refused removed notes'
    · exact kept fun is => absurd is refused

def prepare (place : Place) : Native State Unit :=
  makeDirectories kernel (place.directory.toList.length + 1) place.directory.toList

theorem prepared {r : Except NativeError Unit} {desk' : Desk State} {notes' : List Note}
    (ready : prepare place (desk, notes) = (r, (desk', notes'))) :
    ∃ t, desk.kernel.tree.Grows t ∧ desk' = withTree desk t := by
  obtain ⟨t, grows, grown⟩ := makeDirectories_grows (place.directory.toList.length + 1)
    place.directory.toList desk notes
  exact ⟨t, grows, (congrArg (·.2.1) ready).symm.trans grown⟩

/-- The address first: nothing is done for one that cannot be written. -/
theorem bind_stages (place : Place) (fd : Descriptor) (a : Address) (desk : Desk State)
    (notes : List Note) :
    (∃ e, (∀ path, ¬place.Writes a path) ∧
      bind kernel place fd a (desk, notes) = (.error e, (desk, notes))) ∨
    ∃ path, place.Writes a path ∧ bind kernel place fd a (desk, notes) =
      (prepare place >>= fun _ => claim fd path (Sockaddr.path (bytesOf path))) (desk, notes) := by
  rw [bind_claims]
  cases gives : place.pathFor a with
  | error e =>
    refine .inl ⟨e, fun path writes => ?_, Native.run_bind_error (run_lift _ _)⟩
    cases gives.symm.trans writes.gives
  | ok path =>
    rw [Native.run_bind_ok (run_lift _ _)]
    by_cases fits : (bytesOf path).length ≤ Limits.pathSize
    · have writes : place.Writes a path := ⟨gives, fits⟩
      rw [writes.sockaddr, Native.run_bind_ok (run_lift _ _)]
      exact .inr ⟨path, writes, rfl⟩
    · rw [Place.sockaddr_of_path gives, if_pos (Nat.not_le.mp fits),
        Native.run_bind_error (run_lift _ _)]
      refine .inl ⟨_, fun path' writes => ?_, rfl⟩
      cases gives.symm.trans writes.gives
      exact fits writes.fits

theorem claimed_prepared (named : desk.kernel.tree.Named)
    (known : ∀ {id}, desk.kernel.socketOf? fd = some id → id < desk.kernel.sockets.length)
    {path : String} (writes : place.Writes a path) {desk' : Desk State} {notes' : List Note}
    (ready : prepare place (desk, notes) = (.ok (), (desk', notes'))) :
    0 ∉ bytesOf path ∧ Claimed fd path desk' (bind kernel place fd a (desk, notes)).1
      (bind kernel place fd a (desk, notes)).2.1 := by
  have proper : 0 ∉ bytesOf path := by
    apply Place.zero_path writes.gives
    intro zero
    obtain ⟨e, fails⟩ := run_makeDirectories_zero named place.directory.toList.length notes zero
    cases fails.symm.trans (congrArg Prod.fst ready)
  obtain ⟨e, no, _⟩ | ⟨path', writes', runs⟩ := bind_stages place fd a desk notes
  · exact absurd writes (no path)
  cases writes.gives.symm.trans writes'.gives
  obtain ⟨t, _, rfl⟩ := prepared ready
  rw [runs, Native.run_bind_ok ready]
  exact ⟨proper, claims (withTree desk t) known proper writes.fits notes'⟩

theorem errand (named : desk.kernel.tree.Named) (place : Place) (fd : Descriptor) (a : Address)
    (notes : List Note)
    (known : ∀ {id}, desk.kernel.socketOf? fd = some id → id < desk.kernel.sockets.length) :
    Errand place fd a desk (bind kernel place fd a (desk, notes)).1
      (bind kernel place fd a (desk, notes)).2.1 := by
  obtain ⟨e, no, runs⟩ | ⟨path, writes, runs⟩ := bind_stages place fd a desk notes
  · rw [runs]
    exact .invalid no
  have there (is : place.There desk.kernel.tree) :=
    run_makeDirectories_there named place.directory.toList.length notes is
  cases ready : prepare place (desk, notes) with
  | mk r st =>
    obtain ⟨desk', notes'⟩ := st
    obtain ⟨t, grows, rfl⟩ := prepared ready
    cases r with
    | error e =>
      rw [runs, Native.run_bind_error ready]
      refine .astray grows fun is => ?_
      obtain ⟨_, done⟩ := there is
      cases done.symm.trans ready
    | ok _ =>
      obtain ⟨proper, claimed⟩ := claimed_prepared named known writes ready
      refine .claimed writes proper grows (fun is => ?_) claimed
      obtain ⟨_, done⟩ := there is
      exact congrArg (fun r => r.2.1.kernel.tree) (ready.symm.trans done)

theorem course (h : desk.kernel.Orderly) (place : Place) (fd : Descriptor) (a : Address)
    (notes : List Note) :
    Course place fd a desk (bind kernel place fd a (desk, notes)).1
      (bind kernel place fd a (desk, notes)).2.1 := by
  have errand := errand h.named place fd a notes fun has => h.known has
  generalize (bind kernel place fd a (desk, notes)).1 = r at errand ⊢
  generalize (bind kernel place fd a (desk, notes)).2.1 = desk' at errand ⊢
  cases errand with
  | invalid no => exact .invalid no
  | astray grows missing => exact .astray grows missing
  | claimed writes proper grows _ claimed =>
    cases claimed with
    | bound names => exact .bound writes proper grows names
    | failed other names => exact .failed writes grows other names
    | kept taken stays => exact .kept writes grows taken stays
    | cleared refused removed has named => exact .cleared writes grows refused removed has named
    | replaced refused removed names => exact .replaced writes proper grows refused removed names

end Loopback

end ProcessorSockets
