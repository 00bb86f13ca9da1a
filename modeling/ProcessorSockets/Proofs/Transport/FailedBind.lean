import ProcessorSockets.Proofs.Transport.Service

/-! What a failed bind leaves behind.  It looks whether somebody listens by connecting, and it
clears a name before it knows that it can take it: a listener is left with a connection from
nobody, and a file may be gone although nothing was bound in its place. -/

namespace ProcessorSockets.Loopback

open FileTree (Path Node Tree)
open UnixDomain (State kernel)

variable {place : Place} {fd : Descriptor} {a : Address} {desk after : Desk State}
  {path : String} {t t' : Tree} {e : NativeError} {id : Nat} {end_ : Path} {node : Node}

/-- A listener under the name that was asked for has one more connection to accept, whose far
end is closed. -/
structure Bothered (place : Place) (a : Address) (desk after : Desk State) (id : Nat) : Prop where
  listens : (desk.kernel.sock id).closed = false ∧ ¬(desk.kernel.sock id).Refuses
  called : ∃ path end_, place.pathFor a = .ok path ∧
    after.kernel.tree.get (bytesOf path) = .ok (end_, .socket (some id))
  queued : ∃ far, (after.kernel.sock far).writeShut = true ∧ after.kernel.sock id =
    { desk.kernel.sock id with waiting := (desk.kernel.sock id).waiting ++ [far] }

/-- The file under the name that was asked for is gone; nobody listened on it, and who asked
had a name already. -/
structure Lost (place : Place) (fd : Descriptor) (a : Address) (desk after : Desk State)
    (end_ : Path) (node : Node) : Prop where
  named : ∃ id, desk.kernel.socketOf? fd = some id ∧ (desk.kernel.sock id).bound = true
  called : ∃ path, place.pathFor a = .ok path ∧ after.kernel.tree.resolve (bytesOf path) = .ok end_
  unheard : ∀ id, node = .socket (some id) →
    (desk.kernel.sock id).closed = true ∨ (desk.kernel.sock id).Refuses

theorem withProbe_sock (desk : Desk State) (path : String)
    (inside : id < desk.kernel.sockets.length) :
    (withProbe desk path).kernel.sock id = desk.kernel.sock id ∨
      ¬Refused (UnixDomain.probe path desk.kernel).1 ∧ (desk.kernel.sock id).closed = false ∧
        ¬(desk.kernel.sock id).Refuses ∧
        (∃ end_, desk.kernel.tree.get (bytesOf path) = .ok (end_, .socket (some id))) ∧
          ∃ far, ((withProbe desk path).kernel.sock far).writeShut = true ∧
            (withProbe desk path).kernel.sock id =
              { desk.kernel.sock id with waiting := (desk.kernel.sock id).waiting ++ [far] } := by
  rw [withProbe_kernel]
  obtain same | ⟨made, alive, welcomes, leads, far, _, shut, queued⟩ :=
    (State.probed path desk.kernel).sock id inside
  · exact .inl same
  · refine .inr ⟨?_, alive, welcomes, leads, far, shut, queued⟩
    rintro ⟨code, fails, _⟩
    cases made.symm.trans fails

theorem sock_refused (refused : Refused (UnixDomain.probe path desk.kernel).1)
    (inside : id < desk.kernel.sockets.length) :
    (withProbe desk path).kernel.sock id = desk.kernel.sock id := by
  obtain same | ⟨made, _⟩ := withProbe_sock desk path inside
  · exact same
  · exact absurd refused made

theorem Course.fails_bound (course : Course place fd a desk (.error e) after) :
    after.bound = desk.bound := by
  cases course <;> rfl

theorem Course.fails_socketOf? (course : Course place fd a desk (.error e) after)
    (fd' : Descriptor) :
    after.kernel.socketOf? fd' = desk.kernel.socketOf? fd' := by
  cases course with
  | invalid no => rfl
  | astray grows missing => rfl
  | failed writes grows other names => rfl
  | kept writes grows taken stays => rw [withProbe_socketOf?, withTree_socketOf?]
  | cleared writes grows refused removed has named =>
    rw [withTree_socketOf?, withProbe_socketOf?, withTree_socketOf?]

theorem Course.fails_sock (course : Course place fd a desk (.error e) after)
    (inside : id < desk.kernel.sockets.length) : after.kernel.sock id = desk.kernel.sock id ∨
      e = .os Errno.addressInUse ∧ Bothered place a desk after id := by
  cases course with
  | invalid no => exact .inl rfl
  | astray grows missing => exact .inl rfl
  | failed writes grows other names => exact .inl rfl
  | @kept path t end_ node writes grows taken stays =>
    obtain same | ⟨_, alive, welcomes, ⟨end_, leads⟩, queued⟩ :=
      withProbe_sock (withTree desk t) path inside
    · exact .inl same
    · refine .inr ⟨rfl, ⟨alive, welcomes⟩, ⟨path, end_, writes.gives, ?_⟩, queued⟩
      rw [withProbe_tree]
      exact leads
  | cleared writes grows refused removed has named =>
    left
    rw [withTree_sock, sock_refused refused inside, withTree_sock]

theorem unheard (refused : Refused (UnixDomain.probe path desk.kernel).1)
    (leads : desk.kernel.tree.get (bytesOf path) = .ok (end_, .socket (some id))) :
    (desk.kernel.sock id).closed = true ∨ (desk.kernel.sock id).Refuses := by
  cases alive : (desk.kernel.sock id).closed with
  | true => exact .inl rfl
  | false =>
    right
    obtain ⟨code, fails, refused⟩ := refused
    refine State.refuses_of_probe leads alive ?_ fails refused
    by_contra out
    simp [State.sock, List.getD, List.getElem?_eq_none_iff.mpr (Nat.le_of_not_lt out)] at alive

theorem Course.fails_get (course : Course place fd a desk (.error e) after) {bytes : List UInt8}
    (there : desk.kernel.tree.get bytes = .ok (end_, node)) :
    after.kernel.tree.get bytes = .ok (end_, node) ∨
      e = .os Errno.invalid ∧ Lost place fd a desk after end_ node := by
  cases course with
  | invalid no => exact .inl there
  | astray grows missing => exact .inl (grows.get there)
  | failed writes grows other names => exact .inl (grows.get there)
  | kept writes grows taken stays =>
    left
    rw [withProbe_tree]
    exact grows.get there
  | @cleared path t t' id writes grows refused removed has named =>
    obtain ⟨q, node', taken, file, rfl⟩ := Tree.remove_ok.mp removed
    by_cases here : end_ = q
    · subst here
      cases (Tree.get_ok.mp taken).2.symm.trans (Tree.get_ok.mp (grows.get there)).2
      refine .inr ⟨rfl, ⟨id, has, named⟩,
        ⟨path, writes.gives, (Tree.get_remove taken removed).1⟩, ?_⟩
      rintro id rfl
      have heard := unheard refused taken
      exact heard
    · left
      refine Tree.get_erase (grows.get there) ?_ here
      rw [(Tree.get_ok.mp taken).2]
      exact fun is => file (Option.some.inj is)

/-- A failed bind leaves the list of files, the descriptors and the sockets as they were, but
for a connection from nobody in the queue of a listener under that name.  All files are left,
but for the file under that name if the socket had a name already and nobody listened there. -/
theorem failed_bind_leaves (named : t.Named)
    (serviced : Serviced (fun _ _ => True) place { kernel := { tree := t } } desk)
    (fails : ((transport kernel place).handle (.bind fd a) desk).reply = .error e) :
    let after := ((transport kernel place).handle (.bind fd a) desk).state
    after.bound = desk.bound ∧
      (∀ fd', after.kernel.socketOf? fd' = desk.kernel.socketOf? fd') ∧
        (∀ fd' id, desk.kernel.socketOf? fd' = some id →
          after.kernel.sock id = desk.kernel.sock id ∨
            e = .os Errno.addressInUse ∧ Bothered place a desk after id) ∧
          ∀ bytes end_ node, desk.kernel.tree.get bytes = .ok (end_, node) →
            after.kernel.tree.get bytes = .ok (end_, node) ∨
              e = .os Errno.invalid ∧ Lost place fd a desk after end_ node := by
  intro after
  have orderly := serviced.orderly (State.orderly_start named)
  have course : Course place fd a desk
    ((transport kernel place).handle (.bind fd a) desk).reply after :=
    course orderly place fd a []
  rw [fails] at course
  exact ⟨course.fails_bound, course.fails_socketOf?,
    fun fd' id has => course.fails_sock (orderly.known has),
    fun bytes end_ node => course.fails_get⟩

theorem failed_bind_leaves_listener :
    ((transport kernel .beside).handle (.bind 4 (.here "a")) (served .beside { kernel := {} }
        [.create 1 0, .bind 3 (.here "a"), .listen 3 4, .create 1 0])).reply =
          .error (.os Errno.addressInUse) ∧
      ((transport kernel .beside).handle (.bind 4 (.here "a")) (served .beside { kernel := {} }
        [.create 1 0, .bind 3 (.here "a"), .listen 3 4, .create 1 0])).state.bound =
          [(3, "s/ap:a")] := by
  have named : ({} : Tree).Named := fun _ mem => by cases mem
  have fairly : Fairly (fun _ _ => True) .beside { kernel := {} }
      [.create 1 0, .bind 3 (.here "a"), .listen 3 4, .create 1 0] :=
    ⟨trivial, trivial, trivial, trivial, trivial⟩
  have fails : ((transport kernel .beside).handle (.bind 4 (.here "a"))
      (served .beside { kernel := {} }
        [.create 1 0, .bind 3 (.here "a"), .listen 3 4, .create 1 0])).reply =
          .error (.os Errno.addressInUse) := by decide +kernel
  have left := (failed_bind_leaves named (Serviced.start.all fairly) fails).1
  exact ⟨fails, left.trans (by decide +kernel)⟩

/-- A failed bind can leave a listener with a connection to accept that nobody made, and it can
remove the file of the socket that it was for. -/
theorem failed_bind_disturbs : ∃ (place : Place) (a : Address) (path : String),
    (∃ desk after e,
      desk = served place { kernel := {} } [.create 1 0, .bind 3 a, .listen 3 4, .create 1 0] ∧
      after = ((transport kernel place).handle (.bind 4 a) desk).state ∧
      ((transport kernel place).handle (.bind 4 a) desk).reply = .error e ∧
      ((transport kernel place).handle (.accept 3) desk).reply = .error (.os Errno.again) ∧
      ((transport kernel place).handle (.accept 3) after).reply = .ok 5) ∧
    ∃ desk after e, desk = served place { kernel := {} } [.create 1 0, .bind 3 a] ∧
      after = ((transport kernel place).handle (.bind 3 a) desk).state ∧
      ((transport kernel place).handle (.bind 3 a) desk).reply = .error e ∧
      desk.kernel.contains path = true ∧ after.kernel.contains path = false :=
  ⟨.beside, .here "a", "s/ap:a",
    ⟨_, _, .os Errno.addressInUse, rfl, rfl,
      by decide +kernel, by decide +kernel, by decide +kernel⟩,
    _, _, .os Errno.invalid, rfl, rfl, by decide +kernel, by decide +kernel, by decide +kernel⟩

end ProcessorSockets.Loopback
