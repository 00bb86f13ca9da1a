import ProcessorSockets.Proofs.Transport.Tracking

namespace ProcessorSockets.Loopback

open FileTree (Path Node Tree)
open UnixDomain (State kernel)

structure Vacant (place : Place) (path : String) (t : Tree) : Prop extends place.Usable path where
  nothing : ∃ end_, t.resolve (bytesOf path) = .ok end_ ∧ t.find? end_ = none

/-- A socket file behind which no descriptor is open: its socket was closed, or is not known. -/
def Abandoned (s : State) (path : String) : Prop :=
  ∃ end_ bound, s.tree.get (bytesOf path) = .ok (end_, .socket bound) ∧
    ∀ id, bound = some id → id < s.sockets.length ∧ (s.sock id).closed = true

/-- What a close takes away, and all that it takes away. -/
structure Released (fd : Descriptor) (path : String) (desk after : Desk State) : Prop where
  absent : after.kernel.contains path = false
  entries : ∀ fd', after.bound.lookup fd' = if fd' = fd then none else desk.bound.lookup fd'
  files : ∀ end_, desk.kernel.tree.resolve (bytesOf path) ≠ .ok end_ →
    after.kernel.tree.find? end_ = desk.kernel.tree.find? end_

/-- A name that nobody has: connections find nothing there, and it can be bound. -/
structure Available (place : Place) (path : String) (desk : Desk State) : Prop where
  refuses : ∀ fd a, place.pathFor a = .ok path → desk.kernel.socketOf? fd ≠ none →
    ((transport kernel place).handle (.connect fd a) desk).reply = .error (.os Errno.noEntry)
  welcomes : ∀ fd a id, place.pathFor a = .ok path → desk.kernel.socketOf? fd = some id →
    (desk.kernel.sock id).bound = false →
      ((transport kernel place).handle (.bind fd a) desk).reply = .ok ()

variable {place : Place} {fd : Descriptor} {a : Address} {desk desk' : Desk State}
  {path path' : String} {standing : Descriptor → Standing} {t t' : Tree} {id : Nat}

namespace Vacant

theorem sited (vacant : Vacant place path t) : Sited place path t := by
  obtain ⟨end_, leads, free⟩ := vacant.nothing
  refine { vacant with leads := ⟨end_, leads, ?_⟩ }
  rw [free]
  nofun

theorem missing (vacant : Vacant place path t) :
    t.get (bytesOf path) = .error Errno.noEntry := by
  obtain ⟨end_, leads, free⟩ := vacant.nothing
  exact Tree.get_missing leads free

theorem alike (vacant : Vacant place path t) (alike : t.AlikeBut (bytesOf path') t')
    (serves : place.Usable path') (other : path' ≠ path) : Vacant place path t' := by
  obtain ⟨end_, leads, free⟩ := vacant.nothing
  obtain ⟨a, writes⟩ := vacant.written
  obtain ⟨a', writes'⟩ := serves.written
  refine { vacant with nothing := ⟨end_, alike.even.resolve.mp leads, ?_⟩ }
  rw [alike.elsewhere, free]
  intro leads'
  exact other (Place.path_unique writes'.gives writes.gives leads' leads)

theorem errand {r : Except NativeError Unit} (vacant : Vacant place path desk.kernel.tree)
    (errand : Errand place fd a desk r desk')
    (spares : ¬Takes place path (.bind fd a) r) : Vacant place path desk'.kernel.tree := by
  obtain ⟨_, _, rfl, _⟩ | ⟨path', writes, proper, claimed⟩ := errand.settled vacant.sited.there
  · exact vacant
  by_cases same : path' = path
  · subst same
    cases r with
    | ok _ => exact absurd writes.gives spares
    | error e =>
      obtain ⟨end_, leads, free⟩ := vacant.nothing
      exact { vacant with
        nothing := ⟨end_, claimed.alike.even.resolve.mp leads, claimed.missing leads free⟩ }
  · exact vacant.alike claimed.alike ⟨⟨a, writes⟩, proper⟩ same

theorem closing {r : Except NativeError Unit} (vacant : Vacant place path desk.kernel.tree)
    (tracks : Tracks place standing desk) (closing : Closing fd desk r desk') :
    Vacant place path desk'.kernel.tree := by
  rw [closing.tree]
  cases own : desk.bound.lookup fd with
  | none =>
    rw [withoutFile_none own]
    exact vacant
  | some path' =>
    by_cases same : path' = path
    · subst same
      obtain ⟨t, removed, _⟩ | ⟨_, left⟩ := call_unlink desk.kernel path'
      · obtain ⟨_, _, taken, _⟩ := Tree.remove_ok.mp removed
        cases vacant.missing.symm.trans taken
      · rw [withoutFile_some own, left]
        exact vacant
    · exact vacant.alike (withoutFile_alike own) (tracks.sited own).toUsable same

theorem answer (vacant : Vacant place path desk.kernel.tree) (tracks : Tracks place standing desk)
    (r : Request) (spares : ¬Takes place path r ((transport kernel place).handle r desk).reply) :
    Vacant place path ((transport kernel place).handle r desk).state.kernel.tree := by
  have answered := answered tracks.whole place r
  generalize ((transport kernel place).handle r desk).reply = reply at answered spares
  generalize ((transport kernel place).handle r desk).state = desk' at answered ⊢
  have opened {reply : Except NativeError Descriptor} (opened : Opened desk reply desk') :
      Vacant place path desk'.kernel.tree := by
    cases opened with
    | refused e => exact vacant
    | opened stands => exact stands.tree.symm ▸ vacant
  cases answered with
  | created is => exact opened is
  | accepted is => exact opened is
  | bound errand => exact vacant.errand errand spares
  | closed closing => exact vacant.closing tracks closing
  | talked _ _ _ _ stands _ => exact stands.tree.symm ▸ vacant

end Vacant

/-- A place that was given up stays vacant until it is bound. -/
theorem Tracked.vacant {before : Descriptor → Standing} {first : Desk State}
    (tracked : Tracked (· = path) place before first standing desk)
    (begins : Tracks place before first) (vacant : Vacant place path first.kernel.tree) :
    Vacant place path desk.kernel.tree := by
  induction tracked with
  | start => exact vacant
  | answer earlier r _ spares ih => exact ih.answer (earlier.tracks begins) r (spares path rfl)
  | meanwhile _ elsewhere ih =>
    obtain ⟨end_, leads, free⟩ := ih.nothing
    exact { ih with nothing :=
      ⟨end_, elsewhere.even.resolve.mp leads, elsewhere.spares rfl leads free⟩ }

theorem vacant_withoutFile (tracks : Tracks place standing desk)
    (own : desk.bound.lookup fd = some path) :
    Vacant place path (withoutFile desk fd).kernel.tree := by
  have sited := tracks.sited own
  obtain ⟨end_, leads, file⟩ := sited.leads
  rw [withoutFile_some own]
  obtain ⟨t, removed, left⟩ | ⟨⟨code, fails⟩, left⟩ := call_unlink desk.kernel path
  · obtain ⟨_, _, taken, _⟩ := Tree.remove_ok.mp removed
    have gone := Tree.get_remove taken removed
    rw [left]
    exact { sited with nothing := ⟨_, gone⟩ }
  · rw [left]
    refine { sited with nothing := ⟨end_, leads, ?_⟩ }
    cases found : desk.kernel.tree.find? end_ with
    | none => rfl
    | some node =>
      have taken := Tree.get_ok.mpr ⟨leads, found⟩
      have removed := Tree.remove_ok.mpr
        ⟨end_, node, taken, fun is => file (found.trans (congrArg some is)), rfl⟩
      cases removed.symm.trans fails

theorem released {r : Except NativeError Unit} (tracks : Tracks place standing desk)
    (own : desk.bound.lookup fd = some path) (closing : Closing fd desk r desk') :
    Released fd path desk desk' where
  absent := by
    unfold State.contains Tree.contains
    rw [closing.tree, (vacant_withoutFile tracks own).missing]
    rfl
  entries fd' := by
    rw [closing.bound]
    exact lookup_filter ..
  files end_ other := by
    rw [closing.tree]
    exact (withoutFile_alike own).elsewhere other

theorem bind_ok {r : Except NativeError Unit} (errand : Errand place fd a desk r desk')
    (writes : place.Writes a path) (there : place.There desk.kernel.tree)
    (has : desk.kernel.socketOf? fd = some id)
    (unnamed : (desk.kernel.sock id).bound = false)
    (leads : ∃ end_, desk.kernel.tree.resolve (bytesOf path) = .ok end_)
    (clear : ∀ {end_ node}, desk.kernel.tree.get (bytesOf path) = .ok (end_, node) →
      node ≠ .directory ∧ Refused (UnixDomain.probe path desk.kernel).1) : r = .ok () := by
  obtain ⟨_, _, _, no⟩ | ⟨path', writes', _, claimed⟩ := errand.settled there
  · exact absurd writes (no path)
  cases writes.gives.symm.trans writes'.gives
  obtain ⟨end_, leads⟩ := leads
  cases claimed with
  | bound names => rfl
  | replaced refused removed names => rfl
  | failed other names =>
    cases names with
    | closed none => cases has.symm.trans none
    | lost nowhere => cases leads.symm.trans nowhere
    | taken _ _ => exact absurd rfl other
    | named has' bound _ =>
      cases has.symm.trans has'
      cases unnamed.symm.trans bound
  | kept taken stays =>
    obtain ⟨file, refused⟩ := clear taken
    obtain ⟨code, fails⟩ := stays refused
    cases (Tree.remove_ok.mpr ⟨_, _, taken, file, rfl⟩).symm.trans fails
  | cleared refused removed has' named =>
    cases has.symm.trans has'
    cases unnamed.symm.trans named

theorem Vacant.available (vacant : Vacant place path desk.kernel.tree) (h : desk.kernel.Whole) :
    Available place path desk where
  refuses fd a gives open_ := by
    obtain ⟨_, writes⟩ := vacant.written
    have writes : place.Writes a path := ⟨gives, writes.fits⟩
    obtain ⟨id, has⟩ := Option.ne_none_iff_exists'.mp open_
    have whole := Sockaddr.pathOf_path vacant.proper writes.fits
    have fails : kernel.call (.connect fd (Sockaddr.path (bytesOf path))) desk.kernel =
        (.error Errno.noEntry, desk.kernel) :=
      State.run_connect_error has (by rw [whole]; exact vacant.missing)
    change (connect kernel place fd a (desk, [])).1 = _
    unfold connect
    rw [writes.sockaddr, Native.run_bind_ok (run_lift _ _), Native.run_syscall_error fails]
  welcomes fd a id gives has unnamed := by
    obtain ⟨_, writes⟩ := vacant.written
    obtain ⟨end_, leads, _⟩ := vacant.nothing
    refine bind_ok (Loopback.errand h.named place fd a [] h.known) ⟨gives, writes.fits⟩
      vacant.sited.there has unnamed ⟨end_, leads⟩ fun taken => ?_
    cases vacant.missing.symm.trans taken

theorem bind_abandoned (abandoned : Abandoned desk.kernel path) (h : desk.kernel.Whole)
    (writes : place.Writes a path) (has : desk.kernel.socketOf? fd = some id)
    (unnamed : (desk.kernel.sock id).bound = false) :
    ((transport kernel place).handle (.bind fd a) desk).reply = .ok () := by
  obtain ⟨end_, bound, led, closed⟩ := abandoned
  refine bind_ok (errand h.named place fd a [] h.known) writes
    (Place.directory_of_path writes.gives led) has unnamed ⟨end_, (Tree.get_ok.mp led).1⟩
    fun taken => ?_
  cases led.symm.trans taken
  exact ⟨nofun, _, State.probe_nobody led fun id is => closed id (Node.socket.inj is), rfl⟩

/-- Along every run the desk's list is what the answers tell: the open descriptors that were
bound with success, each with the path of its address.  Closing one of them removes its file and
its entry and no other; until the path is taken again, connections to it fail and binds to it
succeed.  They also succeed where a file was left behind. -/
theorem names_tracked_and_released {s : State} (whole : s.Whole)
    (tracked : Tracked (fun _ => False) place (strange s) { kernel := s } standing desk) :
    (∀ fd, desk.kernel.socketOf? fd ≠ none ↔ standing fd ≠ .closed) ∧
      (∀ fd path, desk.bound.lookup fd = some path ↔
        ∃ a, standing fd = .bound a ∧ place.pathFor a = .ok path) ∧
      (∀ fd a e, ((transport kernel place).handle (.bind fd a) desk).reply = .error e →
        ((transport kernel place).handle (.bind fd a) desk).state.bound = desk.bound) ∧
      (∀ fd path, desk.bound.lookup fd = some path →
        let answer := (transport kernel place).handle (.close fd) desk
        answer.reply = .ok () ∧ Released fd path desk answer.state ∧
          ∀ standing' later, Tracked (· = path) place (mark standing (.close fd) answer.reply)
            answer.state standing' later → Available place path later) ∧
      ∀ fd a path id, Abandoned desk.kernel path → place.Writes a path →
        desk.kernel.socketOf? fd = some id → (desk.kernel.sock id).bound = false →
          ((transport kernel place).handle (.bind fd a) desk).reply = .ok () := by
  have tracks := tracked.tracks (tracks_start whole)
  refine ⟨tracks.opened, tracks.bound, fun fd a e fails => ?_, fun fd path own => ?_,
    fun fd a path id abandoned writes has unnamed =>
      bind_abandoned abandoned tracks.whole writes has unnamed⟩
  · have errand := errand tracks.whole.named place fd a [] tracks.whole.known
    have error : Errand place fd a desk (.error e)
        ((transport kernel place).handle (.bind fd a) desk).state := fails ▸ errand
    exact error.bound_error
  · have closing := closing tracks.whole fd []
    have open_ : desk.kernel.socketOf? fd ≠ none := by
      obtain ⟨a, is, _⟩ := (tracks.bound fd path).mp own
      rw [tracks.opened fd, is]
      nofun
    refine ⟨closing.ok open_, released tracks own closing, fun standing' later tracked => ?_⟩
    have after := tracks.closes closing
    have vacant : Vacant place path
        ((transport kernel place).handle (.close fd) desk).state.kernel.tree :=
      closing.tree.symm ▸ vacant_withoutFile tracks own
    -- Nothing but a bind to the path could take it, and such binds are left out until then.
    exact (tracked.vacant after vacant).available (tracked.tracks after).whole

theorem Tracked.all {before : Descriptor → Standing} {first : Desk State}
    (tracked : Tracked (fun _ => False) place before first standing desk)
    {requests : List Request} (free : Fairly
      (fun desk _ => desk.kernel.socketOf? desk.kernel.next = none) place desk requests) :
    ∃ standing', Tracked (fun _ => False) place before first standing'
      (served place desk requests) := by
  induction requests generalizing standing desk with
  | nil => exact ⟨standing, tracked⟩
  | cons r rest ih => exact ih (tracked.answer r free.1 nofun) free.2

def recounted (desk : Desk State) : Desk State :=
  { desk with kernel := { desk.kernel with next := 3 } }

theorem names_tracked_and_released_again :
    let desk := served .beside (recounted (served .beside { kernel := {} }
      [.create 1 0, .bind 3 (.here "a"), .close 3])) [.create 1 0, .bind 3 (.here "b")]
    desk.bound = [(3, "s/ap:b")] ∧
      Released 3 "s/ap:b" desk ((transport kernel .beside).handle (.close 3) desk).state := by
  intro desk
  have named : ({} : Tree).Named := fun _ mem => by cases mem
  have whole : ({} : State).Whole := State.whole_start named
  have begun : Tracked (fun _ => False) .beside (strange {}) { kernel := {} } (strange {})
    { kernel := {} } := .start
  obtain ⟨_, once⟩ : ∃ standing, Tracked (fun _ => False) .beside (strange {}) { kernel := {} }
      standing (served .beside { kernel := {} } [.create 1 0, .bind 3 (.here "a"), .close 3]) :=
    begun.all ⟨by decide +kernel, by decide +kernel, by decide +kernel, trivial⟩
  have left := (once.tracks (tracks_start whole)).whole
  have recount := once.meanwhile (s := (recounted _).kernel)
    ⟨⟨left.known, left.queued, left.named⟩, id, .refl _, fun no => no.elim⟩
  obtain ⟨_, again⟩ : ∃ standing, Tracked (fun _ => False) .beside (strange {}) { kernel := {} }
      standing desk :=
    recount.all ⟨by decide +kernel, by decide +kernel, trivial⟩
  have holds : desk.bound = [(3, "s/ap:b")] := by decide +kernel
  have result := names_tracked_and_released whole again
  exact ⟨holds, (result.2.2.2.1 3 "s/ap:b" (congrArg (·.lookup 3) holds)).2.1⟩

end ProcessorSockets.Loopback
