import ProcessorSockets.Proofs.Transport.Service

/-! Who holds which name.  A name is with one descriptor as long as nobody binds a name whose
holder refuses connections: such a name is taken over, and its holder is not told. -/

namespace ProcessorSockets.Loopback

open FileTree (Path Node Tree)
open UnixDomain (State kernel)

variable {place : Place} {fd fd' : Descriptor} {a : Address} {desk : Desk State}
  {notes : List Note} {path : String} {t : Tree}

/-- A desk that knows who holds which file, all of them files of addresses. -/
structure Tidy (place : Place) (desk : Desk State) : Prop where
  serves : desk.kernel.Serves desk.bound
  written : ∀ p ∈ desk.bound, ∃ a, place.Writes a p.2

/-- Whether a bind meets a name whose holder refuses connections. -/
def Usurps (place : Place) (desk : Desk State) : Request → Prop
  | .bind _ a => ∃ p ∈ desk.bound, place.pathFor a = .ok p.2 ∧
      ∃ id ∈ desk.kernel.socketOf? p.1, (desk.kernel.sock id).Refuses
  | _ => False

instance : Decidable (Usurps place desk (.bind fd a)) :=
  inferInstanceAs (Decidable (∃ p ∈ desk.bound, _ ∧ _))

theorem refuses_of_refused {s : State} {end_ : Path} {id : Nat}
    (refused : Refused (UnixDomain.probe path s).1)
    (leads : s.tree.get (bytesOf path) = .ok (end_, .socket (some id)))
    (alive : (s.sock id).closed = false) (inside : id < s.sockets.length) :
    (s.sock id).Refuses := by
  obtain ⟨code, fails, refused⟩ := refused
  exact State.refuses_of_probe leads alive inside fails refused

theorem mem_of_lookup {held : List (Descriptor × String)} (has : held.lookup fd = some path) :
    (fd, path) ∈ held := by
  obtain ⟨front, back, rfl, _⟩ := List.lookup_eq_some_iff.mp has
  simp

namespace Tidy

theorem alone (tidy : Tidy place desk) (first : (fd, path) ∈ desk.bound)
    (second : (fd', path) ∈ desk.bound) : fd' = fd := by
  obtain ⟨id, end_, led⟩ := tidy.serves.holds _ first
  obtain ⟨id', end_', led'⟩ := tidy.serves.holds _ second
  cases led.leads.symm.trans led'.leads
  exact led.alone tidy.serves.orderly led'

theorem spared (tidy : Tidy place desk) (fair : ¬Usurps place desk (.bind fd a)) :
    Spared place a desk.bound desk := by
  intro path t writes grows refused p id end_ node mem led taken
  obtain ⟨a', writes'⟩ := tidy.written p mem
  have same : path = p.2 := Place.path_unique writes.gives writes'.gives
    (Tree.get_ok.mp taken).1 (Tree.get_ok.mp led.leads).1
  subst same
  have grown := (withTree_serves tidy.serves grows).orderly
  have refuses := refuses_of_refused refused led.leads (grown.alive led.has) (grown.known led.has)
  exact fair ⟨p, mem, writes.gives, id, led.has, refuses⟩

theorem bind (tidy : Tidy place desk) (fair : ¬Usurps place desk (.bind fd a)) :
    Tidy place (Loopback.bind kernel place fd a (desk, notes)).2.1 := by
  have course := course tidy.serves.orderly place fd a notes
  have serves := course.serves tidy.serves (tidy.spared fair)
  generalize (Loopback.bind kernel place fd a (desk, notes)).1 = r at course
  generalize (Loopback.bind kernel place fd a (desk, notes)).2.1 = desk' at course serves ⊢
  have more {s : State} {path : String} (writes : place.Writes a path)
      (serves : s.Serves desk.bound) (holds : s.Holds fd path) :
      Tidy place { kernel := s, bound := (fd, path) :: desk.bound.filter (·.1 ≠ fd) } := by
    refine ⟨⟨serves.orderly, fun p mem => ?_⟩, fun p mem => ?_⟩
    · cases mem with
      | head => exact holds
      | tail _ old => exact serves.holds p (List.mem_filter.mp old).1
    · cases mem with
      | head => exact ⟨a, writes⟩
      | tail _ old => exact tidy.written p (List.mem_filter.mp old).1
  cases course with
  | invalid no => exact tidy
  | astray grows missing => exact ⟨serves, tidy.written⟩
  | bound writes proper grows names =>
    exact more writes serves (names.holds (withTree_serves tidy.serves grows) rfl)
  | failed writes grows other names => exact ⟨serves, tidy.written⟩
  | kept writes grows taken stays => exact ⟨serves, tidy.written⟩
  | cleared writes grows refused removed has named => exact ⟨serves, tidy.written⟩
  | replaced writes proper grows refused removed names =>
    have left := cleared_serves tidy.serves (tidy.spared fair) writes grows refused removed
    exact more writes serves (names.holds left rfl)

theorem close (tidy : Tidy place desk) (fd : Descriptor) :
    Tidy place (Loopback.close kernel fd (desk, notes)).2.1 := by
  have others {path : String} (own : desk.bound.lookup fd = some path) {p : Descriptor × String}
      {id : Nat} {end_ : Path} {node : Node} (mem : p ∈ desk.bound.filter (·.1 ≠ fd))
      (led : desk.kernel.Leads p.1 p.2 id end_) :
      desk.kernel.tree.get (bytesOf path) ≠ .ok (end_, node) := by
    intro taken
    obtain ⟨id', end_', led'⟩ := tidy.serves.holds _ (mem_of_lookup own)
    cases led'.leads.symm.trans taken
    have same := led'.alone tidy.serves.orderly led
    simpa [same] using (List.mem_filter.mp mem).2
  have serves := close_serves tidy.serves notes fun path own _ _ _ _ => others own
  rw [desk_close] at serves ⊢
  exact ⟨serves, fun p mem => tidy.written p (List.mem_filter.mp mem).1⟩

theorem answer (tidy : Tidy place desk) {r : Request} (fair : ¬Usurps place desk r) :
    Tidy place ((transport kernel place).handle r desk).state := by
  change Tidy place (Native.handle kernel (steps kernel place) r (desk, [])).2.1
  have others (names : ∀ fd a, r ≠ .bind fd a) (lasts : ∀ fd, r ≠ .close fd) :
      Tidy place (Native.handle kernel (steps kernel place) r (desk, [])).2.1 := by
    have kept : Minds desk.bound desk.bound
      (Native.handle kernel (steps kernel place) r (desk, [])).2.1 :=
      keeps_handle names lasts (desk, []) ⟨tidy.serves, rfl⟩
    refine ⟨?_, fun p mem => tidy.written p (kept.bound ▸ mem)⟩
    rw [kept.bound]
    exact kept.serves
  cases r with
  | bind fd a => exact tidy.bind fair
  | close fd => exact tidy.close fd
  | _ => exact others nofun nofun

theorem keeps {holder : Descriptor} (tidy : Tidy place desk) (gives : place.pathFor a = .ok path)
    (holds : (holder, path) ∈ desk.bound) (fair : ¬Usurps place desk (.bind fd a)) :
    (∃ e, (Loopback.bind kernel place fd a (desk, notes)).1 = .error e) ∧
      (Loopback.bind kernel place fd a (desk, notes)).2.1.bound = desk.bound := by
  have course := course tidy.serves.orderly place fd a notes
  generalize (Loopback.bind kernel place fd a (desk, notes)).1 = r at course ⊢
  generalize (Loopback.bind kernel place fd a (desk, notes)).2.1 = desk' at course ⊢
  obtain ⟨id, end_, led⟩ := tidy.serves.holds _ holds
  cases course with
  | invalid no => exact ⟨⟨_, rfl⟩, rfl⟩
  | astray grows missing => exact ⟨⟨_, rfl⟩, rfl⟩
  | failed writes grows other names => exact ⟨⟨_, rfl⟩, rfl⟩
  | kept writes grows taken stays => exact ⟨⟨_, rfl⟩, rfl⟩
  | cleared writes grows refused removed has named => exact ⟨⟨_, rfl⟩, rfl⟩
  | bound writes proper grows names =>
    cases gives.symm.trans writes.gives
    exact absurd (grows.get led.leads) (names.free _ _)
  | replaced writes proper grows refused removed names =>
    cases gives.symm.trans writes.gives
    have led' := withTree_leads led grows
    exact absurd led'.leads (tidy.spared fair _ _ writes grows refused holds led')

theorem loses {holder : Descriptor} (tidy : Tidy place desk) (notes : List Note)
    (gives : place.pathFor a = .ok path) (holds : (holder, path) ∈ desk.bound) {id id' : Nat}
    (has : desk.kernel.socketOf? holder = some id) (refuses : (desk.kernel.sock id).Refuses)
    (has' : desk.kernel.socketOf? fd = some id') (unnamed : (desk.kernel.sock id').bound = false) :
    (Loopback.bind kernel place fd a (desk, notes)).1 = .ok () ∧
      (Loopback.bind kernel place fd a (desk, notes)).2.1.bound =
        (fd, path) :: desk.bound.filter (·.1 ≠ fd) := by
  have orderly := tidy.serves.orderly
  have course := course orderly place fd a notes
  generalize (Loopback.bind kernel place fd a (desk, notes)).1 = r at course ⊢
  generalize (Loopback.bind kernel place fd a (desk, notes)).2.1 = desk' at course ⊢
  obtain ⟨a', writes'⟩ := tidy.written _ holds
  obtain ⟨_, end_, led⟩ := tidy.serves.holds _ holds
  cases has.symm.trans led.has
  have refused {t : Tree} (grows : desk.kernel.tree.Grows t) :
      Refused (UnixDomain.probe path (withTree desk t).kernel).1 :=
    ⟨_, State.probe_refused (s := (withTree desk t).kernel) (grows.get led.leads)
      (orderly.alive has) (orderly.known has) refuses, rfl⟩
  -- The probe is refused, the file is there to be removed, and the socket is still without a name:
  -- all other ways for the bind to go are excluded.
  cases course with
  | invalid no => exact absurd ⟨gives, writes'.fits⟩ (no path)
  | astray grows missing => exact absurd (Place.directory_of_path gives led.leads) missing
  | bound writes proper grows names =>
    cases gives.symm.trans writes.gives
    exact ⟨rfl, rfl⟩
  | failed writes grows other names =>
    cases gives.symm.trans writes.gives
    have there := grows.get led.leads
    cases names with
    | closed none => cases has'.symm.trans none
    | lost nowhere => cases (Tree.get_ok.mp there).1.symm.trans nowhere
    | taken _ _ => exact absurd rfl other
    | named has'' bound missing => exact absurd there (missing _ _)
  | kept writes grows taken stays =>
    cases gives.symm.trans writes.gives
    obtain ⟨code, fails⟩ := stays (refused grows)
    have removed := Tree.remove_ok.mpr ⟨_, _, grows.get led.leads, nofun, rfl⟩
    cases removed.symm.trans fails
  | cleared writes grows refused removed has'' named =>
    cases has'.symm.trans has''
    cases unnamed.symm.trans named
  | replaced writes proper grows refused removed names =>
    cases gives.symm.trans writes.gives
    exact ⟨rfl, rfl⟩

theorem shared {holder : Descriptor} (tidy : Tidy place desk) (gives : place.pathFor a = .ok path)
    (holds : desk.bound.lookup holder = some path) (usurps : Usurps place desk (.bind fd a))
    {id : Nat}
    (has : desk.kernel.socketOf? fd = some id) (unnamed : (desk.kernel.sock id).bound = false) :
    (Loopback.bind kernel place fd a (desk, notes)).1 = .ok () ∧
      (Loopback.bind kernel place fd a (desk, notes)).2.1.bound.lookup fd = some path ∧
        (Loopback.bind kernel place fd a (desk, notes)).2.1.bound.lookup holder = some path := by
  obtain ⟨p, mem, gives', id', has', refuses⟩ := usurps
  have mem' := mem_of_lookup holds
  obtain ⟨fd', path'⟩ := p
  cases gives.symm.trans gives'
  cases tidy.alone mem mem'
  have other : holder ≠ fd := by
    rintro rfl
    obtain ⟨id'', _, led⟩ := tidy.serves.holds _ mem'
    cases has.symm.trans led.has
    cases unnamed.symm.trans led.bound
  obtain ⟨gives, list⟩ := tidy.loses notes gives mem' has' refuses has unnamed
  refine ⟨gives, ?_, ?_⟩
  · rw [list, List.lookup_cons_self]
  · rw [list, List.lookup_cons, show (holder == fd) = false by simpa using other]
    exact (lookup_filter ..).trans (by rw [if_neg other, holds])

end Tidy

theorem tidy_start (place : Place) (named : t.Named) : Tidy place { kernel := { tree := t } } :=
  ⟨⟨State.orderly_start named, nofun⟩, nofun⟩

/-- No name has two holders while none is usurped.  A bind to a name that is held fails and
leaves the desk's list as it was, unless it usurps the name: then both descriptors are in the
list with one file. -/
theorem names_have_one_holder (named : t.Named)
    (serviced : Serviced (fun desk r => ¬Usurps place desk r) place
      { kernel := { tree := t } } desk) :
    (∀ fd fd' path,
      desk.bound.lookup fd = some path → desk.bound.lookup fd' = some path → fd' = fd) ∧
      (∀ fd path, desk.bound.lookup fd = some path → desk.kernel.Holds fd path) ∧
        ∀ fd a path holder, place.pathFor a = .ok path → desk.bound.lookup holder = some path →
          let answer := (transport kernel place).handle (.bind fd a) desk
          (¬Usurps place desk (.bind fd a) →
            (∃ e, answer.reply = .error e) ∧ answer.state.bound = desk.bound) ∧
          (Usurps place desk (.bind fd a) → ∀ id, desk.kernel.socketOf? fd = some id →
            (desk.kernel.sock id).bound = false →
              answer.reply = .ok () ∧ answer.state.bound.lookup fd = some path ∧
                answer.state.bound.lookup holder = some path) := by
  have tidy : Tidy place desk :=
    serviced.invariant (tidy_start place named) (fun desk r tidy fair => tidy.answer fair)
      fun desk next tidy => { tidy with serves := renumbered_serves tidy.serves next }
  refine ⟨?_, ?_, ?_⟩
  · intro fd fd' path first second
    exact tidy.alone (mem_of_lookup first) (mem_of_lookup second)
  · intro fd path holds
    exact tidy.serves.holds _ (mem_of_lookup holds)
  · intro fd a path holder gives holds
    exact ⟨tidy.keeps gives (mem_of_lookup holds), fun usurps id => tidy.shared gives holds usurps⟩

theorem names_have_one_holder_listening :
    (served .beside { kernel := {} }
      [.create 1 0, .bind 3 (.here "a"), .listen 3 4, .create 1 0]).bound =
        [(3, "s/ap:a")] ∧
      ∃ e, ((transport kernel .beside).handle (.bind 4 (.here "a"))
        (served .beside { kernel := {} }
          [.create 1 0, .bind 3 (.here "a"), .listen 3 4, .create 1 0])).reply = .error e := by
  have fairly : Fairly (fun desk r => ¬Usurps .beside desk r) .beside { kernel := {} }
      [.create 1 0, .bind 3 (.here "a"), .listen 3 4, .create 1 0] :=
    ⟨id, by decide +kernel, id, id, trivial⟩
  have named : ({} : Tree).Named := fun _ mem => by cases mem
  have result := names_have_one_holder named (Serviced.start.all fairly)
  exact ⟨by decide +kernel, ((result.2.2 4 (.here "a") "s/ap:a" 3 (by decide +kernel)
    (by decide +kernel)).1 (by decide +kernel)).1⟩

/-- A socket that does not listen shares its name with the next one that binds it. -/
theorem names_have_two_holders : ∃ (place : Place) (requests : List Request) (path : String),
    (served place { kernel := {} } requests).kernel.socketOf? 3 ≠ none ∧
      (served place { kernel := {} } requests).kernel.socketOf? 4 ≠ none ∧
        (served place { kernel := {} } requests).bound.lookup 3 = some path ∧
          (served place { kernel := {} } requests).bound.lookup 4 = some path :=
  ⟨.beside, [.create 1 0, .bind 3 (.here "a"), .create 1 0, .bind 4 (.here "a")], "s/ap:a",
    by decide +kernel, by decide +kernel, by decide +kernel, by decide +kernel⟩

end ProcessorSockets.Loopback
