import ProcessorSockets.Proofs.Transport.Answers

/-! What the answers of the loopback transport tell of its descriptors, and what its desk knows:
a descriptor is open from the answer that gave it out to its close, and it is in the desk's list
from its successful bind to its close.  The kernel may give out any number that is free. -/

namespace ProcessorSockets.Loopback

open FileTree (Path Node Tree)
open UnixDomain (State kernel)

inductive Standing
  | closed
  | opened
  /-- Bound to an address, with success. -/
  | bound (a : Address)
  deriving DecidableEq

def mark (standing : Descriptor → Standing) :
    (r : Request) → Except NativeError r.Reply → Descriptor → Standing
  | .create _ _, .ok fd => Function.update standing fd .opened
  | .accept _, .ok fd => Function.update standing fd .opened
  | .bind fd a, .ok _ => Function.update standing fd (.bound a)
  | .close fd, _ => Function.update standing fd .closed
  | _, _ => standing

def Takes (place : Place) (path : String) : (r : Request) → Except NativeError r.Reply → Prop
  | .bind _ a, .ok _ => place.pathFor a = .ok path
  | _, _ => False

def strange (s : State) (fd : Descriptor) : Standing :=
  if s.socketOf? fd = none then .closed else .opened

/-- What the rest of the system may do in between: talk, open descriptors, make and remove
files, and say which number comes next.  It closes none of the descriptors, leaves the
directories, and keeps off some paths. -/
structure Elsewhere (spared : String → Prop) (s s' : State) : Prop where
  whole : s'.Whole
  opens : ∀ {fd id}, s.socketOf? fd = some id → s'.socketOf? fd = some id
  even : s.tree.Even s'.tree
  spares : ∀ {path end_}, spared path → s.tree.resolve (bytesOf path) = .ok end_ →
    s.tree.find? end_ = none → s'.tree.find? end_ = none

/-- Requests to the transport, one after another, with what their answers tell.  The number of
a descriptor that was closed may come back. -/
inductive Tracked (spared : String → Prop) (place : Place) (before : Descriptor → Standing)
    (first : Desk State) : (Descriptor → Standing) → Desk State → Prop
  | start : Tracked spared place before first before first
  | answer {standing : Descriptor → Standing} {desk : Desk State}
      (tracked : Tracked spared place before first standing desk) (r : Request)
      (free : desk.kernel.socketOf? desk.kernel.next = none)
      (spares : ∀ path, spared path →
        ¬Takes place path r ((transport kernel place).handle r desk).reply) :
      Tracked spared place before first
        (mark standing r ((transport kernel place).handle r desk).reply)
        ((transport kernel place).handle r desk).state
  | meanwhile {standing : Descriptor → Standing} {desk : Desk State}
      (tracked : Tracked spared place before first standing desk) {s : State}
      (elsewhere : Elsewhere spared desk.kernel s) :
      Tracked spared place before first
        (fun fd => if standing fd = .closed then strange s fd else standing fd)
        { desk with kernel := s }

structure Place.Usable (place : Place) (path : String) : Prop where
  written : ∃ a, place.Writes a path
  proper : 0 ∉ bytesOf path

structure Sited (place : Place) (path : String) (t : Tree) : Prop extends place.Usable path where
  leads : ∃ end_, t.resolve (bytesOf path) = .ok end_ ∧ t.find? end_ ≠ some .directory

/-- What the desk knows is what the answers told. -/
structure Tracks (place : Place) (standing : Descriptor → Standing) (desk : Desk State) : Prop where
  whole : desk.kernel.Whole
  opened : ∀ fd, desk.kernel.socketOf? fd ≠ none ↔ standing fd ≠ .closed
  bound : ∀ fd path, desk.bound.lookup fd = some path ↔
    ∃ a, standing fd = .bound a ∧ place.pathFor a = .ok path
  sited : ∀ {fd path}, desk.bound.lookup fd = some path → Sited place path desk.kernel.tree

variable {place : Place} {fd : Descriptor} {a : Address} {desk desk' : Desk State} {path : String}
  {standing : Descriptor → Standing} {t t' : Tree}

theorem strange_open (s : State) (fd : Descriptor) :
    strange s fd ≠ .closed ↔ s.socketOf? fd ≠ none := by
  unfold strange
  split
  · simp_all
  · simp_all

theorem strange_bound (s : State) (fd : Descriptor) (a : Address) : strange s fd ≠ .bound a := by
  unfold strange
  split <;> nofun

theorem tracks_start {s : State} (whole : s.Whole) : Tracks place (strange s) { kernel := s } where
  whole := whole
  opened fd := (strange_open s fd).symm
  bound fd path := by
    constructor
    · nofun
    · rintro ⟨a, is, _⟩
      exact absurd is (strange_bound s fd a)
  sited := nofun

theorem Sited.there (sited : Sited place path t) : place.There t := by
  obtain ⟨_, writes⟩ := sited.written
  obtain ⟨_, leads, _⟩ := sited.leads
  exact Place.directory_of_resolve writes.gives leads

theorem Sited.even (sited : Sited place path t) (even : t.Even t') : Sited place path t' := by
  obtain ⟨end_, leads, file⟩ := sited.leads
  exact { sited with leads := ⟨end_, even.resolve.mp leads, fun is => file ((even end_).mpr is)⟩ }

namespace Tracks

theorem meanwhile (tracks : Tracks place standing desk) {spared : String → Prop} {s : State}
    (elsewhere : Elsewhere spared desk.kernel s) :
    Tracks place (fun fd => if standing fd = .closed then strange s fd else standing fd)
      { desk with kernel := s } where
  whole := elsewhere.whole
  opened fd := by
    by_cases closed : standing fd = .closed
    · simpa only [if_pos closed] using (strange_open s fd).symm
    · simp only [if_neg closed]
      obtain ⟨id, has⟩ := Option.ne_none_iff_exists'.mp ((tracks.opened fd).mpr closed)
      simp [elsewhere.opens has, closed]
  bound fd path := by
    by_cases closed : standing fd = .closed
    · simp only [if_pos closed]
      rw [tracks.bound fd path, closed]
      simp [strange_bound]
    · simp only [if_neg closed]
      exact tracks.bound fd path
  sited own := (tracks.sited own).even elsewhere.even

theorem stands (tracks : Tracks place standing desk)
    (stands : desk'.kernel.Stands desk.kernel.tree desk.kernel.descriptors)
    (bound : desk'.bound = desk.bound) : Tracks place standing desk' where
  whole := stands.whole
  opened fd := by
    unfold State.socketOf?
    rw [stands.descriptors]
    exact tracks.opened fd
  bound fd path := by
    rw [bound]
    exact tracks.bound fd path
  sited own := by
    rw [bound] at own
    rw [stands.tree]
    exact tracks.sited own

theorem opens (tracks : Tracks place standing desk)
    (free : desk.kernel.socketOf? desk.kernel.next = none) {s : State} {id : Nat}
    (stands : s.Stands desk.kernel.tree (desk.kernel.descriptors ++ [(desk.kernel.next, id)])) :
    Tracks place (Function.update standing desk.kernel.next .opened) { desk with kernel := s } := by
  have closed : standing desk.kernel.next = .closed := by
    by_contra open_
    exact (tracks.opened _).mpr open_ free
  have table (fd : Descriptor) : s.socketOf? fd =
      (desk.kernel.descriptors ++ [(desk.kernel.next, id)]).lookup fd :=
    congrArg (·.lookup fd) stands.descriptors
  refine ⟨stands.whole, fun fd => ?_, fun fd path => ?_, fun own => ?_⟩
  · change s.socketOf? fd ≠ none ↔ _
    rw [table, List.lookup_append]
    by_cases new : fd = desk.kernel.next
    · subst new
      simp
    · have other : (fd == desk.kernel.next) = false := by simpa using new
      rw [Function.update_of_ne new, List.lookup_cons, other, List.lookup_nil, Option.or_none]
      exact tracks.opened fd
  · change desk.bound.lookup fd = some path ↔ _
    by_cases new : fd = desk.kernel.next
    · subst new
      rw [tracks.bound, closed]
      simp
    · rw [Function.update_of_ne new]
      exact tracks.bound fd path
  · have sited := tracks.sited own
    rw [← stands.tree] at sited
    exact sited

theorem closes (tracks : Tracks place standing desk) {reply : Except NativeError Unit}
    (closing : Closing fd desk reply desk') :
    Tracks place (Function.update standing fd .closed) desk' := by
  refine ⟨closing.whole, fun fd' => ?_, fun fd' path => ?_, fun own => ?_⟩
  · rw [closing.socketOf?]
    by_cases same : fd' = fd
    · simp [same]
    · rw [if_neg same, Function.update_of_ne same]
      exact tracks.opened fd'
  · rw [closing.bound, lookup_filter]
    by_cases same : fd' = fd
    · simp [same]
    · rw [if_neg same, Function.update_of_ne same]
      exact tracks.bound fd' path
  · rename_i fd' path
    rw [closing.bound, lookup_filter] at own
    split at own
    · cases own
    have sited := tracks.sited own
    rw [closing.tree]
    cases lost : desk.bound.lookup fd with
    | none =>
      rw [withoutFile_none lost]
      exact sited
    | some _ => exact sited.even (withoutFile_alike lost).even

theorem sited_errand {r : Except NativeError Unit} (errand : Errand place fd a desk r desk')
    (sited : Sited place path desk.kernel.tree) : Sited place path desk'.kernel.tree := by
  obtain ⟨_, _, rfl, _⟩ | ⟨_, _, _, claimed⟩ := errand.settled sited.there
  · exact sited
  · exact sited.even claimed.alike.even

theorem fails (tracks : Tracks place standing desk) {e : NativeError}
    (errand : Errand place fd a desk (.error e) desk') : Tracks place standing desk' where
  whole := errand.whole tracks.whole
  opened fd' := by
    rw [errand.socketOf?]
    exact tracks.opened fd'
  bound fd' path := by
    rw [errand.bound_error]
    exact tracks.bound fd' path
  sited own := by
    rw [errand.bound_error] at own
    exact sited_errand errand (tracks.sited own)

theorem binds (tracks : Tracks place standing desk)
    (errand : Errand place fd a desk (.ok ()) desk') :
    Tracks place (Function.update standing fd (.bound a)) desk' := by
  have kept {path : String} (sited : Sited place path desk.kernel.tree) :=
    sited_errand errand sited
  have whole := errand.whole tracks.whole
  have table := errand.socketOf?
  cases errand with
  | @claimed path t _ _ writes proper grows _ claimed =>
    have list : desk'.bound = (fd, path) :: desk.bound.filter (·.1 ≠ fd) := claimed.bound_ok
    -- The new entry is in front of any older one of the same descriptor.
    have found (fd' : Descriptor) : desk'.bound.lookup fd' =
        if fd' = fd then some path else desk.bound.lookup fd' := by
      rw [list]
      by_cases same : fd' = fd
      · rw [if_pos same, same, List.lookup_cons_self]
      · rw [if_neg same, List.lookup_cons, show (fd' == fd) = false by simpa using same]
        exact (lookup_filter ..).trans (if_neg same)
    refine ⟨whole, fun fd' => ?_, fun fd' path' => ?_, fun own => ?_⟩
    · rw [table]
      by_cases same : fd' = fd
      · simpa [same] using claimed.open_
      · rw [Function.update_of_ne same]
        exact tracks.opened fd'
    · rw [found]
      by_cases same : fd' = fd
      · subst same
        rw [if_pos rfl, Function.update_self]
        constructor
        · intro is
          exact ⟨a, rfl, writes.gives.trans (congrArg _ (Option.some.inj is))⟩
        · rintro ⟨_, same, gives⟩
          cases same
          exact congrArg some (Except.ok.inj (writes.gives.symm.trans gives))
      · rw [if_neg same, Function.update_of_ne same]
        exact tracks.bound fd' path'
    · rw [found] at own
      split at own
      · cases own
        obtain ⟨end_, bound, there⟩ := claimed.leads
        obtain ⟨leads, found⟩ := Tree.get_ok.mp there
        refine ⟨⟨⟨a, writes⟩, proper⟩, end_, leads, ?_⟩
        rw [found]
        nofun
      · exact kept (tracks.sited own)

theorem answer (tracks : Tracks place standing desk)
    (free : desk.kernel.socketOf? desk.kernel.next = none) (r : Request) :
    Tracks place (mark standing r ((transport kernel place).handle r desk).reply)
      ((transport kernel place).handle r desk).state := by
  have answered := answered tracks.whole place r
  generalize ((transport kernel place).handle r desk).reply = reply at answered ⊢
  generalize ((transport kernel place).handle r desk).state = desk' at answered ⊢
  cases answered with
  | created opened =>
    cases opened with
    | refused e => exact tracks
    | opened stands => exact tracks.opens free stands
  | accepted opened =>
    cases opened with
    | refused e => exact tracks
    | opened stands => exact tracks.opens free stands
  | @bound _ _ reply _ errand =>
    cases reply with
    | ok _ => exact tracks.binds errand
    | error e => exact tracks.fails errand
  | closed closing => exact tracks.closes closing
  | talked creates accepts names lasts stands bound =>
    have same : mark standing r reply = standing := by
      cases r with
      | create type protocol => exact absurd rfl (creates type protocol)
      | accept fd => exact absurd rfl (accepts fd)
      | bind fd a => exact absurd rfl (names fd a)
      | close fd => exact absurd rfl (lasts fd)
      | _ => rfl
    rw [same]
    exact tracks.stands stands bound

end Tracks

theorem Tracked.tracks {spared : String → Prop} {before : Descriptor → Standing}
    {first : Desk State} (tracked : Tracked spared place before first standing desk)
    (begins : Tracks place before first) : Tracks place standing desk := by
  induction tracked with
  | start => exact begins
  | answer _ r free _ ih => exact ih.answer free r
  | meanwhile _ elsewhere ih => exact ih.meanwhile elsewhere

end ProcessorSockets.Loopback
