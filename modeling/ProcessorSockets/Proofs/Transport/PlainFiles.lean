import ProcessorSockets.Proofs.Transport.Answers

/-! Entries that are not socket files.  Directories stay, and no plain file is ever made.  A
plain file stays until it is found at the path of an address that an open descriptor is bound
to: it refuses connections like a socket file that was left behind, and is removed like one. -/

namespace ProcessorSockets

theorem bind_eq_ok {ε α β : Type} {x : Except ε α} {f : α → Except ε β} {b : β} :
    (x >>= f) = .ok b ↔ ∃ a, x = .ok a ∧ f a = .ok b := by
  cases x with
  | error e => simp [bind, Except.bind]
  | ok a => simp [bind, Except.bind]

theorem mapError_eq_ok {ε ε' α : Type} {x : Except ε α} {f : ε → ε'} {a : α} :
    x.mapError f = .ok a ↔ x = .ok a := by
  cases x with
  | error e => simp [Except.mapError]
  | ok a => simp [Except.mapError]

namespace FileTree.Tree

structure Loses (lost : Path → Prop) (t t' : Tree) : Prop where
  directory : ∀ {q}, t.find? q = some .directory → t'.find? q = some .directory
  new : ∀ {q}, t'.find? q = some .file → t.find? q = some .file
  file : ∀ {q}, t.find? q = some .file → t'.find? q = some .file ∨ lost q

variable {t t' t'' : Tree} {lost : Path → Prop} {bytes : List UInt8} {q : Path} {node : Node}

namespace Loses

theorem refl (lost : Path → Prop) (t : Tree) : t.Loses lost t := ⟨id, id, .inl⟩

theorem trans (first : t.Loses lost t') (second : t'.Loses lost t'') : t.Loses lost t'' where
  directory found := second.directory (first.directory found)
  new found := first.new (second.new found)
  file found := (first.file found).elim second.file .inr

theorem mono {lost' : Path → Prop} (loses : t.Loses lost t') (more : ∀ q, lost q → lost' q) :
    t.Loses lost' t' :=
  { loses with file := fun found => (loses.file found).imp_right (more _) }

theorem make (made : t.make bytes node = .ok t') (other : node ≠ .file) : t.Loses lost t' := by
  obtain ⟨p, _, free, rfl⟩ := make_ok.mp made
  refine ⟨directory_insert free node, fun found => ?_, fun found => .inl ?_⟩
  · rw [find?_insert free] at found
    split at found
    · exact absurd (Option.some.inj found) other
    · exact found
  · rw [find?_insert free, if_neg, found]
    rintro rfl
    cases free.symm.trans found

theorem remove (removed : t.remove bytes = .ok t')
    (taken : ∀ q, t.get bytes = .ok (q, .file) → lost q) : t.Loses lost t' := by
  obtain ⟨p, n, there, other, rfl⟩ := remove_ok.mp removed
  have found := (get_ok.mp there).2
  have kept : t.find? p ≠ some .directory := fun is =>
    other (Option.some.inj (found.symm.trans is))
  refine ⟨directory_erase kept, fun {q} left => ?_, fun {q} file => ?_⟩
  · rw [find?_erase_file kept] at left
    split at left
    · cases left
    · exact left
  · by_cases here : q = p
    · subst here
      cases found.symm.trans file
      exact .inr (taken q there)
    · exact .inl ((find?_erase_ne here).trans file)

theorem resolve (loses : t.Loses lost t') (leads : t.resolve bytes = .ok q) :
    t'.resolve bytes = .ok q := resolve_mono (fun _ => loses.directory) leads

theorem get (loses : t.Loses lost t') (there : t.get bytes = .ok (q, node)) :
    t'.get bytes = .ok (q, node) ∨ (∃ bound, node = .socket bound) ∨ node = .file ∧ lost q := by
  obtain ⟨leads, found⟩ := get_ok.mp there
  have leads := loses.resolve leads
  cases node with
  | directory => exact .inl (get_ok.mpr ⟨leads, loses.directory found⟩)
  | file =>
    obtain left | gone := loses.file found
    · exact .inl (get_ok.mpr ⟨leads, left⟩)
    · exact .inr (.inr ⟨rfl, gone⟩)
  | socket bound => exact .inr (.inl ⟨bound, rfl⟩)

end Loses

end FileTree.Tree

namespace Loopback

open FileTree (Path Node Tree)
open UnixDomain (State kernel)

def meets (place : Place) (a : Address) (desk : Desk State) : Except NativeError (Path × Node) := do
  let path ← place.pathFor a
  let _ ← place.sockaddr a
  let ready := prepare place (desk, [])
  ready.1
  (ready.2.1.kernel.tree.get (bytesOf path)).mapError .os

/-- Whether a bind of an open descriptor meets a plain file at a place. -/
def Strikes (place : Place) (end_ : Path) (desk : Desk State) : Request → Prop
  | .bind fd a => desk.kernel.socketOf? fd ≠ none ∧ meets place a desk = .ok (end_, .file)
  | _ => False

variable {place : Place} {fd : Descriptor} {a : Address} {desk desk' : Desk State} {path : String}
  {end_ : Path} {node : Node} {lost : Path → Prop} {notes : List Note}

instance : Decidable (Strikes place end_ desk (.bind fd a)) :=
  inferInstanceAs (Decidable (_ ∧ _))

/-- What becomes of a plain file that is struck: a socket file is in its place, or nothing if
the socket has a name already. -/
inductive Struck (fd : Descriptor) (path : String) (end_ : Path) (desk : Desk State) :
    Except NativeError Unit → Desk State → Prop
  | replaced {id : Nat} {after : Desk State} (has : desk.kernel.socketOf? fd = some id)
      (unnamed : (desk.kernel.sock id).bound = false)
      (taken : after.kernel.tree.get (bytesOf path) = .ok (end_, .socket (some id))) :
      Struck fd path end_ desk (.ok ()) after
  | removed {id : Nat} {after : Desk State} (has : desk.kernel.socketOf? fd = some id)
      (named : (desk.kernel.sock id).bound = true)
      (gone : after.kernel.tree.get (bytesOf path) = .error Errno.noEntry) :
      Struck fd path end_ desk (.error (.os Errno.invalid)) after

structure Clean (desk : Desk State) : Prop where
  whole : desk.kernel.Whole
  apart : ∀ {fd path}, desk.bound.lookup fd = some path →
    ∃ end_, desk.kernel.tree.resolve (bytesOf path) = .ok end_ ∧
      desk.kernel.tree.find? end_ ≠ some .file

theorem Place.Writes.of_sockaddr {raw : List UInt8} (gives : place.pathFor a = .ok path)
    (fits : place.sockaddr a = .ok raw) : place.Writes a path := by
  refine ⟨gives, Nat.not_lt.mp fun long => ?_⟩
  rw [Place.sockaddr_of_path gives, if_pos long] at fits
  cases fits

theorem meets_ok : meets place a desk = .ok (end_, node) ↔ ∃ path desk' notes,
    place.Writes a path ∧ prepare place (desk, []) = (.ok (), (desk', notes)) ∧
      desk'.kernel.tree.get (bytesOf path) = .ok (end_, node) := by
  unfold meets
  simp only [bind_eq_ok, mapError_eq_ok]
  constructor
  · rintro ⟨path, gives, raw, fits, _, made, there⟩
    exact ⟨path, _, _, .of_sockaddr gives fits, Prod.ext made rfl, there⟩
  · rintro ⟨path, desk', notes, writes, ready, there⟩
    refine ⟨path, writes.gives, _, writes.sockaddr, (), ?_⟩
    rw [ready]
    exact ⟨rfl, there⟩

theorem loses_prepare (lost : Path → Prop) (place : Place) (desk : Desk State)
    (notes : List Note) :
    desk.kernel.tree.Loses lost (prepare place (desk, notes)).2.1.kernel.tree := by
  refine keeps_makeDirectories (P := fun desk' => desk.kernel.tree.Loses lost desk'.kernel.tree)
    (fun path _ st loses => ?_) _ _ (desk, notes) (.refl lost _)
  rw [Native.desk_syscall]
  cases made : st.1.kernel.tree.make (bytesOf (String.ofList path)) .directory with
  | ok t =>
    rw [call_mkdir_ok made]
    exact loses.trans (.make made nofun)
  | error code =>
    rw [call_mkdir_error made]
    exact loses

theorem Claimed.loses {r : Except NativeError Unit} (claimed : Claimed fd path desk r desk') :
    desk.kernel.tree.Loses
      (fun q => desk.kernel.socketOf? fd ≠ none ∧
        desk.kernel.tree.get (bytesOf path) = .ok (q, .file)) desk'.kernel.tree := by
  have put {s s' : State} {lost : Path → Prop}
      (names : s.Binding fd (bytesOf path) (.ok (), s')) : s.tree.Loses lost s'.tree := by
    cases names with
    | bound has free made => exact .make made nofun
  cases claimed with
  | bound names => exact put names
  | failed other names => exact .refl _ _
  | kept taken stays =>
    rw [withProbe_tree]
    exact .refl _ _
  | cleared refused removed has named =>
    exact .remove removed fun q there => ⟨by simp [has], there⟩
  | @replaced t s refused removed names =>
    have open_ : desk.kernel.socketOf? fd ≠ none :=
      (Claimed.replaced refused removed names).open_
    exact Tree.Loses.trans (.remove removed fun q there => ⟨open_, there⟩) (put names)

theorem loses_bind (whole : desk.kernel.Whole) (place : Place) (fd : Descriptor) (a : Address) :
    desk.kernel.tree.Loses (Strikes place · desk (.bind fd a))
      (bind kernel place fd a (desk, [])).2.1.kernel.tree := by
  obtain ⟨e, _, runs⟩ | ⟨path, writes, runs⟩ := bind_stages place fd a desk []
  · rw [runs]
    exact .refl _ _
  have grown := loses_prepare (Strikes place · desk (.bind fd a)) place desk []
  cases ready : prepare place (desk, []) with
  | mk r st =>
    obtain ⟨desk', notes⟩ := st
    rw [ready] at grown
    obtain ⟨t, _, rfl⟩ := prepared ready
    cases r with
    | error e =>
      rw [runs, Native.run_bind_error ready]
      exact grown
    | ok _ =>
      obtain ⟨_, claimed⟩ := claimed_prepared whole.named whole.known writes ready
      refine grown.trans (claimed.loses.mono ?_)
      rintro q ⟨open_, there⟩
      exact ⟨open_, meets_ok.mpr ⟨path, _, notes, writes, ready, there⟩⟩

theorem Claimed.struck {r : Except NativeError Unit} (claimed : Claimed fd path desk r desk')
    (whole : desk.kernel.Whole) (open_ : desk.kernel.socketOf? fd ≠ none)
    (there : desk.kernel.tree.get (bytesOf path) = .ok (end_, .file)) :
    Struck fd path end_ desk r desk' := by
  have refused : Refused (UnixDomain.probe path desk.kernel).1 :=
    ⟨_, State.probe_nobody there nofun, rfl⟩
  cases claimed with
  | bound names => exact absurd there (names.free _ _)
  | failed other names =>
    cases names with
    | closed none => exact absurd none open_
    | lost nowhere => cases (Tree.get_ok.mp there).1.symm.trans nowhere
    | taken _ _ => exact absurd rfl other
    | named _ _ missing => exact absurd there (missing _ _)
  | kept taken stays =>
    obtain ⟨code, fails⟩ := stays refused
    cases (Tree.remove_ok.mpr ⟨_, _, there, nofun, rfl⟩).symm.trans fails
  | cleared _ removed has named =>
    obtain ⟨leads, gone⟩ := Tree.get_remove there removed
    exact .removed has named (Tree.get_missing leads gone)
  | @replaced t s _ removed names =>
    obtain ⟨leads, gone⟩ := Tree.get_remove there removed
    cases names with
    | @bound id has free t' made =>
      rw [withTree_socketOf?, withProbe_socketOf?] at has
      rw [withTree_sock, named_withProbe _ _ (whole.known has)] at free
      have leads' := (Tree.AlikeBut.make made nofun).even.resolve.mp leads
      obtain ⟨p, taken⟩ := Tree.get_make made
      cases leads'.symm.trans (Tree.get_ok.mp taken).1
      exact .replaced has free taken

theorem struck (whole : desk.kernel.Whole) (strikes : Strikes place end_ desk (.bind fd a)) :
    ∃ path, place.pathFor a = .ok path ∧ Struck fd path end_ desk
      (bind kernel place fd a (desk, [])).1 (bind kernel place fd a (desk, [])).2.1 := by
  obtain ⟨open_, met⟩ := strikes
  obtain ⟨path, desk', notes, writes, ready, there⟩ := meets_ok.mp met
  obtain ⟨t, grows, rfl⟩ := prepared ready
  obtain ⟨_, claimed⟩ := claimed_prepared whole.named whole.known writes ready
  refine ⟨path, writes.gives, ?_⟩
  have struck := claimed.struck (whole.withTree (grows.named whole.named)) open_ there
  generalize (bind kernel place fd a (desk, [])).1 = r at struck ⊢
  generalize (bind kernel place fd a (desk, [])).2.1 = after at struck ⊢
  cases struck with
  | replaced has unnamed taken => exact .replaced has unnamed taken
  | removed has named gone => exact .removed has named gone

namespace Clean

theorem loses_close (clean : Clean desk) (fd : Descriptor) (lost : Path → Prop) :
    desk.kernel.tree.Loses lost (withoutFile desk fd).kernel.tree := by
  cases own : desk.bound.lookup fd with
  | none =>
    rw [withoutFile_none own]
    exact .refl _ _
  | some path =>
    rw [withoutFile_some own]
    obtain ⟨t, removed, left⟩ | ⟨_, left⟩ := call_unlink desk.kernel path
    · rw [left]
      refine .remove removed fun q there => ?_
      obtain ⟨end_, leads, apart⟩ := clean.apart own
      obtain ⟨leads', found⟩ := Tree.get_ok.mp there
      cases leads.symm.trans leads'
      exact absurd found apart
    · rw [left]
      exact .refl _ _

theorem loses (clean : Clean desk) (place : Place) (r : Request) :
    desk.kernel.tree.Loses (Strikes place · desk r)
      ((transport kernel place).handle r desk).state.kernel.tree := by
  have others (names : ∀ fd a, r ≠ .bind fd a) (lasts : ∀ fd, r ≠ .close fd) :
      desk.kernel.tree.Loses (Strikes place · desk r)
        ((transport kernel place).handle r desk).state.kernel.tree := by
    rw [((answered clean.whole place r).leaves names lasts).1]
    exact .refl _ _
  cases r with
  | bind fd a => exact loses_bind clean.whole place fd a
  | close fd =>
    have closing := closing clean.whole fd []
    change desk.kernel.tree.Loses _ (close kernel fd (desk, [])).2.1.kernel.tree
    rw [closing.tree]
    exact clean.loses_close fd _
  | _ => exact others nofun nofun

theorem answer (clean : Clean desk) (place : Place) (r : Request) :
    Clean ((transport kernel place).handle r desk).state := by
  have loses := clean.loses place r
  have answered := answered clean.whole place r
  have whole := answered.whole clean.whole
  generalize ((transport kernel place).handle r desk).reply = reply at answered
  generalize ((transport kernel place).handle r desk).state = desk' at loses answered whole ⊢
  have old {fd : Descriptor} {path : String} (own : desk.bound.lookup fd = some path) :
      ∃ end_, desk'.kernel.tree.resolve (bytesOf path) = .ok end_ ∧
        desk'.kernel.tree.find? end_ ≠ some .file := by
    obtain ⟨end_, leads, apart⟩ := clean.apart own
    exact ⟨end_, loses.resolve leads, fun file => apart (loses.new file)⟩
  have others (names : ∀ fd a, r ≠ .bind fd a) (lasts : ∀ fd, r ≠ .close fd) : Clean desk' := by
    refine ⟨whole, fun {fd path} own => ?_⟩
    rw [(answered.leaves names lasts).2] at own
    exact old own
  cases answered with
  | @bound fd a reply _ errand =>
    refine ⟨whole, fun {fd' path} own => ?_⟩
    cases reply with
    | error e => exact old (errand.bound_error ▸ own)
    | ok _ =>
      cases errand with
      | claimed writes proper grows same claimed =>
        rw [claimed.bound_ok, List.lookup_cons] at own
        split at own
        · cases own
          obtain ⟨end_, bound, there⟩ := claimed.leads
          obtain ⟨leads, found⟩ := Tree.get_ok.mp there
          exact ⟨end_, leads, by simp [found]⟩
        · exact old (lookup_of_filter own)
  | closed closing =>
    refine ⟨whole, fun {fd path} own => ?_⟩
    rw [closing.bound] at own
    exact old (lookup_of_filter own)
  | created _ => exact others nofun nofun
  | accepted _ => exact others nofun nofun
  | talked _ _ names lasts _ _ => exact others names lasts

end Clean

theorem clean_start {s : State} (whole : s.Whole) : Clean { kernel := s } := ⟨whole, nofun⟩

theorem Serviced.loses {fair : Desk State → Request → Prop} {first : Desk State}
    (serviced : Serviced fair place first desk) (begins : Clean first) (lost : Path → Prop)
    (allowed : ∀ {desk r q}, fair desk r → Strikes place q desk r → lost q) :
    Clean desk ∧ first.kernel.tree.Loses lost desk.kernel.tree := by
  refine serviced.invariant
    (P := fun desk => Clean desk ∧ first.kernel.tree.Loses lost desk.kernel.tree)
    ⟨begins, .refl _ _⟩ ?_ fun desk next => ?_
  · rintro desk r ⟨clean, loses⟩ fair
    exact ⟨clean.answer place r, loses.trans ((clean.loses place r).mono fun _ => allowed fair)⟩
  · rintro ⟨clean, loses⟩
    exact ⟨{ clean with whole := { clean.whole with } }, loses⟩

/-- Whatever is asked for, directories stay, no plain file is new, and a plain file that no bind
strikes stays.  A request removes socket files and the plain files that it strikes; no file that
is struck stays. -/
theorem plain_files_stay_unless_struck {s : State} (whole : s.Whole)
    (serviced : Serviced (fun _ _ => True) place { kernel := s } desk) :
    (∀ bytes end_, s.tree.get bytes = .ok (end_, .directory) →
      desk.kernel.tree.get bytes = .ok (end_, .directory)) ∧
    (∀ bytes end_, s.tree.get bytes = .ok (end_, .file) →
      Serviced (fun desk r => ¬Strikes place end_ desk r) place { kernel := s } desk →
        desk.kernel.tree.get bytes = .ok (end_, .file)) ∧
    (∀ end_, desk.kernel.tree.find? end_ = some .file → s.tree.find? end_ = some .file) ∧
    (∀ r bytes end_ node, desk.kernel.tree.get bytes = .ok (end_, node) →
      ((transport kernel place).handle r desk).state.kernel.tree.get bytes = .ok (end_, node) ∨
        (∃ bound, node = .socket bound) ∨ node = .file ∧ Strikes place end_ desk r) ∧
    ∀ fd a end_, Strikes place end_ desk (.bind fd a) →
      ∃ path, place.pathFor a = .ok path ∧ Struck fd path end_ desk
        ((transport kernel place).handle (.bind fd a) desk).reply
        ((transport kernel place).handle (.bind fd a) desk).state := by
  have begins := clean_start whole
  obtain ⟨clean, loses⟩ := serviced.loses begins (fun _ => True) fun _ _ => trivial
  refine ⟨fun bytes end_ there => ?_, fun bytes end_ there spared => ?_, fun end_ => loses.new,
    fun r bytes end_ node there => (clean.loses place r).get there,
    fun fd a end_ strikes => struck clean.whole strikes⟩
  · obtain left | ⟨_, is⟩ | ⟨is, _⟩ := loses.get there
    · exact left
    · cases is
    · cases is
  · obtain ⟨_, spares⟩ := spared.loses begins (· ≠ end_)
      fun unstruck strikes is => unstruck (is ▸ strikes)
    obtain left | ⟨_, is⟩ | ⟨_, other⟩ := spares.get there
    · exact left
    · cases is
    · exact absurd rfl other

def stray : State where
  tree := ({} : Tree).plant (bytesOf "s/ap:a") .file

theorem whole_stray : stray.Whole := by
  apply State.whole_start
  unfold Tree.Named
  decide +kernel

theorem plain_files_stay_unless_struck_stray :
    let desk := served .beside { kernel := stray } [.create 1 0, .bind 3 (.here "b"), .create 1 0]
    desk.kernel.tree.get (bytesOf "s/ap:a") = .ok ([bytesOf "s", bytesOf "ap:a"], .file) ∧
      ∃ path, Place.beside.pathFor (.here "a") = .ok path ∧
        Struck 4 path [bytesOf "s", bytesOf "ap:a"] desk
          ((transport kernel .beside).handle (.bind 4 (.here "a")) desk).reply
          ((transport kernel .beside).handle (.bind 4 (.here "a")) desk).state := by
  intro desk
  have serviced : Serviced (fun _ _ => True) .beside { kernel := stray } desk :=
    Serviced.start.all (fairly_always ..)
  have spared : Serviced (fun desk r => ¬Strikes .beside [bytesOf "s", bytesOf "ap:a"] desk r)
      .beside { kernel := stray } desk :=
    Serviced.start.all ⟨id, by decide +kernel, id, trivial⟩
  have result := plain_files_stay_unless_struck whole_stray serviced
  exact ⟨result.2.1 _ _ (by decide +kernel) spared,
    result.2.2.2.2 4 (.here "a") _ (by decide +kernel)⟩

/-- A plain file is taken for a socket file that was left behind. -/
theorem plain_file_replaced : ∃ (place : Place) (s : State) (requests : List Request)
    (bytes : List UInt8) (end_ : Path) (bound : Option Nat), s.Whole ∧
      s.tree.get bytes = .ok (end_, .file) ∧
        (served place { kernel := s } requests).kernel.tree.get bytes =
          .ok (end_, .socket bound) :=
  ⟨.beside, stray, [.create 1 0, .bind 3 (.here "a")], bytesOf "s/ap:a",
    [bytesOf "s", bytesOf "ap:a"], some 0, whole_stray, by decide +kernel, by decide +kernel⟩

end Loopback

end ProcessorSockets
