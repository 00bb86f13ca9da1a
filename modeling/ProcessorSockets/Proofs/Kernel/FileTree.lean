import Mathlib.Data.List.TakeWhile
import ProcessorSockets.Kernel.FileTree

namespace ProcessorSockets

theorem lookup_filter {α β : Type} [BEq α] [LawfulBEq α] [DecidableEq α] (k q : α)
    (l : List (α × β)) :
    (l.filter (·.1 ≠ q)).lookup k = if k = q then none else l.lookup k := by
  induction l with
  | nil => simp
  | cons p rest ih =>
    obtain ⟨k', b⟩ := p
    by_cases gone : k' = q
    · subst gone
      by_cases same : k = k'
      · simpa [same] using ih
      · simpa [same, List.lookup_cons, show (k == k') = false by simpa using same] using ih
    · by_cases same : k = k'
      · subst same
        simp [gone]
      · simp [gone, List.lookup_cons, show (k == k') = false by simpa using same, ← ih]

theorem lookup_of_filter {α β : Type} [BEq α] [LawfulBEq α] [DecidableEq α] {k q : α} {b : β}
    {l : List (α × β)} (found : (l.filter (·.1 ≠ q)).lookup k = some b) : l.lookup k = some b := by
  rw [lookup_filter] at found
  split at found
  · cases found
  · exact found

namespace FileTree

theorem cut_slash (a b : List UInt8) :
    (a ++ slash :: b).takeWhile (· ≠ slash) = a.takeWhile (· ≠ slash) ∧
      (a ++ slash :: b).dropWhile (· ≠ slash) = a.dropWhile (· ≠ slash) ++ slash :: b := by
  induction a with
  | nil => simp
  | cons c rest ih => cases is : decide (c ≠ slash) <;> simp_all

theorem entries_append (a b : List UInt8) : entries (a ++ slash :: b) = entries a ++ entries b := by
  induction a using entries.induct with
  | case1 => simp [entries]
  | case2 rest ih => simp [entries, ih]
  | case3 c rest other ih =>
    have cut := cut_slash rest b
    have first : (c :: (rest ++ slash :: b)).takeWhile (· ≠ slash) =
        (c :: rest).takeWhile (· ≠ slash) := (cut_slash (c :: rest) b).1
    rw [List.cons_append, entries, entries, if_neg other, if_neg other, cut.2, ih, first,
      List.cons_append]

theorem entries_single {e : List UInt8} (some : e ≠ []) (whole : slash ∉ e) : entries e = [e] := by
  cases e with
  | nil => exact absurd rfl some
  | cons c rest =>
    have other : ∀ x ∈ c :: rest, decide (x ≠ slash) = true := by
      intro x mem
      simpa using fun is : x = slash => whole (is ▸ mem)
    have none : rest.dropWhile (· ≠ slash) = [] :=
      List.dropWhile_eq_nil_iff.mpr fun x mem => other x (List.mem_cons_of_mem c mem)
    rw [entries, if_neg (by simpa using other c List.mem_cons_self), none,
      List.takeWhile_eq_self_iff.mpr other, entries]

theorem mem_entries {bytes : List UInt8} {x : UInt8} (mem : x ∈ bytes) (other : x ≠ slash) :
    ∃ e ∈ entries bytes, x ∈ e := by
  induction bytes using entries.induct with
  | case1 => cases mem
  | case2 rest ih =>
    obtain ⟨e, inside, mem⟩ := ih (by simpa [other] using mem)
    exact ⟨e, by simpa [entries] using inside, mem⟩
  | case3 c rest _ ih =>
    rename_i differs
    rw [entries, if_neg differs]
    rw [← List.takeWhile_append_dropWhile (p := (· ≠ slash)) (l := c :: rest),
      List.mem_append] at mem
    cases mem with
    | inl first => exact ⟨_, List.mem_cons_self, first⟩
    | inr later =>
      rw [List.dropWhile_cons_of_pos (by simpa using differs)] at later
      obtain ⟨e, inside, mem⟩ := ih later
      exact ⟨e, List.mem_cons_of_mem _ inside, mem⟩

theorem of_mem_entries {bytes e : List UInt8} {x : UInt8} (inside : e ∈ entries bytes)
    (mem : x ∈ e) : x ∈ bytes := by
  induction bytes using entries.induct with
  | case1 => simp [entries] at inside
  | case2 rest ih => exact List.mem_cons_of_mem _ (ih (by simpa [entries] using inside))
  | case3 c rest differs ih =>
    rw [entries, if_neg differs] at inside
    cases inside with
    | head => exact (List.takeWhile_prefix _).subset mem
    | tail _ later =>
      exact List.mem_cons_of_mem _ ((List.dropWhile_suffix _).subset (ih later))

namespace Tree

variable {t t' : Tree} {d at_ q : Path} {es : List (List UInt8)} {bytes : List UInt8} {node : Node}

theorem find?_directory_root (inside : q = [] ∨ q = root) : t.find? q = some .directory := by
  simp [find?, inside]

theorem outside (free : t.find? q ≠ some .directory) : ¬(q = [] ∨ q = root) :=
  fun inside => free (find?_directory_root inside)

theorem find?_insert (free : t.find? q = none) (node : Node) (at_ : Path) :
    (t.insert q node).find? at_ = if at_ = q then some node else t.find? at_ := by
  have out : ¬(q = [] ∨ q = root) := outside (t := t) (by simp [free])
  unfold find? insert
  by_cases same : at_ = q
  · subst same
    simp [out]
  · have other : (at_ == q) = false := by simpa using same
    simp [same, List.lookup_cons, other]

theorem find?_erase_ne (other : at_ ≠ q) : (t.erase q).find? at_ = t.find? at_ := by
  simp only [find?, erase, lookup_filter, if_neg other]

theorem walk_cons {e e' : List UInt8} : t.walk d (e :: e' :: es) = .ok at_ ↔
    t.find? (enter d e) = some .directory ∧ t.walk (enter d e) (e' :: es) = .ok at_ := by
  cases found : t.find? (enter d e) with
  | none => simp [walk, found]
  | some n =>
    cases n with
    | directory => simp [walk, found]
    | file => simp [walk, found]
    | socket => simp [walk, found]

theorem walk_mono (kept : ∀ q, t.find? q = some .directory → t'.find? q = some .directory)
    (leads : t.walk d es = .ok at_) : t'.walk d es = .ok at_ := by
  induction es generalizing d with
  | nil => exact leads
  | cons e rest ih =>
    cases rest with
    | nil => exact leads
    | cons e' rest =>
      rw [walk_cons] at leads ⊢
      exact ⟨kept _ leads.1, ih leads.2⟩

theorem walk_error {code : Int} (fails : t.walk d es = .error code) :
    code = Errno.noEntry ∨ code = Errno.notDirectory := by
  induction es generalizing d with
  | nil => cases fails
  | cons e rest ih =>
    cases rest with
    | nil => cases fails
    | cons e' rest =>
      cases found : t.find? (enter d e) with
      | none =>
        simp only [walk, found] at fails
        exact .inl (Except.error.inj fails).symm
      | some n =>
        cases n with
        | directory =>
          simp only [walk, found] at fails
          exact ih fails
        | file =>
          simp only [walk, found] at fails
          exact .inr (Except.error.inj fails).symm
        | socket =>
          simp only [walk, found] at fails
          exact .inr (Except.error.inj fails).symm

theorem resolve_mono (kept : ∀ q, t.find? q = some .directory → t'.find? q = some .directory)
    (leads : t.resolve bytes = .ok at_) : t'.resolve bytes = .ok at_ := by
  unfold resolve at leads ⊢
  split
  · rename_i none
    rw [if_pos none] at leads
    cases leads
  · rename_i some
    rw [if_neg some] at leads
    exact walk_mono kept leads

theorem resolve_error {code : Int} (fails : t.resolve bytes = .error code) :
    code = Errno.noEntry ∨ code = Errno.notDirectory := by
  unfold resolve at fails
  split at fails
  · exact .inl (Except.error.inj fails).symm
  · exact walk_error fails

theorem get_ok : t.get bytes = .ok (at_, node) ↔
    t.resolve bytes = .ok at_ ∧ t.find? at_ = some node := by
  unfold get
  cases leads : t.resolve bytes with
  | error code => simp [bind, Except.bind]
  | ok p =>
    cases found : t.find? p with
    | none =>
      simp only [bind, Except.bind, found, throw, throwThe, MonadExceptOf.throw]
      simp only [reduceCtorEq, Except.ok.injEq, false_iff, not_and]
      rintro rfl is
      rw [found] at is
      cases is
    | some n =>
      simp only [bind, Except.bind, found, pure, Except.pure, Except.ok.injEq, Prod.mk.injEq]
      constructor
      · rintro ⟨rfl, rfl⟩
        exact ⟨rfl, found⟩
      · rintro ⟨rfl, is⟩
        rw [found] at is
        exact ⟨rfl, Option.some.inj is⟩

theorem make_ok : t.make bytes node = .ok t' ↔
    ∃ p, t.resolve bytes = .ok p ∧ t.find? p = none ∧ t.insert p node = t' := by
  unfold make
  cases leads : t.resolve bytes with
  | error code => simp [bind, Except.bind]
  | ok p =>
    cases found : t.find? p with
    | none => simp [bind, Except.bind, found, pure, Except.pure]
    | some n => simp [bind, Except.bind, found, throw, throwThe, MonadExceptOf.throw]

theorem make_taken {old : Node} (taken : t.get bytes = .ok (at_, old)) (node : Node) :
    t.make bytes node = .error Errno.pathExists := by
  obtain ⟨leads, found⟩ := get_ok.mp taken
  simp [make, leads, found, bind, Except.bind, throw, throwThe, MonadExceptOf.throw]

/-- A new entry fails for what is there, or for a path that leads nowhere. -/
theorem make_error {code : Int} (fails : t.make bytes node = .error code) :
    (∃ p old, t.get bytes = .ok (p, old) ∧ code = Errno.pathExists) ∨
      t.resolve bytes = .error code := by
  unfold make at fails
  cases leads : t.resolve bytes with
  | error code' =>
    simp only [leads, bind, Except.bind, Except.error.injEq] at fails
    exact .inr (congrArg _ fails)
  | ok p =>
    cases found : t.find? p with
    | none => simp [leads, found, bind, Except.bind, pure, Except.pure] at fails
    | some n =>
      simp only [leads, found, bind, Except.bind, throw, throwThe, MonadExceptOf.throw,
        Except.error.injEq] at fails
      exact .inl ⟨p, n, get_ok.mpr ⟨leads, found⟩, fails.symm⟩

theorem remove_ok : t.remove bytes = .ok t' ↔
    ∃ p n, t.get bytes = .ok (p, n) ∧ n ≠ .directory ∧ t.erase p = t' := by
  unfold remove
  cases taken : t.get bytes with
  | error code => simp [bind, Except.bind]
  | ok found =>
    obtain ⟨p, n⟩ := found
    have others (other : n ≠ .directory) : Except.ok (t.erase p) = (.ok t' : Except Int Tree) ↔
        ∃ p' n', Except.ok (p, n) = (.ok (p', n') : Except Int _) ∧ n' ≠ .directory ∧
          t.erase p' = t' := by
      constructor
      · intro gone
        exact ⟨p, n, rfl, other, Except.ok.inj gone⟩
      · rintro ⟨_, _, same, _, gone⟩
        cases same
        exact congrArg _ gone
    cases n with
    | directory =>
      constructor
      · nofun
      · rintro ⟨_, _, same, other, _⟩
        cases same
        exact absurd rfl other
    | file => exact others nofun
    | socket _ => exact others nofun

theorem directory_insert (free : t.find? q = none) (node : Node)
    (found : t.find? at_ = some .directory) : (t.insert q node).find? at_ = some .directory := by
  rw [find?_insert free, if_neg, found]
  rintro rfl
  rw [free] at found
  cases found

theorem directory_erase (other : t.find? q ≠ some .directory)
    (found : t.find? at_ = some .directory) : (t.erase q).find? at_ = some .directory := by
  rw [find?_erase_ne, found]
  rintro rfl
  exact other found

theorem get_insert (taken : t.get bytes = .ok (at_, node)) (free : t.find? q = none) (new : Node) :
    (t.insert q new).get bytes = .ok (at_, node) := by
  obtain ⟨leads, found⟩ := get_ok.mp taken
  refine get_ok.mpr ⟨resolve_mono (fun _ => directory_insert free new) leads, ?_⟩
  rw [find?_insert free, if_neg, found]
  rintro rfl
  rw [free] at found
  cases found

theorem get_erase (taken : t.get bytes = .ok (at_, node)) (other : t.find? q ≠ some .directory)
    (differs : at_ ≠ q) : (t.erase q).get bytes = .ok (at_, node) := by
  obtain ⟨leads, found⟩ := get_ok.mp taken
  exact get_ok.mpr ⟨resolve_mono (fun _ => directory_erase other) leads,
    (find?_erase_ne differs).trans found⟩

theorem get_remove (taken : t.get bytes = .ok (at_, node)) (removed : t.remove bytes = .ok t') :
    t'.resolve bytes = .ok at_ ∧ t'.find? at_ = none := by
  obtain ⟨leads, found⟩ := get_ok.mp taken
  obtain ⟨p, n, taken', file, rfl⟩ := remove_ok.mp removed
  cases taken.symm.trans taken'
  have other : t.find? at_ ≠ some .directory := by
    rw [found]
    exact fun is => file (Option.some.inj is)
  exact ⟨resolve_mono (fun _ => directory_erase other) leads,
    find?_erase t at_ (not_or.mp (outside other))⟩

theorem get_make (made : t.make bytes node = .ok t') : ∃ p, t'.get bytes = .ok (p, node) := by
  obtain ⟨p, leads, free, rfl⟩ := make_ok.mp made
  refine ⟨p, get_ok.mpr ⟨resolve_mono (fun _ => directory_insert free node) leads, ?_⟩⟩
  rw [find?_insert free, if_pos rfl]

theorem walk_snoc {e : List UInt8} (leads : t.walk d (es ++ [e]) = .ok at_) :
    ∃ above, at_ = enter above e ∧
      (es = [] ∧ above = d ∨ t.walk d es = .ok above ∧ t.find? above = some .directory) := by
  induction es generalizing d with
  | nil => exact ⟨d, (Except.ok.inj leads).symm, .inl ⟨rfl, rfl⟩⟩
  | cons e' rest ih =>
    have steps : t.find? (enter d e') = some .directory ∧
        t.walk (enter d e') (rest ++ [e]) = .ok at_ := by
      cases rest with
      | nil => exact walk_cons.mp leads
      | cons e'' rest => exact walk_cons.mp leads
    obtain ⟨above, ends, walks⟩ := ih steps.2
    refine ⟨above, ends, .inr ?_⟩
    cases rest with
    | nil =>
      obtain ⟨_, rfl⟩ | ⟨walks, found⟩ := walks
      · exact ⟨rfl, steps.1⟩
      · cases walks
        exact ⟨rfl, steps.1⟩
    | cons e'' rest =>
      obtain ⟨nil, _⟩ | walks := walks
      · cases nil
      · exact ⟨walk_cons.mpr ⟨steps.1, walks.1⟩, walks.2⟩

theorem walk_on {above : Path} (leads : t.walk d es = .ok above)
    (found : t.find? above = some .directory) (e : List UInt8) :
    t.walk d (es ++ [e]) = .ok (enter above e) := by
  induction es generalizing d with
  | nil =>
    cases leads
    rfl
  | cons e' rest ih =>
    cases rest with
    | nil =>
      cases leads
      exact walk_cons.mpr ⟨found, rfl⟩
    | cons e'' rest =>
      obtain ⟨passes, leads⟩ := walk_cons.mp leads
      exact walk_cons.mpr ⟨passes, ih leads⟩

def Even (t t' : Tree) : Prop := ∀ q, t.find? q = some .directory ↔ t'.find? q = some .directory

theorem Even.refl (t : Tree) : t.Even t := fun _ => Iff.rfl

theorem Even.trans {t'' : Tree} (first : t.Even t') (second : t'.Even t'') : t.Even t'' :=
  fun q => (first q).trans (second q)

theorem Even.resolve (even : t.Even t') : t.resolve bytes = .ok at_ ↔ t'.resolve bytes = .ok at_ :=
  ⟨resolve_mono fun q => (even q).mp, resolve_mono fun q => (even q).mpr⟩

theorem even_insert (free : t.find? q = none) (file : node ≠ .directory) :
    t.Even (t.insert q node) := by
  refine fun at_ => ⟨directory_insert free node, fun found => ?_⟩
  rw [find?_insert free] at found
  split at found
  · exact absurd (Option.some.inj found) file
  · exact found

theorem find?_erase_file (file : t.find? q ≠ some .directory) (at_ : Path) :
    (t.erase q).find? at_ = if at_ = q then none else t.find? at_ := by
  split
  · rename_i same
    rw [same, find?_erase t q (not_or.mp (outside file))]
  · rename_i other
    exact find?_erase_ne other

theorem even_erase (file : t.find? q ≠ some .directory) : t.Even (t.erase q) := by
  refine fun at_ => ⟨directory_erase file, fun found => ?_⟩
  rw [find?_erase_file file] at found
  split at found
  · cases found
  · exact found

structure AlikeBut (bytes : List UInt8) (t t' : Tree) : Prop where
  even : t.Even t'
  elsewhere : ∀ {q}, t.resolve bytes ≠ .ok q → t'.find? q = t.find? q

theorem AlikeBut.refl (bytes : List UInt8) (t : Tree) : t.AlikeBut bytes t :=
  ⟨.refl t, fun _ => rfl⟩

theorem AlikeBut.trans {t'' : Tree} (first : AlikeBut bytes t t') (second : AlikeBut bytes t' t'') :
    AlikeBut bytes t t'' where
  even := first.even.trans second.even
  elsewhere other :=
    (second.elsewhere fun leads => other (first.even.resolve.mpr leads)).trans
      (first.elsewhere other)

theorem AlikeBut.make (made : t.make bytes node = .ok t') (file : node ≠ .directory) :
    AlikeBut bytes t t' := by
  obtain ⟨p, leads, free, rfl⟩ := make_ok.mp made
  refine ⟨even_insert free file, fun other => ?_⟩
  rw [find?_insert free, if_neg]
  rintro rfl
  exact other leads

theorem AlikeBut.remove (removed : t.remove bytes = .ok t') : AlikeBut bytes t t' := by
  obtain ⟨p, n, taken, file, rfl⟩ := remove_ok.mp removed
  obtain ⟨leads, found⟩ := get_ok.mp taken
  refine ⟨even_erase fun is => file (Option.some.inj (found.symm.trans is)), fun other => ?_⟩
  apply find?_erase_ne
  rintro rfl
  exact other leads

theorem get_missing (leads : t.resolve bytes = .ok at_) (none : t.find? at_ = none) :
    t.get bytes = .error Errno.noEntry := by
  simp [get, leads, none, bind, Except.bind, throw, throwThe, MonadExceptOf.throw]

def Named (t : Tree) : Prop := ∀ p ∈ t.nodes, ∀ e ∈ p.1, 0 ∉ e

theorem Named.insert (named : t.Named) (proper : ∀ e ∈ q, 0 ∉ e) (node : Node) :
    (t.insert q node).Named := by
  intro p mem
  cases mem with
  | head => exact proper
  | tail _ old => exact named p old

theorem Named.erase (named : t.Named) (q : Path) : (t.erase q).Named :=
  fun p mem => named p (List.mem_filter.mp mem).1

theorem named_enter {e : List UInt8} (above : ∀ e ∈ d, 0 ∉ e) (proper : 0 ∉ e) :
    ∀ e' ∈ enter d e, 0 ∉ e' := by
  unfold enter
  intro e' mem
  split at mem
  · exact above e' mem
  · split at mem
    · exact above e' (List.dropLast_subset d mem)
    · cases List.mem_append.mp mem with
      | inl old => exact above e' old
      | inr new => exact List.mem_singleton.mp new ▸ proper

theorem named_walk (above : ∀ e ∈ d, 0 ∉ e) (proper : ∀ e ∈ es, 0 ∉ e)
    (leads : t.walk d es = .ok at_) : ∀ e ∈ at_, 0 ∉ e := by
  induction es generalizing d with
  | nil =>
    cases leads
    exact above
  | cons e rest ih =>
    have entered := named_enter above (proper e List.mem_cons_self)
    cases rest with
    | nil =>
      cases leads
      exact entered
    | cons e' rest =>
      exact ih entered (fun e mem => proper e (List.mem_cons_of_mem _ mem)) (walk_cons.mp leads).2

theorem named_resolve (proper : 0 ∉ bytes) (leads : t.resolve bytes = .ok at_) :
    ∀ e ∈ at_, 0 ∉ e := by
  unfold resolve at leads
  split at leads
  · cases leads
  · refine named_walk ?_ (fun e mem zero => proper (of_mem_entries mem zero)) leads
    unfold start root
    split <;> simp [slash]

theorem Named.make (named : t.Named) (proper : 0 ∉ bytes) (made : t.make bytes node = .ok t') :
    t'.Named := by
  obtain ⟨p, leads, _, rfl⟩ := make_ok.mp made
  exact named.insert (named_resolve proper leads) node

theorem Named.remove (named : t.Named) (removed : t.remove bytes = .ok t') : t'.Named := by
  obtain ⟨p, _, _, _, rfl⟩ := remove_ok.mp removed
  exact named.erase p

theorem Named.find? (named : t.Named) {e : List UInt8} (zero : 0 ∈ e) :
    t.find? (enter d e) = none := by
  have whole : enter d e = d ++ [e] := by
    unfold enter
    rw [if_neg, if_neg]
    · rintro rfl
      simp [dot] at zero
    · rintro rfl
      simp [dot] at zero
  have out : ¬(d ++ [e] = [] ∨ d ++ [e] = root) := by
    simp only [List.append_eq_nil_iff, List.cons_ne_self, and_false, false_or, root]
    intro is
    have last := congrArg List.getLast? is
    simp at last
    rw [last] at zero
    simp [slash] at zero
  rw [whole, Tree.find?, if_neg out]
  apply List.lookup_eq_none_iff.mpr
  intro p mem
  have differs : d ++ [e] ≠ p.1 := fun is => named p mem e (is ▸ by simp) zero
  simpa using differs

theorem Named.walk (named : t.Named) {e : List UInt8} (inside : e ∈ es) (zero : 0 ∈ e)
    (leads : t.walk d es = .ok at_) : t.find? at_ = none := by
  induction es generalizing d with
  | nil => cases inside
  | cons e' rest ih =>
    cases rest with
    | nil =>
      cases leads
      rw [← List.mem_singleton.mp inside]
      exact named.find? zero
    | cons e'' rest =>
      have steps := walk_cons.mp leads
      cases inside with
      | head =>
        rw [named.find? zero] at steps
        cases steps.1
      | tail _ later => exact ih later steps.2

theorem Named.isDirectory (named : t.Named) (zero : 0 ∈ bytes) : t.isDirectory bytes = false := by
  have missing (p : Path) (n : Node) : t.get bytes ≠ .ok (p, n) := by
    intro taken
    obtain ⟨leads, found⟩ := get_ok.mp taken
    unfold resolve at leads
    split at leads
    · cases leads
    · obtain ⟨e, inside, zero⟩ := mem_entries zero (by decide)
      rw [named.walk inside zero leads] at found
      cases found
  unfold Tree.isDirectory
  cases taken : t.get bytes with
  | error code => rfl
  | ok found => exact absurd taken (missing found.1 found.2)

end Tree

end FileTree

end ProcessorSockets
