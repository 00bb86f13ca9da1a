import ProcessorSockets.Proofs.Kernel.FileTree
import ProcessorSockets.Proofs.Text.Utf8
import ProcessorSockets.Transport.Loopback

namespace ProcessorSockets.Loopback.Place

open FileTree (Path Node Tree slash dot root start enter entries)
open Text (utf8)

structure Entry (entry : List Char) : Prop where
  whole : '/' ∉ entry
  proper : '\x00' ∉ entry
  colon : ':' ∈ entry

namespace Entry

variable {entry : List Char} (h : Entry entry)

include h

theorem slash : slash ∉ utf8 entry := fun mem => h.whole (Text.mem_of_byte mem (by decide))

theorem zero : 0 ∉ utf8 entry := fun mem => h.proper (Text.mem_of_byte mem (by decide))

theorem some : utf8 entry ≠ [] := by
  intro none
  rw [Text.utf8_injective (none.trans Text.utf8_nil.symm)] at h
  cases h.colon

theorem enter (above : Path) : FileTree.enter above (utf8 entry) = above ++ [utf8 entry] := by
  have differs (dots : List Char) (colonless : ':' ∉ dots) : utf8 entry ≠ utf8 dots := by
    intro same
    rw [Text.utf8_injective same] at h
    exact colonless h.colon
  have here : utf8 entry ≠ [dot] := differs ['.'] (by decide)
  have back : utf8 entry ≠ [dot, dot] := differs ['.', '.'] (by decide)
  unfold FileTree.enter
  rw [if_neg here, if_neg back]

theorem start : FileTree.start (utf8 entry) = [] := by
  unfold FileTree.start
  rw [if_neg]
  intro first
  exact h.slash (List.mem_of_head? first)

end Entry

theorem resolve_join (t : Tree) (directory : List Char) {entry : List Char} (h : Entry entry) :
    t.resolve (utf8 (join directory entry)) =
      t.walk (start (utf8 directory)) (entries (utf8 directory) ++ [utf8 entry]) := by
  have single := FileTree.entries_single h.some h.slash
  have nonempty (front : List Char) : utf8 (front ++ entry) ≠ [] := by
    rw [Text.utf8_append]
    exact fun none => h.some (List.append_eq_nil_iff.mp none).2
  have begins {front : List UInt8} (some : front ≠ []) (rest : List UInt8) :
      start (front ++ rest) = start front := by
    obtain ⟨b, front, rfl⟩ := List.exists_cons_of_ne_nil some
    rfl
  unfold join Tree.resolve
  split
  · rename_i done
    rw [if_neg (nonempty _), Text.utf8_append]
    obtain none | last := done
    · subst none
      rw [Text.utf8_nil, List.nil_append, h.start, single, FileTree.entries]
      rfl
    · obtain ⟨front, rfl⟩ := List.getLast?_eq_some_iff.mp last
      have slashed : utf8 (front ++ ['/']) = utf8 front ++ [slash] := Text.utf8_append ..
      rw [begins (by simp [slashed]), slashed, List.append_assoc, List.singleton_append,
        FileTree.entries_append, FileTree.entries_append, single, FileTree.entries, List.append_nil]
  · rename_i more
    have some : utf8 directory ≠ [] := fun none =>
      more (.inl (Text.utf8_injective (none.trans Text.utf8_nil.symm)))
    have slashed : utf8 (directory ++ '/' :: entry) = utf8 directory ++ slash :: utf8 entry :=
      Text.utf8_append ..
    rw [slashed, if_neg (by simp), begins some, FileTree.entries_append, single]

variable {place : Place} {a a' : Address} {path path' : String}

structure Names (place : Place) (a : Address) : Prop where
  named : a.name ≠ ""
  name : '/' ∉ a.name.toList ∧ '\x00' ∉ a.name.toList
  cpu : '/' ∉ (place.cpu a).toList ∧ '\x00' ∉ (place.cpu a).toList

def entry (place : Place) (a : Address) : List Char :=
  (place.cpu a).toList ++ ':' :: a.name.toList

theorem any_separates {s : List Char} :
    ¬s.any separates = true ↔ '/' ∉ s ∧ '\x00' ∉ s := by
  simp only [List.any_eq_true, not_exists, not_and, separates, Bool.or_eq_true, beq_iff_eq, not_or]
  constructor
  · intro none
    exact ⟨fun mem => (none _ mem).1 rfl, fun mem => (none _ mem).2 rfl⟩
  · rintro ⟨slash, zero⟩ c mem
    exact ⟨fun is => slash (is ▸ mem), fun is => zero (is ▸ mem)⟩

theorem Names.entry (names : place.Names a) : Entry (place.entry a) where
  whole mem := by
    simp only [Place.entry, List.mem_append, List.mem_cons] at mem
    obtain cpu | colon | name := mem
    · exact names.cpu.1 cpu
    · exact absurd colon (by decide)
    · exact names.name.1 name
  proper mem := by
    simp only [Place.entry, List.mem_append, List.mem_cons] at mem
    obtain cpu | colon | name := mem
    · exact names.cpu.2 cpu
    · exact absurd colon (by decide)
    · exact names.name.2 name
  colon := by simp [Place.entry]

theorem pathFor_eq_ok : place.pathFor a = .ok path ↔
    place.Names a ∧ path = String.ofList (join place.directory.toList (place.entry a)) := by
  have named : ¬a.name.toList = [] ↔ a.name ≠ "" := not_congr String.toList_eq_nil_iff
  unfold pathFor
  dsimp only
  constructor
  · intro gives
    split at gives
    · cases gives
    · rename_i name
      split at gives
      · cases gives
      · rename_i cpu
        obtain ⟨some, whole⟩ := not_or.mp name
        exact ⟨⟨named.mp some, any_separates.mp whole, any_separates.mp cpu⟩,
          (Except.ok.inj gives).symm⟩
  · rintro ⟨names, rfl⟩
    rw [if_neg (not_or.mpr ⟨named.mpr names.named, any_separates.mpr names.name⟩),
      if_neg (any_separates.mpr names.cpu)]
    rfl

theorem pathFor_ok (gives : place.pathFor a = .ok path) :
    ∃ entry, Entry entry ∧ path = String.ofList (join place.directory.toList entry) := by
  obtain ⟨names, is⟩ := pathFor_eq_ok.mp gives
  exact ⟨_, names.entry, is⟩

theorem path_unique {t : Tree} {end_ : Path} (gives : place.pathFor a = .ok path)
    (gives' : place.pathFor a' = .ok path') (leads : t.resolve (bytesOf path) = .ok end_)
    (leads' : t.resolve (bytesOf path') = .ok end_) : path = path' := by
  obtain ⟨entry, named, rfl⟩ := pathFor_ok gives
  obtain ⟨entry', named', rfl⟩ := pathFor_ok gives'
  unfold bytesOf at leads leads'
  rw [String.toList_ofList, resolve_join t _ named] at leads
  rw [String.toList_ofList, resolve_join t _ named'] at leads'
  obtain ⟨above, ends, walks⟩ := Tree.walk_snoc leads
  obtain ⟨above', ends', walks'⟩ := Tree.walk_snoc leads'
  rw [named.enter] at ends
  rw [named'.enter, ends] at ends'
  have same := (List.append_inj_right' ends' rfl)
  rw [Text.utf8_injective (List.singleton_inj.mp same)]

def At (place : Place) (t : Tree) (above : Path) : Prop :=
  place.directory.toList = [] ∧ above = [] ∨
    t.get (bytesOf place.directory) = .ok (above, .directory)

theorem resolve_join_ok (place : Place) {t : Tree} {end_ : Path} {entry : List Char}
    (h : Entry entry) : t.resolve (utf8 (join place.directory.toList entry)) = .ok end_ ↔
      ∃ above, place.At t above ∧ end_ = above ++ [utf8 entry] := by
  have nothing : entries (utf8 []) = [] := by rw [Text.utf8_nil, entries]
  rw [resolve_join t _ h]
  constructor
  · intro leads
    obtain ⟨above, ends, ways⟩ := Tree.walk_snoc leads
    refine ⟨above, ?_, ends.trans (h.enter above)⟩
    by_cases none : place.directory.toList = []
    · obtain ⟨_, rfl⟩ | ⟨walks, _⟩ := ways
      · exact .inl ⟨none, by rw [none]; rfl⟩
      · rw [none, nothing] at walks
        exact .inl ⟨none, (Except.ok.inj walks).symm⟩
    · right
      have some : bytesOf place.directory ≠ [] := fun is =>
        none (Text.utf8_injective (is.trans Text.utf8_nil.symm))
      apply Tree.get_ok.mpr
      unfold Tree.resolve
      rw [if_neg some]
      obtain ⟨slashes, rfl⟩ | way := ways
      · refine ⟨by rw [show entries (bytesOf place.directory) = [] from slashes]; rfl, ?_⟩
        apply Tree.find?_directory_root
        unfold FileTree.start
        split
        · exact .inr rfl
        · exact .inl rfl
      · exact way
  · rintro ⟨above, ⟨none, rfl⟩ | found, rfl⟩
    · rw [none, nothing]
      exact congrArg Except.ok (h.enter [])
    · obtain ⟨leads, found⟩ := Tree.get_ok.mp found
      unfold Tree.resolve at leads
      split at leads
      · cases leads
      · rw [← h.enter above]
        exact Tree.walk_on leads found _

def There (place : Place) (t : Tree) : Prop :=
  place.directory.toList = [] ∨ t.isDirectory (bytesOf place.directory) = true

theorem At.there {t : Tree} {above : Path} (h : place.At t above) : place.There t := by
  obtain ⟨none, _⟩ | found := h
  · exact .inl none
  · right
    unfold Tree.isDirectory
    rw [found]

theorem directory_of_resolve {t : Tree} {end_ : Path} (gives : place.pathFor a = .ok path)
    (leads : t.resolve (bytesOf path) = .ok end_) : place.There t := by
  obtain ⟨entry, named, rfl⟩ := pathFor_ok gives
  unfold bytesOf at leads
  rw [String.toList_ofList] at leads
  obtain ⟨_, is, _⟩ := (resolve_join_ok place named).mp leads
  exact is.there

theorem directory_of_path {t : Tree} {end_ : Path} {node : Node}
    (gives : place.pathFor a = .ok path) (leads : t.get (bytesOf path) = .ok (end_, node)) :
    place.There t := directory_of_resolve gives (Tree.get_ok.mp leads).1

theorem zero_path (gives : place.pathFor a = .ok path)
    (proper : '\x00' ∉ place.directory.toList) : 0 ∉ bytesOf path := by
  obtain ⟨entry, named, rfl⟩ := pathFor_ok gives
  intro mem
  have mem : Char.ofNat 0 ∈ join place.directory.toList entry := by
    rw [← String.toList_ofList (l := join place.directory.toList entry)]
    exact Text.mem_of_byte mem (by decide)
  unfold join at mem
  split at mem
  · cases List.mem_append.mp mem with
    | inl front => exact proper front
    | inr back => exact named.proper back
  · simp only [List.mem_append, List.mem_cons] at mem
    obtain front | slash | back := mem
    · exact proper front
    · exact absurd slash (by decide)
    · exact named.proper back

end ProcessorSockets.Loopback.Place
