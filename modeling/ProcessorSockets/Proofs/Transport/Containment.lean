import ProcessorSockets.Proofs.Transport.Loopback

namespace ProcessorSockets.Loopback.Place

open FileTree (Path Tree)
open Text (utf8)

def follow (directory path : List Char) : List Char :=
  if path.head? = some '/' then path else join directory path

/-- A path of one step, which leads neither out of a directory nor nowhere. -/
structure Step (path : List Char) : Prop where
  nonempty : path ≠ []
  relative : path.head? ≠ some '/'
  single : '/' ∉ path
  onward : path ≠ ['.'] ∧ path ≠ ['.', '.']

variable {place : Place} {a : Address} {path : String}

theorem pathFor_iff_names : (∃ path, place.pathFor a = .ok path) ↔ place.Names a := by
  constructor
  · rintro ⟨path, gives⟩
    exact (pathFor_eq_ok.mp gives).1
  · intro names
    exact ⟨_, pathFor_eq_ok.mpr ⟨names, rfl⟩⟩

theorem Entry.step {entry : List Char} (h : Entry entry) : Step entry where
  nonempty none := by
    rw [none] at h
    cases h.colon
  relative first := h.whole (List.mem_of_head? first)
  single := h.whole
  onward := by
    constructor
    · rintro rfl
      exact absurd h.colon (by decide)
    · rintro rfl
      exact absurd h.colon (by decide)

structure Leads (place : Place) (a : Address) (path : String) : Prop where
  joined : path.toList = follow place.directory.toList (place.entry a)
  step : Step (place.entry a)
  inside : ∀ (t : Tree) (end_ : Path), t.resolve (bytesOf path) = .ok end_ ↔
    ∃ above, place.At t above ∧ end_ = above ++ [utf8 (place.entry a)]

theorem leads (gives : place.pathFor a = .ok path) : place.Leads a path := by
  obtain ⟨names, is⟩ := pathFor_eq_ok.mp gives
  have named := names.entry
  have joined : path.toList = join place.directory.toList (place.entry a) := by
    rw [is, String.toList_ofList]
  refine ⟨?_, named.step, fun t end_ => ?_⟩
  · rw [follow, if_neg named.step.relative, joined]
  · unfold bytesOf
    rw [joined]
    exact resolve_join_ok place named

theorem sockaddr_ok {raw : List UInt8} : place.sockaddr a = .ok raw ↔
    ∃ path, place.Writes a path ∧ raw = Sockaddr.path (bytesOf path) := by
  constructor
  · intro fits
    cases gives : place.pathFor a with
    | error e =>
      rw [sockaddr, gives] at fits
      cases fits
    | ok path =>
      rw [sockaddr_of_path gives] at fits
      split at fits
      · cases fits
      · rename_i short
        exact ⟨path, ⟨gives, Nat.not_lt.mp short⟩, (Except.ok.inj fits).symm⟩
  · rintro ⟨path, writes, rfl⟩
    exact writes.sockaddr

theorem sockaddr_iff_short : (∃ raw, place.sockaddr a = .ok raw) ↔
    ∃ path, place.pathFor a = .ok path ∧ (bytesOf path).length ≤ 107 := by
  constructor
  · rintro ⟨raw, fits⟩
    obtain ⟨path, writes, _⟩ := sockaddr_ok.mp fits
    exact ⟨path, writes.gives, writes.fits⟩
  · rintro ⟨path, gives, short⟩
    exact ⟨_, sockaddr_ok.mpr ⟨path, ⟨gives, short⟩, rfl⟩⟩

structure Carries (raw : List UInt8) (path : String) : Prop where
  length : raw.length = 110
  family : Sockaddr.familyOf raw = 1
  rest : ∀ i, 2 + (bytesOf path).length ≤ i → i < 110 → raw[i]? = some 0

theorem Writes.carries (writes : place.Writes a path) :
    Carries (Sockaddr.path (bytesOf path)) path := by
  have fits : (bytesOf path).length ≤ 107 := writes.fits
  have parts := Sockaddr.path_eq writes.fits
  have front : (Sockaddr.word 1 ++ bytesOf path).length = 2 + (bytesOf path).length := by
    rw [List.length_append, Sockaddr.length_word]
  refine ⟨?_, rfl, fun i low high => ?_⟩
  · rw [parts, List.length_append, front, List.length_replicate, Limits.pathSize]
    omega
  · rw [parts, List.getElem?_append_right (by omega), front, List.getElem?_replicate,
      if_pos (by rw [Limits.pathSize]; omega)]

/-- An address has a file if the socket has a name and nothing in the names parts a path, and only
then; the file is an entry of the directory and of no other.  If the path is not too long the
kernel is given all of it, with zeros up to the end of its field. -/
theorem files_in_directory (place : Place) (a : Address) :
    ((∃ path, place.pathFor a = .ok path) ↔ place.Names a) ∧
    (∀ path, place.pathFor a = .ok path → place.Leads a path) ∧
    ((∃ raw, place.sockaddr a = .ok raw) ↔
      ∃ path, place.pathFor a = .ok path ∧ (bytesOf path).length ≤ 107) ∧
    ∀ raw, place.sockaddr a = .ok raw → ∃ path, place.pathFor a = .ok path ∧ Carries raw path ∧
      ('\x00' ∉ place.directory.toList → Sockaddr.pathOf raw = bytesOf path) := by
  refine ⟨pathFor_iff_names, fun path => leads, sockaddr_iff_short, fun raw fits => ?_⟩
  obtain ⟨path, writes, rfl⟩ := sockaddr_ok.mp fits
  exact ⟨path, writes.gives, writes.carries, fun proper =>
    Sockaddr.pathOf_path (zero_path writes.gives proper) writes.fits⟩

theorem files_in_directory_full :
    let place : Place := ⟨"s", "ä"⟩
    let a := Address.here (String.ofList (List.replicate 51 'é'))
    place.Names a ∧ ∃ path raw, place.pathFor a = .ok path ∧ place.Leads a path ∧
      (bytesOf path).length = 107 ∧ place.sockaddr a = .ok raw ∧ Carries raw path ∧
      Sockaddr.pathOf raw = bytesOf path := by
  intro place a
  obtain ⟨named, leads, short, carries⟩ := files_in_directory place a
  have name : a.name.toList = List.replicate 51 'é' := String.toList_ofList
  have names : place.Names a := by
    refine ⟨fun none => ?_, ?_, by decide⟩
    · rw [← String.toList_eq_nil_iff, name] at none
      cases none
    · rw [name]
      decide
  obtain ⟨path, gives⟩ := named.mpr names
  have full : (bytesOf path).length = 107 := by
    rw [bytesOf, (leads path gives).joined, entry, name]
    decide
  obtain ⟨raw, fits⟩ := short.mpr ⟨path, gives, full.le⟩
  obtain ⟨path', gives', carried, whole⟩ := carries raw fits
  cases gives.symm.trans gives'
  exact ⟨names, path, raw, gives, leads path gives, full, fits, carried, whole (by decide)⟩

end ProcessorSockets.Loopback.Place
