import ProcessorSockets.Proofs.Transport.Place

namespace ProcessorSockets.Loopback.Place

variable {place : Place} {a a' : Address} {path path' : String}

def Same (place : Place) (a a' : Address) : Prop :=
  a.name = a'.name ∧ place.cpu a = place.cpu a'

/-- What one address has in front of its socket's name, up to a colon, the other has behind its
processor's. -/
def Shifts (place : Place) (a a' : Address) : Prop :=
  ∃ middle, (place.cpu a').toList = (place.cpu a).toList ++ ':' :: middle ∧
    a.name.toList = middle ++ ':' :: a'.name.toList

theorem path_of_pathFor (gives : place.pathFor a = .ok path) :
    path.toList = join place.directory.toList ((place.cpu a).toList ++ ':' :: a.name.toList) := by
  obtain ⟨_, rfl⟩ := pathFor_eq_ok.mp gives
  exact String.toList_ofList

theorem join_inj {directory entry entry' : List Char} :
    join directory entry = join directory entry' ↔ entry = entry' := by
  unfold join
  split
  · rw [List.append_cancel_left_eq]
  · rw [List.append_cancel_left_eq, List.cons_inj_right]

theorem colon_inj {cpu cpu' name name' : List Char} :
    cpu ++ ':' :: name = cpu' ++ ':' :: name' ↔
      (name = name' ∧ cpu = cpu') ∨
        (∃ middle, cpu' = cpu ++ ':' :: middle ∧ name = middle ++ ':' :: name') ∨
          ∃ middle, cpu = cpu' ++ ':' :: middle ∧ name' = middle ++ ':' :: name := by
  constructor
  · intro same
    obtain ⟨more, is, rest⟩ | ⟨more, is, rest⟩ := List.append_eq_append_iff.mp same
    · cases more with
      | nil => exact .inl ⟨by simpa using rest, by simpa using is.symm⟩
      | cons c middle =>
        obtain ⟨rfl, name⟩ := List.cons.inj rest
        exact .inr (.inl ⟨middle, is, name⟩)
    · cases more with
      | nil => exact .inl ⟨by simpa using rest.symm, by simpa using is⟩
      | cons c middle =>
        obtain ⟨rfl, name⟩ := List.cons.inj rest
        exact .inr (.inr ⟨middle, is, name⟩)
  · rintro (⟨rfl, rfl⟩ | ⟨middle, rfl, rfl⟩ | ⟨middle, rfl, rfl⟩)
    · rfl
    · simp
    · simp

theorem Shifts.colons (shifts : place.Shifts a a') :
    ':' ∈ (place.cpu a').toList ∧ ':' ∈ a.name.toList := by
  obtain ⟨middle, cpu, name⟩ := shifts
  simp [cpu, name]

/-- Two addresses have one path if they are of one socket on one processor, or if a colon in the
names makes them look so, and only then.  Where the processors' names are without colons, or the
sockets' are, a path is of one address. -/
theorem paths_equal_iff (gives : place.pathFor a = .ok path)
    (gives' : place.pathFor a' = .ok path') :
    (path = path' ↔ place.Same a a' ∨ place.Shifts a a' ∨ place.Shifts a' a) ∧
    ((∀ x ∈ [a, a'], ':' ∉ (place.cpu x).toList) ∨ (∀ x ∈ [a, a'], ':' ∉ x.name.toList) →
      (path = path' ↔ place.Same a a')) := by
  have parts : path = path' ↔ place.Same a a' ∨ place.Shifts a a' ∨ place.Shifts a' a := by
    rw [← String.toList_inj, path_of_pathFor gives, path_of_pathFor gives', join_inj, colon_inj,
      String.toList_inj, String.toList_inj]
    rfl
  refine ⟨parts, fun plain => parts.trans ⟨fun is => ?_, .inl⟩⟩
  obtain same | shifts | shifts := is
  · exact same
  · cases plain with
    | inl cpus => exact absurd shifts.colons.1 (cpus a' (by simp))
    | inr names => exact absurd shifts.colons.2 (names a (by simp))
  · cases plain with
    | inl cpus => exact absurd shifts.colons.1 (cpus a (by simp))
    | inr names => exact absurd shifts.colons.2 (names a' (by simp))

theorem paths_equal_iff_local :
    let place : Place := ⟨"s", "ap"⟩
    place.pathFor (.here "svc") = .ok "s/ap:svc" ∧ place.pathFor ⟨"ap", "svc"⟩ = .ok "s/ap:svc" ∧
      place.Same (.here "svc") ⟨"ap", "svc"⟩ := by
  intro place
  have gives : place.pathFor (.here "svc") = .ok "s/ap:svc" := by decide
  have gives' : place.pathFor ⟨"ap", "svc"⟩ = .ok "s/ap:svc" := by decide
  exact ⟨gives, gives', ((paths_equal_iff gives gives').2 (.inr (by decide))).mp rfl⟩

/-- The socket "b:c" on "a" and the socket "c" on "a:b" are different, and have one file. -/
theorem paths_collide :
    let place : Place := ⟨"s", "ap"⟩
    place.pathFor ⟨"a", "b:c"⟩ = .ok "s/a:b:c" ∧ place.pathFor ⟨"a:b", "c"⟩ = .ok "s/a:b:c" ∧
      ¬place.Same ⟨"a", "b:c"⟩ ⟨"a:b", "c"⟩ := by
  refine ⟨by decide, by decide, fun same => ?_⟩
  exact absurd same.1 (by decide)

end ProcessorSockets.Loopback.Place
