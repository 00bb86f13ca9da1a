import ProcessorSockets.Session

namespace ProcessorSockets

namespace Session

variable {σ : Type} {s : Session σ} {n : String} {o : Object} {ep : Endpoint}

def Distinct (s : Session σ) : Prop := (s.names.map (·.1)).Nodup

def without (s : Session σ) (n : String) : Session σ :=
  { s with names := s.names.filter (·.1 ≠ n) }

def naming (s : Session σ) (n : String) (o : Object) : Session σ :=
  { s with names := (n, o) :: s.names.filter (·.1 ≠ n) }

theorem mem_of_find? (found : s.find? n = some o) : (n, o) ∈ s.names := by
  obtain ⟨l, r, split, _⟩ := List.lookup_eq_some_iff.mp found
  rw [split]
  simp

theorem find?_naming (s : Session σ) (n : String) (o : Object) :
    (s.naming n o).find? n = some o := by
  simp [find?, naming]

theorem find?_of_mem (distinct : s.Distinct) (mem : (n, o) ∈ s.names) : s.find? n = some o := by
  obtain ⟨l, r, split⟩ := List.append_of_mem mem
  apply List.lookup_eq_some_iff.mpr
  refine ⟨l, r, split, fun p before => ?_⟩
  rw [Distinct, split, List.map_append, List.nodup_append] at distinct
  have differ := distinct.2.2 p.1 (List.mem_map_of_mem before) n (by simp)
  simpa using Ne.symm differ

theorem refers_iff : s.refers ep = true ↔ ep ∈ s.held ∨ ∃ p ∈ s.names, p.2.base = ep := by
  simp [refers]

theorem refers_of_mem (mem : (n, o) ∈ s.names) : s.refers o.base = true :=
  refers_iff.mpr (.inr ⟨_, mem, rfl⟩)

theorem refers_of_find? (found : s.find? n = some o) : s.refers o.base = true :=
  refers_of_mem (mem_of_find? found)

theorem Distinct.without (distinct : s.Distinct) (n : String) : (s.without n).Distinct :=
  List.Nodup.sublist (List.filter_sublist.map _) distinct

theorem Distinct.naming (distinct : s.Distinct) (n : String) (o : Object) :
    (s.naming n o).Distinct := by
  unfold Distinct Session.naming
  rw [List.map_cons, List.nodup_cons]
  refine ⟨?_, distinct.without n⟩
  intro mem
  obtain ⟨p, kept, same⟩ := List.mem_map.mp mem
  have differ := (List.mem_filter.mp kept).2
  simp [same] at differ

theorem refers_of_without (h : (s.without n).refers ep = true) : s.refers ep = true := by
  rw [refers_iff] at h ⊢
  obtain held | ⟨p, mem, base⟩ := h
  · exact .inl held
  · exact .inr ⟨p, (List.mem_filter.mp mem).1, base⟩

theorem refers_without (distinct : s.Distinct) (n : String) (h : s.refers ep = true) :
    (s.without n).refers ep = true ∨ ∃ old, s.find? n = some old ∧ ep = old.base := by
  rw [refers_iff] at h
  obtain held | ⟨⟨m, o⟩, mem, base⟩ := h
  · exact .inl (refers_iff.mpr (.inl held))
  · by_cases same : m = n
    · subst same
      exact .inr ⟨o, find?_of_mem distinct mem, base.symm⟩
    · apply Or.inl
      apply refers_iff.mpr
      exact .inr ⟨(m, o), List.mem_filter.mpr ⟨mem, by simpa using same⟩, base⟩

theorem refers_naming :
    (s.naming n o).refers ep = true ↔ ep = o.base ∨ (s.without n).refers ep = true := by
  rw [refers_iff, refers_iff]
  constructor
  · rintro (held | ⟨p, mem, base⟩)
    · exact .inr (.inl held)
    · cases mem with
      | head => exact .inl base.symm
      | tail _ mem => exact .inr (.inr ⟨p, mem, base⟩)
  · rintro (rfl | held | ⟨p, mem, base⟩)
    · exact .inr ⟨(n, o), List.mem_cons_self, rfl⟩
    · exact .inl held
    · exact .inr ⟨p, List.mem_cons_of_mem _ mem, base⟩

theorem target_of_mem_disturbances {ms : List Meanwhile} {d : Disturbance}
    (mem : d ∈ s.disturbances ms) :
    ∃ m ∈ ms, ∃ o, s.find? m.on = some o ∧ m.interference.deed? o = some d.deed := by
  obtain ⟨m, mem, gives⟩ := List.mem_filterMap.mp mem
  cases found : s.find? m.on with
  | none => simp [found] at gives
  | some o =>
    cases aims : m.interference.deed? o with
    | none => simp [found, aims] at gives
    | some deed =>
      simp [found, aims] at gives
      exact ⟨m, mem, o, found, gives ▸ aims⟩

theorem target_deed? {i : Interference} {o : Object} {deed : Deed} (h : i.deed? o = some deed) :
    deed.target = o.base := by
  cases i <;> cases o <;> cases h <;> rfl

theorem deed?_create {i : Interference} {o : Object} {ep : Endpoint} {kind : SocketKind}
    (h : i.deed? o = some (.create ep kind)) : i = .create kind ∧ o = .endpoint ep := by
  cases i <;> cases o <;> cases h
  exact ⟨rfl, rfl⟩

theorem of_deed?_create {kind : SocketKind} {o : Object} {deed : Deed}
    (h : (Interference.create kind).deed? o = some deed) : deed = .create o.base kind := by
  cases o <;> cases h
  rfl

theorem deed?_closeSocket {i : Interference} {o : Object} {k : Socket}
    (h : i.deed? o = some (.closeSocket k)) : o = .socket k := by
  cases i <;> cases o <;> cases h
  rfl

end Session

end ProcessorSockets
