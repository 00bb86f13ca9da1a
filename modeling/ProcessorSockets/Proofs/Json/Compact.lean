import Mathlib.Data.List.Nodup
import ProcessorSockets.Proofs.Json.Printing
import ProcessorSockets.Proofs.Json.Record

namespace ProcessorSockets.Json.Form

open Grammar Reader

variable {α δ : Type} {form : Form} {fields : List (Field δ)} {finish : δ → Option α} {a : α}
  {draft : List String → δ} {name : String} {seen : List String} {v p rest : List Char}
  {ms : List (String × List Char)} {ts : List (List Char)}

theorem exists_of_mem {β γ : Type} {R : β → γ → Prop} {bs : List β} {cs : List γ} {c : γ}
    (each : List.Forall₂ R bs cs) (mem : c ∈ cs) : ∃ b ∈ bs, R b c := by
  induction each with
  | nil => cases mem
  | cons first _ ih =>
    obtain rfl | later := List.mem_cons.mp mem
    · exact ⟨_, List.mem_cons_self, first⟩
    · obtain ⟨b, mem', is⟩ := ih later
      exact ⟨b, List.mem_cons_of_mem _ mem', is⟩

theorem allows_field (distinct : form.names.Nodup) {texts : List Char → Prop}
    (known : (name, texts) ∈ form) (text : texts v) : form.Allows (name, v) where
  field texts' known' := by
    have same := List.inj_on_of_nodup_map distinct known known' rfl
    exact (Prod.mk.inj same).2 ▸ text
  other other := absurd (List.mem_map_of_mem known) other

theorem allows_other (other : name ∉ form.names) (value : Value v) : form.Allows (name, v) where
  field _ known := absurd (List.mem_map_of_mem known) other
  other _ := value

def InOrder (form : Form) (ms : List (String × List Char)) : Prop :=
  List.Forall₂ (fun entry m => entry.1 = m.1 ∧ entry.2 m.2) form ms

namespace InOrder

theorem names_eq (h : InOrder form ms) : ms.map Prod.fst = form.names := by
  induction h with
  | nil => rfl
  | cons first _ ih => rw [List.map_cons, ih, ← first.1]; rfl

theorem allows (h : InOrder form ms) (distinct : form.names.Nodup) {m : String × List Char}
    (mem : m ∈ ms) : form.Allows m := by
  obtain ⟨entry, known, is, text⟩ := exists_of_mem h mem
  have field : (m.1, entry.2) ∈ form := by rwa [← is]
  exact allows_field distinct field text

theorem fresh (h : InOrder form ms) (distinct : form.names.Nodup) : Fresh form [] ms := by
  intro name _
  rw [h.names_eq, List.count_nil, Nat.add_zero]
  exact List.nodup_iff_count_le_one.mp distinct name

end InOrder

theorem run_moreMembers_nil {n : Nat} (pos : 0 < n) (d : δ) :
    moreMembers fields n d [] = .error .truncated := by
  obtain ⟨n, rfl⟩ := Nat.exists_eq_succ_of_ne_zero (Nat.ne_zero_of_lt pos)
  rfl

theorem stops_of_prefix_further (front : rest <+: further ts) : Stops rest := by
  cases rest with
  | nil => exact stops_nil
  | cons c rest =>
    cases ts with
    | nil => cases List.prefix_nil.mp front
    | cons t ts =>
      obtain rfl := (List.cons_prefix_cons.mp front).1
      exact stops_cons (by decide) rest

structure Brittle (form : Form) (fields : List (Field δ)) (draft : List String → δ)
    (m : String × List Char) : Prop where
  known : m.1 ∈ form.names
  allowed : form.Allows m
  cuts : ∀ field ∈ fields, field.name = m.1 → ∀ seen, Cuts (field.read (draft seen)) m.2

namespace Filling

variable (h : Filling form fields finish a draft)

include h

theorem run_printObject (distinct : form.names.Nodup) (order : InOrder form ms)
    (rest : List Char) :
    record fields (draft []) finish (printObject (printMembers ms) ++ rest) = .ok (a, rest) := by
  have read := h.run_object [] blanks_nil (members_printMembers ms) (listed_intersperse _)
    (fun m mem => order.allows distinct mem) (order.fresh distinct)
    (fun name known => order.names_eq ▸ known) rest
  simpa [printObject] using read

theorem member_cut (brittle : Brittle form fields draft (name, v)) (fresh : name ∉ seen)
    (front : p <+: printMember name v) (some : p ≠ []) :
    member fields (draft seen) p = .error .truncated ∨
      ∃ d, member fields (draft seen) p = .ok (d, []) := by
  obtain ⟨field, texts, found, mem, fills⟩ := find?_known h.each brittle.known
  have spelling := spelling_flatMap name.toList
  have front₁ : p <+: '"' :: (name.toList.flatMap escape ++ '"' :: ':' :: v) := by
    simpa [printMember, printString] using front
  -- The text ends in the name, before its closing quote, before the colon, or in the value.
  obtain rfl | ⟨p, rfl, front₂⟩ := List.prefix_cons_iff.mp front₁
  · exact absurd rfl some
  rw [member, run_advance]
  obtain ⟨inside, -⟩ | ⟨p, front₃, rfl⟩ := prefix_append_cases front₂
  · exact .inl (run_bind_error (string_cut spelling inside) _)
  obtain rfl | ⟨p, rfl, front₄⟩ := List.prefix_cons_iff.mp front₃
  · exact .inl (run_bind_error (string_cut spelling (by simp)) _)
  rw [run_bind_ok (run_string spelling p), found]
  dsimp only
  rw [fills.isSet, decide_eq_false fresh, if_neg (by decide)]
  obtain rfl | ⟨p, rfl, front₅⟩ := List.prefix_cons_iff.mp front₄
  · exact .inl rfl
  have behind : colon (':' :: p) = .ok ((), p) := run_colon blanks_nil p
  rw [run_bind_ok behind]
  by_cases short : p = v
  · subst short
    have read := (fills.reads seen p (brittle.allowed.field texts mem)).front stops_nil
    rw [List.append_nil] at read
    exact .inr ⟨_, read⟩
  · exact brittle.cuts field (List.mem_of_find?_eq_some found) fills.name seen p front₅ short

theorem first_cut {m : String × List Char} (brittle : Brittle form fields draft m)
    (fresh : m.1 ∉ seen) {next : δ → Reader δ} (needs : ∀ d, next d [] = .error .truncated)
    (more : ∀ q, q <+: further ts → q.length < p.length →
      next (draft (m.1 :: seen)) q = .error .truncated)
    (front : p <+: printMember m.1 m.2 ++ further ts) (some : p ≠ []) :
    (member fields (draft seen) >>= next) p = .error .truncated := by
  obtain ⟨inside, -⟩ | ⟨q, after, rfl⟩ := prefix_append_cases front
  · obtain fails | ⟨d, reads⟩ := h.member_cut brittle fresh inside some
    · exact run_bind_error fails next
    · rw [run_bind_ok reads, needs]
  · have stops : Stops q := stops_of_prefix_further after
    have read := h.run_member (key_printString m.1) brittle.allowed (fun _ => fresh) stops
    rw [← List.append_assoc, ← printMember_eq] at read
    rw [run_bind_ok read]
    exact more q after (by simp [printMember, printString]; omega)

theorem moreMembers_cut (brittle : ∀ m ∈ ms, Brittle form fields draft m)
    (fresh : Fresh form seen ms) (front : p <+: further (printMembers ms)) (n : Nat)
    (bound : p.length < n) :
    moreMembers fields n (draft seen) p = .error .truncated := by
  induction ms generalizing seen p n with
  | nil =>
    obtain rfl := List.prefix_nil.mp front
    exact run_moreMembers_nil (Nat.zero_lt_of_lt bound) _
  | cons m ms ih =>
    obtain rfl | ⟨p, rfl, front₁⟩ := List.prefix_cons_iff.mp front
    · exact run_moreMembers_nil (Nat.zero_lt_of_lt bound) _
    obtain ⟨n, rfl⟩ := Nat.exists_eq_succ_of_ne_zero (Nat.ne_zero_of_lt bound)
    rw [List.length_cons] at bound
    rw [moreMembers, run_onFirst _ (by decide), if_neg (by decide), if_pos rfl, run_advance]
    cases p with
    | nil => rfl
    | cons c p =>
      obtain rfl := (List.cons_prefix_cons.mp front₁).1
      have first := brittle m List.mem_cons_self
      rw [run_onFirst _ (by decide), if_pos rfl]
      refine h.first_cut first (fresh.head first.known) (run_moreMembers_nil (by omega)) ?_ front₁
        (List.cons_ne_nil _ _)
      intro q after shorter
      exact ih (fun m mem => brittle m (List.mem_cons_of_mem _ mem)) fresh.tail after n (by omega)

theorem members_cut (brittle : ∀ m ∈ ms, Brittle form fields draft m) (fresh : Fresh form [] ms)
    (front : p <+: ((printMembers ms).intersperse [',']).flatten) :
    members fields (draft []) p = .error .truncated := by
  cases p with
  | nil => rfl
  | cons c p =>
    cases ms with
    | nil => cases List.prefix_nil.mp front
    | cons m ms =>
      have front₁ : c :: p <+: printMember m.1 m.2 ++ further (printMembers ms) := by
        rwa [← flatten_intersperse]
      obtain rfl := (List.cons_prefix_cons.mp front₁).1
      have first := brittle m List.mem_cons_self
      rw [members, run_onFirst _ (by decide), if_neg (by decide), if_pos rfl]
      refine h.first_cut first (fresh.head first.known)
        (fun d => run_moreMembers_nil (Nat.succ_pos _) d) ?_ front₁ (List.cons_ne_nil _ _)
      intro q after _
      exact h.moreMembers_cut (fun m mem => brittle m (List.mem_cons_of_mem _ mem)) fresh.tail after
        _ (Nat.lt_succ_self _)

theorem starves_printObject (distinct : form.names.Nodup) (order : InOrder form ms)
    (cuts : List.Forall₂ (fun field m => field.name = m.1 ∧
      ∀ seen, Cuts (field.read (draft seen)) m.2) fields ms) :
    Starves (record fields (draft []) finish) (printObject (printMembers ms)) := by
  intro p front short
  obtain rfl | ⟨p, rfl, front₁⟩ := List.prefix_cons_iff.mp front
  · rfl
  obtain rfl | inside := List.prefix_concat_iff.mp front₁
  · exact absurd rfl short
  have brittle : ∀ m ∈ ms, Brittle form fields draft m := fun m mem => by
    refine ⟨order.names_eq ▸ List.mem_map_of_mem mem, order.allows distinct mem, ?_⟩
    intro field mem' same
    obtain ⟨m', mem'', is, breaks⟩ := exists_of_mem cuts.flip mem'
    have only : m' = m := List.inj_on_of_nodup_map (order.names_eq ▸ distinct) mem'' mem
      (is.symm.trans same)
    exact only ▸ breaks
  have cut := h.members_cut brittle (order.fresh distinct) inside
  exact (run_record_object blanks_nil p).trans (run_bind_error cut _)

end Filling

end ProcessorSockets.Json.Form
