import ProcessorSockets.Proofs.Json.Skipping

namespace ProcessorSockets.Json

open Grammar Reader

/-- The names of a record's fields in their order, each with the texts that stand for its value. -/
abbrev Form := List (String × (List Char → Prop))

namespace Form

variable {α δ : Type}

def names (form : Form) : List String := form.map Prod.fst

structure Allows (form : Form) (member : String × List Char) : Prop where
  field : ∀ texts, (member.1, texts) ∈ form → texts member.2
  other : member.1 ∉ form.names → Value member.2

/-- One field takes its texts into the draft, which tells by the names that were seen what has been
read. -/
structure Fills (draft : List String → δ) (field : Field δ) (entry : String × (List Char → Prop)) :
    Prop where
  name : field.name = entry.1
  isSet : ∀ seen, field.isSet (draft seen) = decide (entry.1 ∈ seen)
  reads : ∀ seen v, entry.2 v → Reads (field.read (draft seen)) v (draft (entry.1 :: seen))
  opens : ∀ v, entry.2 v → Opens v

structure Filling (form : Form) (fields : List (Field δ)) (finish : δ → Option α) (a : α)
    (draft : List String → δ) : Prop where
  each : List.Forall₂ (Fills draft) fields form
  other : ∀ name ∉ form.names, ∀ seen, draft (name :: seen) = draft seen
  finish : ∀ seen, finish (draft seen) = if ∀ name ∈ form.names, name ∈ seen then some a else none

variable {form : Form} {fields : List (Field δ)} {finish : δ → Option α} {a : α}
  {draft : List String → δ} {name : String} {seen : List String} {k v t rest : List Char}

theorem find?_known (each : List.Forall₂ (Fills draft) fields form) (known : name ∈ form.names) :
    ∃ field texts, fields.find? (·.name == name) = some field ∧ (name, texts) ∈ form ∧
      Fills draft field (name, texts) := by
  induction each with
  | nil => cases known
  | @cons field entry fields form fills _ ih =>
    obtain ⟨name', texts⟩ := entry
    by_cases same : name' = name
    · subst same
      refine ⟨field, texts, ?_, List.mem_cons_self, fills⟩
      rw [List.find?_cons_of_pos (by simp [fills.name])]
    · have later : name ∈ names form := by
        simpa [names, Ne.symm same] using known
      obtain ⟨field', texts', found, mem, fills'⟩ := ih later
      refine ⟨field', texts', ?_, List.mem_cons_of_mem _ mem, fills'⟩
      rw [List.find?_cons_of_neg (by simp [fills.name, same]), found]

theorem find?_other (each : List.Forall₂ (Fills draft) fields form) (other : name ∉ form.names) :
    fields.find? (·.name == name) = none := by
  induction each with
  | nil => rfl
  | @cons field entry fields form fills _ ih =>
    obtain ⟨first, later⟩ := not_or.mp (mt List.mem_cons.mpr other)
    rw [List.find?_cons_of_neg (by simpa [fills.name] using Ne.symm first), ih later]

theorem run_moreMembers_comma {b b' : List Char} (blanks : Blanks b) (blanks' : Blanks b')
    (key : Key (Spelling name.toList) k) (n : Nat) (d : δ) (s : List Char) :
    moreMembers fields (n + 1) d (b ++ ',' :: (b' ++ (k ++ s))) =
      (member fields d >>= moreMembers fields n) (k ++ s) := by
  obtain ⟨k', rfl⟩ := head_key key
  rw [moreMembers, run_onFirst_blanks blanks, run_onFirst _ (by decide), if_neg (by decide),
    if_pos rfl, run_advance, run_onFirst_blanks blanks', List.cons_append,
    run_onFirst _ (by decide), if_pos rfl]

theorem run_members_key {b : List Char} (blanks : Blanks b) (key : Key (Spelling name.toList) k)
    (d : δ) (s : List Char) : members fields d (b ++ (k ++ s)) =
      (member fields d >>= fun d s => moreMembers fields (s.length + 1) d s) (k ++ s) := by
  obtain ⟨k', rfl⟩ := head_key key
  rw [members, run_onFirst_blanks blanks, List.cons_append, run_onFirst _ (by decide),
    if_neg (by decide), if_pos rfl]

def Fresh (form : Form) (seen : List String) (ms : List (String × List Char)) : Prop :=
  ∀ name ∈ form.names, (ms.map Prod.fst).count name + seen.count name ≤ 1

theorem Fresh.head {m : String × List Char} {ms : List (String × List Char)}
    (fresh : Fresh form seen (m :: ms)) : m.1 ∈ form.names → m.1 ∉ seen := by
  intro known again
  have once := fresh m.1 known
  have twice := List.count_pos_iff.mpr again
  simp only [List.map_cons, List.count_cons_self] at once
  omega

theorem Fresh.tail {m : String × List Char} {ms : List (String × List Char)}
    (fresh : Fresh form seen (m :: ms)) : Fresh form (m.1 :: seen) ms := by
  intro name known
  have once := fresh name known
  simp only [List.map_cons, List.count_cons] at once ⊢
  omega

namespace Filling

variable (h : Filling form fields finish a draft)

include h

theorem run_member (key : Key (Spelling name.toList) k) (allowed : form.Allows (name, v))
    (fresh : name ∈ form.names → name ∉ seen) (stops : Stops rest) :
    member fields (draft seen) (k ++ (v ++ rest)) = .ok (draft (name :: seen), rest) := by
  cases key with
  | @mk t b b' spelling blanks blanks' =>
    simp only [List.cons_append, List.append_assoc]
    rw [member, run_advance, run_bind_ok (run_string spelling _)]
    by_cases known : name ∈ form.names
    · obtain ⟨field, texts, found, mem, fills⟩ := find?_known h.each known
      rw [found]
      dsimp only
      rw [fills.isSet, decide_eq_false (fresh known), if_neg (by decide),
        run_bind_ok (run_colon blanks _)]
      exact fills.reads seen v (allowed.field texts mem) b' rest blanks' stops
    · rw [find?_other h.each known]
      dsimp only
      rw [run_bind_ok (run_colon blanks _),
        run_bind_ok (reads_skip (allowed.other known) b' rest blanks' stops), h.other name known]
      rfl

theorem member_repeated (key : Key (Spelling name.toList) k) (known : name ∈ form.names)
    (again : name ∈ seen) : member fields (draft seen) (k ++ rest) = .error .mismatched := by
  cases key with
  | @mk t b b' spelling blanks blanks' =>
    obtain ⟨field, texts, found, mem, fills⟩ := find?_known h.each known
    simp only [List.cons_append, List.append_assoc]
    rw [member, run_advance, run_bind_ok (run_string spelling _), found]
    dsimp only
    rw [fills.isSet, decide_eq_true again, if_pos rfl]
    rfl

variable {ms before after : List (String × List Char)} {texts : List (List Char)}

theorem run_moreMembers (parts : List.Forall₂ Member ms texts) (further : Further texts t)
    (allowed : ∀ m ∈ ms, form.Allows m) (fresh : Fresh form seen ms) (n : Nat)
    (bound : t.length < n) (rest : List Char) :
    moreMembers fields n (draft seen) (t ++ '\x7d' :: rest) =
      .ok (draft ((ms.map Prod.fst).reverse ++ seen), '\x7d' :: rest) := by
  induction parts generalizing seen t n with
  | nil =>
    cases further with
    | none blanks =>
      obtain ⟨n, rfl⟩ := Nat.exists_eq_succ_of_ne_zero (Nat.ne_zero_of_lt bound)
      rw [moreMembers, run_onFirst_blanks blanks, run_onFirst _ (by decide), if_pos rfl]
      rfl
  | @cons m text ms texts part _ ih =>
    cases part with
    | @mk name k v key =>
      cases further with
      | @some b b' _ _ t blanks blanks' more =>
        obtain ⟨n, rfl⟩ := Nat.exists_eq_succ_of_ne_zero (Nat.ne_zero_of_lt bound)
        simp only [List.length_append, List.length_cons] at bound
        have stops : Stops (t ++ '\x7d' :: rest) := stops_further more (by decide) rest
        have first := h.run_member key (allowed _ List.mem_cons_self) fresh.head stops
        simp only [List.append_assoc, List.cons_append]
        rw [run_moreMembers_comma blanks blanks' key, run_bind_ok first,
          ih more (fun m mem => allowed m (List.mem_cons_of_mem _ mem)) fresh.tail n (by omega)]
        simp

theorem moreMembers_repeated (parts : List.Forall₂ Member (before ++ (name, v) :: after) texts)
    (further : Further texts t) (allowed : ∀ m ∈ before, form.Allows m) (known : name ∈ form.names)
    (again : name ∈ before.map Prod.fst ∨ name ∈ seen) (n : Nat) (bound : t.length < n)
    (rest : List Char) :
    moreMembers fields n (draft seen) (t ++ '\x7d' :: rest) = .error .mismatched := by
  obtain ⟨n, rfl⟩ := Nat.exists_eq_succ_of_ne_zero (Nat.ne_zero_of_lt bound)
  induction before generalizing seen t n texts with
  | nil =>
    obtain _ | ⟨part, _⟩ := parts
    cases part with
    | mk key =>
      cases further with
      | some blanks blanks' more =>
        have seen_again : name ∈ seen := again.resolve_left List.not_mem_nil
        simp only [List.append_assoc, List.cons_append]
        rw [run_moreMembers_comma blanks blanks' key,
          run_bind_error (h.member_repeated key known seen_again)]
  | cons m before ih =>
    obtain _ | ⟨part, parts⟩ := parts
    cases part with
    | @mk name' k v key =>
      cases further with
      | @some b b' _ _ t blanks blanks' more =>
        simp only [List.length_append, List.length_cons] at bound
        simp only [List.append_assoc, List.cons_append]
        rw [run_moreMembers_comma blanks blanks' key]
        -- Another field may come twice before this one does.
        by_cases twice : name' ∈ form.names ∧ name' ∈ seen
        · rw [run_bind_error (h.member_repeated key twice.1 twice.2)]
        · have stops : Stops (t ++ '\x7d' :: rest) := stops_further more (by decide) rest
          have first := h.run_member key (allowed _ List.mem_cons_self) (not_and.mp twice) stops
          rw [run_bind_ok first]
          obtain ⟨n, rfl⟩ := Nat.exists_eq_succ_of_ne_zero (show n ≠ 0 by omega)
          refine ih parts more (fun m mem => allowed m (List.mem_cons_of_mem _ mem)) ?_ n (by omega)
          simp only [List.map_cons, List.mem_cons] at again ⊢
          tauto

theorem run_members (parts : List.Forall₂ Member ms texts) (listed : Listed texts t)
    (allowed : ∀ m ∈ ms, form.Allows m) (fresh : Fresh form [] ms) (rest : List Char) :
    members fields (draft []) (t ++ '\x7d' :: rest) =
      .ok (draft (ms.map Prod.fst).reverse, '\x7d' :: rest) := by
  obtain _ | ⟨part, parts⟩ := parts
  · cases listed with
    | none blanks =>
      rw [members, run_onFirst_blanks blanks, run_onFirst _ (by decide), if_pos rfl]
      rfl
  · cases part with
    | mk key =>
      cases listed with
      | @some _ _ _ t blanks more =>
        have stops : Stops (t ++ '\x7d' :: rest) := stops_further more (by decide) rest
        have first := h.run_member key (allowed _ List.mem_cons_self) fresh.head stops
        have bound : t.length < (t ++ '\x7d' :: rest).length + 1 := by
          rw [List.length_append]
          omega
        simp only [List.append_assoc]
        rw [run_members_key blanks key, run_bind_ok first, h.run_moreMembers parts more
          (fun m mem => allowed m (List.mem_cons_of_mem _ mem)) fresh.tail _ bound]
        simp

theorem members_repeated (parts : List.Forall₂ Member (before ++ (name, v) :: after) texts)
    (listed : Listed texts t) (allowed : ∀ m ∈ before, form.Allows m) (known : name ∈ form.names)
    (again : name ∈ before.map Prod.fst) (rest : List Char) :
    members fields (draft []) (t ++ '\x7d' :: rest) = .error .mismatched := by
  obtain _ | ⟨m, before⟩ := before
  · cases again
  obtain _ | ⟨part, parts⟩ := parts
  cases part with
  | @mk first k v key =>
    cases listed with
    | @some _ _ _ t blanks more =>
      have stops : Stops (t ++ '\x7d' :: rest) := stops_further more (by decide) rest
      have unseen : first ∈ form.names → first ∉ [] := fun _ => List.not_mem_nil
      have first := h.run_member key (allowed _ List.mem_cons_self) unseen stops
      simp only [List.append_assoc]
      rw [run_members_key blanks key, run_bind_ok first]
      refine h.moreMembers_repeated parts more (fun m mem => allowed m (List.mem_cons_of_mem _ mem))
        known ?_ _ (by rw [List.length_append]; omega) rest
      simpa [or_comm] using again

omit h in
theorem run_record_object {b : List Char} (blanks : Blanks b) (s : List Char) :
    record fields (draft []) finish (b ++ '\x7b' :: s) = (members fields (draft []) >>= fun d =>
      match finish d with
      | some a => do close '\x7d'; pure a
      | none => fail .mismatched) s := by
  rw [record, run_onFirst_blanks blanks, run_onFirst _ (by decide), if_neg (by decide), if_pos rfl]
  rfl

omit h in
theorem run_record_array {b : List Char} (blanks : Blanks b) (s : List Char) :
    record fields (draft []) finish (b ++ '[' :: s) = (elements true fields (draft []) >>= fun d =>
      match finish d with
      | some a => do close ']'; pure a
      | none => fail .mismatched) s := by
  rw [record, run_onFirst_blanks blanks, run_onFirst _ (by decide), if_pos rfl]
  rfl

omit h in
theorem exists_repeated (twice : 2 ≤ (ms.map Prod.fst).count name) : ∃ before v after,
    ms = before ++ (name, v) :: after ∧ name ∈ before.map Prod.fst := by
  induction ms with
  | nil => simp at twice
  | cons m ms ih =>
    by_cases here : m.1 = name
    · rw [List.map_cons, here, List.count_cons_self] at twice
      have again : name ∈ ms.map Prod.fst := List.count_pos_iff.mp (by omega)
      obtain ⟨⟨name', v⟩, mem, rfl⟩ := List.mem_map.mp again
      obtain ⟨between, after, rfl⟩ := List.append_of_mem mem
      exact ⟨m :: between, v, after, rfl, by simp [here]⟩
    · rw [List.map_cons, List.count_cons_of_ne here] at twice
      obtain ⟨before, v, after, rfl, mem⟩ := ih twice
      exact ⟨m :: before, v, after, rfl, List.mem_cons_of_mem _ mem⟩

theorem run_object (b : List Char) (blanks : Blanks b) (parts : List.Forall₂ Member ms texts)
    (listed : Listed texts t) (allowed : ∀ m ∈ ms, form.Allows m) (fresh : Fresh form [] ms)
    (whole : ∀ name ∈ form.names, name ∈ ms.map Prod.fst) (rest : List Char) :
    record fields (draft []) finish (b ++ '\x7b' :: (t ++ '\x7d' :: rest)) = .ok (a, rest) := by
  have finished : finish (draft (ms.map Prod.fst).reverse) = some a := by
    rw [h.finish, if_pos (by simpa using whole)]
  rw [run_record_object blanks, run_bind_ok (h.run_members parts listed allowed fresh rest),
    finished]
  exact run_bind_ok (run_close blanks_nil (by decide) rest) _

theorem run_object_repeated (b : List Char) (blanks : Blanks b)
    (parts : List.Forall₂ Member (before ++ (name, v) :: after) texts)
    (listed : Listed texts t) (allowed : ∀ m ∈ before, form.Allows m) (known : name ∈ form.names)
    (again : name ∈ before.map Prod.fst) (rest : List Char) :
    record fields (draft []) finish (b ++ '\x7b' :: (t ++ '\x7d' :: rest)) =
      .error .mismatched := by
  rw [run_record_object blanks,
    run_bind_error (h.members_repeated parts listed allowed known again rest)]

theorem run_object_missing (b : List Char) (blanks : Blanks b)
    (parts : List.Forall₂ Member ms texts) (listed : Listed texts t)
    (allowed : ∀ m ∈ ms, form.Allows m) (known : name ∈ form.names)
    (missing : name ∉ ms.map Prod.fst) (rest : List Char) :
    record fields (draft []) finish (b ++ '\x7b' :: (t ++ '\x7d' :: rest)) =
      .error .mismatched := by
  -- A field that comes twice is noticed before one that is left out.
  by_cases fresh : Fresh form [] ms
  · have unfinished : finish (draft (ms.map Prod.fst).reverse) = none := by
      rw [h.finish, if_neg fun whole => missing (by simpa using whole name known)]
    rw [run_record_object blanks, run_bind_ok (h.run_members parts listed allowed fresh rest),
      unfinished]
    rfl
  · obtain ⟨name', known', twice⟩ :
        ∃ name' ∈ form.names, 1 < (ms.map Prod.fst).count name' := by simpa [Fresh] using fresh
    obtain ⟨before, v, after, rfl, again⟩ := exists_repeated twice
    exact h.run_object_repeated b blanks parts listed
      (fun m mem => allowed m (List.mem_append_left _ mem)) known' again rest

omit h in
theorem run_elements_closed {b : List Char} (blanks : Blanks b) (first : Bool) (field : Field δ)
    (d : δ) : elements first (field :: fields) d (b ++ ']' :: rest) = .error .mismatched := by
  rw [elements, run_onFirst_blanks blanks, run_onFirst _ (by decide), if_pos rfl]
  rfl

omit h in
theorem run_elements_first {b : List Char} (blanks : Blanks b) (opens : Opens v) (field : Field δ)
    (d : δ) (s : List Char) : elements true (field :: fields) d (b ++ (v ++ s)) =
      (field.read d >>= elements false fields) (v ++ s) := by
  obtain ⟨c, v, rfl, printed, other⟩ := opens
  rw [elements, run_onFirst_blanks blanks, List.cons_append, run_onFirst _ printed, if_neg other,
    if_pos rfl]

omit h in
theorem run_elements_comma {b b' : List Char} (blanks : Blanks b) (blanks' : Blanks b')
    (opens : Opens v) (field : Field δ) (d : δ) (s : List Char) :
    elements false (field :: fields) d (b ++ ',' :: (b' ++ (v ++ s))) =
      (field.read d >>= elements false fields) (v ++ s) := by
  obtain ⟨c, v, rfl, printed, other⟩ := opens
  rw [elements, run_onFirst_blanks blanks, run_onFirst _ (by decide), if_neg (by decide),
    if_neg (by decide), if_pos rfl, run_advance, run_onFirst_blanks blanks', List.cons_append,
    run_onFirst _ printed, if_neg other]

omit h in
theorem run_elements_further {n : Nat} {vs : List (List Char)}
    (each : List.Forall₂ (Fills draft) fields form)
    (values : List.Forall₂ (fun entry v => entry.2 v) (form.take n) vs) (further : Further vs t)
    (rest : List Char) : ∃ b, Blanks b ∧ elements false fields (draft seen) (t ++ ']' :: rest) =
      if form.length ≤ n then .ok (draft (form.names.reverse ++ seen), b ++ ']' :: rest)
      else .error .mismatched := by
  induction each generalizing n vs t seen with
  | nil =>
    rw [List.take_nil] at values
    cases values
    cases further with
    | none blanks => exact ⟨t, blanks, rfl⟩
  | cons fills _ ih =>
    cases n with
    | zero =>
      cases values
      cases further with
      | none blanks => exact ⟨t, blanks, run_elements_closed blanks false _ _⟩
    | succ n =>
      obtain _ | @⟨_, v, _, _, value, values⟩ := values
      cases further with
      | @some _ _ _ _ t blanks blanks' more =>
        have stops : Stops (t ++ ']' :: rest) := stops_further more (by decide) rest
        have read := (fills.reads seen v value).front stops
        obtain ⟨b, blanks'', rests⟩ := ih values more
        refine ⟨b, blanks'', ?_⟩
        simp only [List.append_assoc, List.cons_append]
        rw [run_elements_comma blanks blanks' (fills.opens v value), run_bind_ok read, rests]
        simp [names]

omit h in
theorem run_elements {n : Nat} {vs : List (List Char)}
    (each : List.Forall₂ (Fills draft) fields form)
    (values : List.Forall₂ (fun entry v => entry.2 v) (form.take n) vs) (listed : Listed vs t)
    (rest : List Char) : ∃ b, Blanks b ∧ elements true fields (draft []) (t ++ ']' :: rest) =
      if form.length ≤ n then .ok (draft form.names.reverse, b ++ ']' :: rest)
      else .error .mismatched := by
  obtain _ | ⟨fills, each⟩ := each
  · rw [List.take_nil] at values
    cases values
    cases listed with
    | none blanks => exact ⟨t, blanks, rfl⟩
  · cases n with
    | zero =>
      cases values
      cases listed with
      | none blanks => exact ⟨t, blanks, run_elements_closed blanks true _ _⟩
    | succ n =>
      obtain _ | @⟨_, v, _, _, value, values⟩ := values
      cases listed with
      | @some _ _ _ t blanks more =>
        have stops : Stops (t ++ ']' :: rest) := stops_further more (by decide) rest
        have read := (fills.reads [] v value).front stops
        obtain ⟨b, blanks', rests⟩ := run_elements_further each values more rest
        refine ⟨b, blanks', ?_⟩
        simp only [List.append_assoc]
        rw [run_elements_first blanks (fills.opens v value), run_bind_ok read, rests]
        simp [names]

theorem run_array {vs : List (List Char)} (b : List Char) (blanks : Blanks b)
    (values : List.Forall₂ (fun entry v => entry.2 v) form vs) (listed : Listed vs t)
    (rest : List Char) :
    record fields (draft []) finish (b ++ '[' :: (t ++ ']' :: rest)) = .ok (a, rest) := by
  have whole : List.Forall₂ (fun entry v => entry.2 v) (form.take form.length) vs := by
    rwa [List.take_length]
  obtain ⟨b', blanks', read⟩ := run_elements h.each whole listed rest
  rw [if_pos le_rfl] at read
  have finished : finish (draft form.names.reverse) = some a := by
    rw [h.finish, if_pos (by simp)]
  rw [run_record_array blanks, run_bind_ok read, finished]
  exact run_bind_ok (run_close blanks' (by decide) rest) _

theorem run_array_short {n : Nat} {vs : List (List Char)} (b : List Char) (blanks : Blanks b)
    (fewer : n < form.length)
    (values : List.Forall₂ (fun entry v => entry.2 v) (form.take n) vs) (listed : Listed vs t)
    (rest : List Char) :
    record fields (draft []) finish (b ++ '[' :: (t ++ ']' :: rest)) = .error .mismatched := by
  obtain ⟨b', blanks', read⟩ := run_elements h.each values listed rest
  rw [if_neg (by omega)] at read
  rw [run_record_array blanks, run_bind_error read]

end Filling

/-- A reader finds a value in every record of a form, and misses no field that comes twice, whatever
its second value, or is left out. -/
structure ReadBy (form : Form) (read : Reader α) (a : α) : Prop where
  object : ∀ ms t, ObjectText ms t → (∀ m ∈ ms, form.Allows m) →
    (∀ name ∈ form.names, (ms.map Prod.fst).count name = 1) → decode read t = .ok a
  repeated : ∀ before name v after t, ObjectText (before ++ (name, v) :: after) t →
    (∀ m ∈ before, form.Allows m) → name ∈ form.names → name ∈ before.map Prod.fst →
      decode read t = .error .mismatched
  missing : ∀ ms t name, ObjectText ms t → (∀ m ∈ ms, form.Allows m) → name ∈ form.names →
    name ∉ ms.map Prod.fst → decode read t = .error .mismatched
  array : ∀ vs t, ArrayText vs t → List.Forall₂ (fun entry v => entry.2 v) form vs →
    decode read t = .ok a
  short : ∀ n vs t, n < form.length → ArrayText vs t →
    List.Forall₂ (fun entry v => entry.2 v) (form.take n) vs → decode read t = .error .mismatched

theorem decode_ok {read : Reader α} (reads : read t = .ok (a, rest)) (blanks : Blanks rest) :
    decode read t = .ok a := by
  have after : rest.all isBlank = true := List.all_eq_true.mpr (Blanks.all blanks)
  simp only [decode, reads, bind, Except.bind, if_pos after]
  rfl

theorem decode_error {read : Reader α} {f : Fault} (fails : read t = .error f) :
    decode read t = .error f := by
  simp only [decode, fails, bind, Except.bind]

theorem Filling.readBy (h : Filling form fields finish a draft) :
    form.ReadBy (record fields (draft []) finish) a where
  object ms t text allowed once := by
    cases text with
    | mk blanks blanks' parts listed =>
      have fresh : Fresh form [] ms := fun name known => by simp [once name known]
      have whole : ∀ name ∈ form.names, name ∈ ms.map Prod.fst := fun name known =>
        List.count_pos_iff.mp (by rw [once name known]; decide)
      exact decode_ok (h.run_object _ blanks parts listed allowed fresh whole _) blanks'
  repeated before name v after t text allowed known again := by
    cases text with
    | mk blanks _ parts listed =>
      exact decode_error (h.run_object_repeated _ blanks parts listed allowed known again _)
  missing ms t name text allowed known missing := by
    cases text with
    | mk blanks _ parts listed =>
      exact decode_error (h.run_object_missing _ blanks parts listed allowed known missing _)
  array vs t text values := by
    cases text with
    | mk blanks blanks' listed => exact decode_ok (h.run_array _ blanks values listed _) blanks'
  short n vs t fewer text values := by
    cases text with
    | mk blanks _ listed => exact decode_error (h.run_array_short _ blanks fewer values listed _)

end Form

end ProcessorSockets.Json
