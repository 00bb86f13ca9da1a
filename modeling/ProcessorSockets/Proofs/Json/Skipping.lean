import ProcessorSockets.Proofs.Json.Number

namespace ProcessorSockets.Json.Reader

open Grammar
open Text.Decimal (isDigit Digits Whole)

variable {b k t v rest ds f e : List Char} {vs : List (List Char)} {c : Char}

theorem skipString_plain (plain : Plain c) (s : List Char) :
    skipString (c :: s) = skipString s := by
  rw [skipString.eq_def]
  simp only [if_neg plain.quote, if_neg plain.backslash, if_neg (Nat.not_lt.mpr plain.printed)]

theorem skipString_letter {e : Char} (mem : (e, c) ∈ letters) (s : List Char) :
    skipString ('\\' :: e :: s) = skipString s := by
  have known : e ≠ 'u' ∧ (letterEscape? e).isSome = true := by
    simp only [letters, List.mem_cons, Prod.mk.injEq, List.not_mem_nil, or_false] at mem
    rcases mem with ⟨rfl, rfl⟩ | ⟨rfl, rfl⟩ | ⟨rfl, rfl⟩ | ⟨rfl, rfl⟩ | ⟨rfl, rfl⟩ | ⟨rfl, rfl⟩ |
      ⟨rfl, rfl⟩ | ⟨rfl, rfl⟩ <;> decide
  rw [skipString, if_neg (by decide), if_pos rfl]
  simp only [if_neg known.1, if_pos known.2]

theorem skipString_number {n : Nat} {q : List Char} (h : Quad n q) (s : List Char) :
    skipString ('\\' :: 'u' :: (q ++ s)) = skipString s := by
  have reads := fourDigits_quad h s
  rw [skipString, if_neg (by decide), if_pos rfl]
  simp only [if_true]
  split
  · rename_i f fails
    rw [reads] at fails
    cases fails
  · rename_i n' left reads'
    rw [reads] at reads'
    cases reads'
    rfl

theorem skipString_raw (h : Raw t) (rest : List Char) :
    skipString (t ++ '"' :: rest) = .ok ((), rest) := by
  induction h with
  | nil =>
    rw [List.nil_append, skipString.eq_def]
    rfl
  | plain plain _ ih => rw [List.cons_append, skipString_plain plain, ih]
  | letter mem _ ih => rw [List.cons_append, List.cons_append, skipString_letter mem, ih]
  | number quad _ ih =>
    rw [List.cons_append, List.cons_append, List.append_assoc, skipString_number quad, ih]

theorem head_key {inner : List Char → Prop} (h : Key inner k) : ∃ rest, k = '"' :: rest := by
  cases h with | mk => exact ⟨_, rfl⟩

theorem run_skipKey (blanks : Blanks b) (h : Key Raw k) (rest : List Char) :
    ∃ b', Blanks b' ∧ skipKey (b ++ (k ++ rest)) = .ok ((), b' ++ rest) := by
  cases h with
  | @mk t b₁ b₂ raw blanks₁ blanks₂ =>
    refine ⟨b₂, blanks₂, ?_⟩
    simp only [List.cons_append, List.append_assoc]
    rw [skipKey, run_onFirst_blanks blanks, run_onFirst _ (by decide), if_pos rfl, run_advance,
      run_bind_ok (skipString_raw raw _), run_onFirst_blanks blanks₁, run_onFirst _ (by decide),
      if_pos rfl]
    rfl

theorem run_skipDigits (h : Digits ds) (stops : ∀ c ∈ rest.head?, isDigit c = false) :
    skipDigits (ds ++ rest) = .ok ((), rest) := by
  rw [skipDigits, run_bind_ok (run_digits h.all stops), if_neg (by simp [h.some])]
  rfl

theorem skipExponent_bare {s : List Char} (sign : s.head? ≠ some '-' ∧ s.head? ≠ some '+') :
    skipExponent s = skipDigits s := by
  unfold skipExponent
  split
  · exact absurd rfl sign.2
  · exact absurd rfl sign.1
  · rfl

theorem run_skipExponent {sign : List Char} (mem : sign ∈ [[], ['+'], ['-']]) (h : Digits ds)
    (stops : Stops rest) : skipExponent (sign ++ (ds ++ rest)) = .ok ((), rest) := by
  have read := run_skipDigits h fun c mem => (stops c mem).1
  simp only [List.mem_cons, List.not_mem_nil, or_false] at mem
  obtain rfl | rfl | rfl := mem
  · obtain ⟨c, more, rfl⟩ := List.exists_cons_of_ne_nil h.some
    exact (skipExponent_bare (s := c :: more ++ rest) h.sign).trans read
  · exact read
  · exact read

theorem run_skipTail (h : Exponent e) (stops : Stops rest) :
    skipTail (e ++ rest) = .ok ((), rest) := by
  cases h with
  | none =>
    rw [List.nil_append]
    unfold skipTail
    split
    · exact absurd rfl (stops 'e' rfl).2.2.1
    · exact absurd rfl (stops 'E' rfl).2.2.2
    · rfl
  | some letter sign digits =>
    have read := run_skipExponent sign digits stops
    simp only [List.mem_cons, List.not_mem_nil, or_false] at letter
    rw [List.cons_append, List.append_assoc]
    obtain rfl | rfl := letter <;> exact read

theorem head_exponent (h : Exponent e) (stops : Stops rest) :
    ∀ c ∈ (e ++ rest).head?, isDigit c = false ∧ c ≠ '.' := by
  cases h with
  | none => exact fun c mem => ⟨(stops c mem).1, (stops c mem).2.1⟩
  | some letter =>
    simp only [List.mem_cons, List.not_mem_nil, or_false] at letter
    rintro c ⟨⟩
    obtain rfl | rfl := letter <;> decide

theorem run_skipNumber (whole : Whole ds) (fraction : Fraction f) (exponent : Exponent e)
    (stops : Stops rest) : skipNumber (ds ++ (f ++ (e ++ rest))) = .ok ((), rest) := by
  have after := head_exponent exponent stops
  have tail := run_skipTail exponent stops
  have lead : ¬(ds.isEmpty = true ∨ (ds.head? = some '0' ∧ ds.length > 1)) := by
    rintro (none | ⟨zero, long⟩)
    · exact whole.some (List.isEmpty_iff.mp none)
    · rw [whole.lead zero] at long
      exact absurd long (by decide)
  cases fraction with
  | none =>
    have read := run_digits whole.all fun c mem => (after c mem).1
    rw [List.nil_append, skipNumber, run_bind_ok read, if_neg lead]
    split
    · rename_i is
      exact absurd rfl (after '.' (by rw [is]; rfl)).2
    · exact tail
  | some digits =>
    rw [skipNumber, run_bind_ok (run_digits whole.all (by rintro c ⟨⟩; decide)), if_neg lead]
    exact (run_bind_ok (run_skipDigits digits fun c mem => (after c mem).1) _).trans tail

/-- A value is skipped whenever the bound is its length or more. -/
def Skips (v : List Char) : Prop :=
  ∀ n b rest, v.length ≤ n → Blanks b → Stops rest → skipValue n (b ++ (v ++ rest)) = .ok ((), rest)

theorem stops_further (h : Further vs t) (mem : c ∈ [' ', '\t', '\n', '\r', ',', ']', '\x7d'])
    (rest : List Char) : Stops (t ++ c :: rest) := by
  cases h with
  | none blanks => exact stops_append blanks (stops_cons mem rest)
  | some blanks =>
    rw [List.append_assoc]
    exact stops_append blanks (stops_cons (by decide) _)

theorem skipElements_further (h : Further vs t) (each : ∀ v ∈ vs, Skips v) (n : Nat)
    (bound : t.length < n) (rest : List Char) :
    skipElements n (t ++ ']' :: rest) = .ok ((), rest) := by
  induction h generalizing n with
  | none blanks =>
    obtain ⟨n, rfl⟩ := Nat.exists_eq_succ_of_ne_zero (Nat.ne_zero_of_lt bound)
    rw [skipElements, run_onFirst_blanks blanks, run_onFirst _ (by decide), if_pos rfl]
    rfl
  | @some b b' v vs t blanks blanks' more ih =>
    obtain ⟨n, rfl⟩ := Nat.exists_eq_succ_of_ne_zero (Nat.ne_zero_of_lt bound)
    simp only [List.length_append, List.length_cons] at bound
    have first := each v List.mem_cons_self n b' (t ++ ']' :: rest) (by omega) blanks'
      (stops_further more (by decide) rest)
    rw [skipElements, List.append_assoc, run_onFirst_blanks blanks, List.cons_append,
      run_onFirst _ (by decide), if_neg (by decide), if_pos rfl, run_advance, List.append_assoc,
      List.append_assoc, run_bind_ok first]
    exact ih (fun v mem => each v (List.mem_cons_of_mem _ mem)) n (by omega)

theorem head_number (h : NumberText t) :
    ∃ c rest, t = c :: rest ∧ (c = '-' ∨ isDigit c = true) := by
  cases h with
  | bare whole =>
    obtain ⟨c, more, rfl⟩ := List.exists_cons_of_ne_nil whole.some
    exact ⟨c, _, rfl, .inr (whole.all c List.mem_cons_self)⟩
  | minus => exact ⟨'-', _, rfl, .inl rfl⟩

def Opens (v : List Char) : Prop := ∃ c rest, v = c :: rest ∧ isBlank c = false ∧ c ≠ ']'

theorem opens_value (h : Value v) : Opens v := by
  cases h with
  | number h =>
    obtain ⟨c, rest, rfl, minus | digit⟩ := head_number h
    · exact ⟨c, rest, rfl, by rw [minus]; decide, by rw [minus]; decide⟩
    · exact ⟨c, rest, rfl, isBlank_digit digit, by rintro rfl; exact absurd digit (by decide)⟩
  | string h => cases h with | mk => exact ⟨'"', _, rfl, by decide⟩
  | null => exact ⟨'n', _, rfl, by decide⟩
  | true => exact ⟨'t', _, rfl, by decide⟩
  | false => exact ⟨'f', _, rfl, by decide⟩
  | array => exact ⟨'[', _, rfl, by decide⟩
  | object => exact ⟨'\x7b', _, rfl, by decide⟩

theorem skips_number (h : NumberText v) : Skips v := by
  intro n b rest bound blanks stops
  obtain ⟨n, rfl⟩ : ∃ k, n = k + 1 := Nat.exists_eq_succ_of_ne_zero fun none => by
    obtain ⟨c, more, rfl, _⟩ := head_number h
    simp [none] at bound
  rw [skipValue, run_onFirst_blanks blanks]
  cases h with
  | @bare ds f e whole fraction exponent =>
    have read := run_skipNumber whole fraction exponent stops
    obtain ⟨c, more, rfl⟩ := List.exists_cons_of_ne_nil whole.some
    have digit : isDigit c = true := whole.all c List.mem_cons_self
    simp only [List.append_assoc, List.cons_append] at read ⊢
    rw [run_onFirst _ (isBlank_digit digit)]
    split <;> first | exact absurd digit (by decide) | skip
    rw [if_pos digit]
    exact read
  | @minus ds f e whole fraction exponent =>
    have read := run_skipNumber whole fraction exponent stops
    simp only [List.append_assoc, List.cons_append] at read ⊢
    rw [run_onFirst _ (by decide)]
    exact read

theorem run_skipValue_array (n : Nat) (s : List Char) : skipValue (n + 1) ('[' :: s) =
    onFirst (fun c => if c = ']' then advance else do skipValue n; skipElements n) s := rfl

theorem run_skipValue_object (n : Nat) (s : List Char) : skipValue (n + 1) ('\x7b' :: s) =
    onFirst (fun c => if c = '\x7d' then advance else do skipKey; skipValue n; skipMembers n) s :=
  rfl

theorem skipValue_blanks (blanks : Blanks b) (n : Nat) (s : List Char) :
    skipValue (n + 1) (b ++ s) = skipValue (n + 1) s := by
  rw [skipValue, run_onFirst_blanks blanks]

theorem skips_array (h : Listed vs t) (values : ∀ v ∈ vs, Value v) (each : ∀ v ∈ vs, Skips v) :
    Skips ('[' :: (t ++ [']'])) := by
  intro n b rest bound blanks stops
  simp only [List.length_cons, List.length_append, List.length_nil] at bound
  obtain ⟨n, rfl⟩ := Nat.exists_eq_succ_of_ne_zero (show n ≠ 0 by omega)
  rw [skipValue_blanks blanks, List.cons_append, run_skipValue_array, List.append_assoc,
    List.singleton_append]
  cases h with
  | none blanks' =>
    rw [run_onFirst_blanks blanks', run_onFirst _ (by decide), if_pos rfl]
    rfl
  | @some b' v vs t blanks' more =>
    simp only [List.length_append] at bound
    have first := each v List.mem_cons_self n [] (t ++ ']' :: rest) (by omega) blanks_nil
      (stops_further more (by decide) rest)
    obtain ⟨c, v', rfl, printed, other⟩ := opens_value (values _ List.mem_cons_self)
    rw [List.append_assoc, run_onFirst_blanks blanks', List.append_assoc, List.cons_append,
      run_onFirst _ printed, if_neg other]
    refine (run_bind_ok first _).trans ?_
    exact skipElements_further more (fun v mem => each v (List.mem_cons_of_mem _ mem)) n (by omega)
      rest

theorem skipMembers_further {ms : List (List Char × List Char)}
    (h : Further (ms.map fun m => m.1 ++ m.2) t) (keys : ∀ m ∈ ms, Key Raw m.1)
    (each : ∀ m ∈ ms, Skips m.2) (n : Nat) (bound : t.length < n) (rest : List Char) :
    skipMembers n (t ++ '\x7d' :: rest) = .ok ((), rest) := by
  induction ms generalizing n t with
  | nil =>
    cases h with
    | none blanks =>
      obtain ⟨n, rfl⟩ := Nat.exists_eq_succ_of_ne_zero (Nat.ne_zero_of_lt bound)
      rw [skipMembers, run_onFirst_blanks blanks, run_onFirst _ (by decide), if_pos rfl]
      rfl
  | cons m ms ih =>
    cases h with
    | @some b b' v vs t blanks blanks' more =>
      obtain ⟨n, rfl⟩ := Nat.exists_eq_succ_of_ne_zero (Nat.ne_zero_of_lt bound)
      simp only [List.length_append, List.length_cons] at bound
      obtain ⟨b'', blanks'', key⟩ := run_skipKey blanks' (keys m List.mem_cons_self)
        (m.2 ++ (t ++ '\x7d' :: rest))
      have value := each m List.mem_cons_self n b'' (t ++ '\x7d' :: rest) (by omega) blanks''
        (stops_further more (by decide) rest)
      rw [skipMembers, List.append_assoc, run_onFirst_blanks blanks, List.cons_append,
        run_onFirst _ (by decide), if_neg (by decide), if_pos rfl, run_advance]
      simp only [List.append_assoc]
      rw [run_bind_ok key, run_bind_ok value]
      exact ih more (fun m mem => keys m (List.mem_cons_of_mem _ mem))
        (fun m mem => each m (List.mem_cons_of_mem _ mem)) n (by omega)

theorem skips_object {ms : List (List Char × List Char)} (h : Listed (ms.map fun m => m.1 ++ m.2) t)
    (keys : ∀ m ∈ ms, Key Raw m.1) (each : ∀ m ∈ ms, Skips m.2) :
    Skips ('\x7b' :: (t ++ ['\x7d'])) := by
  intro n b rest bound blanks stops
  simp only [List.length_cons, List.length_append, List.length_nil] at bound
  obtain ⟨n, rfl⟩ := Nat.exists_eq_succ_of_ne_zero (show n ≠ 0 by omega)
  rw [skipValue_blanks blanks, List.cons_append, run_skipValue_object, List.append_assoc,
    List.singleton_append]
  cases ms with
  | nil =>
    cases h with
    | none blanks' =>
      rw [run_onFirst_blanks blanks', run_onFirst _ (by decide), if_pos rfl]
      rfl
  | cons m ms =>
    cases h with
    | @some b' v vs t blanks' more =>
      simp only [List.length_append] at bound
      obtain ⟨k', is⟩ := head_key (keys m List.mem_cons_self)
      obtain ⟨b'', blanks'', key⟩ := run_skipKey blanks_nil (keys m List.mem_cons_self)
        (m.2 ++ (t ++ '\x7d' :: rest))
      have value := each m List.mem_cons_self n b'' (t ++ '\x7d' :: rest) (by omega) blanks''
        (stops_further more (by decide) rest)
      simp only [List.append_assoc]
      rw [run_onFirst_blanks blanks', is, List.cons_append, run_onFirst _ (by decide),
        if_neg (by decide), ← List.cons_append, ← is]
      refine (run_bind_ok key _).trans ((run_bind_ok value _).trans ?_)
      exact skipMembers_further more (fun m mem => keys m (List.mem_cons_of_mem _ mem))
        (fun m mem => each m (List.mem_cons_of_mem _ mem)) n (by omega) rest

theorem run_word (w rest : List Char) : word w (w ++ rest) = .ok ((), rest) := by
  induction w with
  | nil => rfl
  | cons c w ih => exact (if_pos rfl).trans ih

theorem skips_string (h : Quoted Raw v) : Skips v := by
  intro n b rest bound blanks stops
  cases h with
  | @mk t raw =>
    obtain ⟨n, rfl⟩ := Nat.exists_eq_succ_of_ne_zero (Nat.ne_zero_of_lt bound)
    rw [skipValue_blanks blanks, List.cons_append, List.append_assoc]
    exact skipString_raw raw rest

theorem skips_word {w : List Char} (reads : ∀ n s, skipValue (n + 1) (c :: s) = word w s) :
    Skips (c :: w) := by
  intro n b rest bound blanks stops
  obtain ⟨n, rfl⟩ := Nat.exists_eq_succ_of_ne_zero (Nat.ne_zero_of_lt bound)
  rw [skipValue_blanks blanks, List.cons_append, reads, run_word]

/-- Whatever its shape, a value is skipped to its end. -/
theorem skips (h : Value v) : Skips v := by
  induction h with
  | number h => exact skips_number h
  | string h => exact skips_string h
  | array h values each => exact skips_array h values each
  | object h keys _ each => exact skips_object h keys each
  | null => exact skips_word fun n s => rfl
  | true => exact skips_word fun n s => rfl
  | false => exact skips_word fun n s => rfl

theorem reads_skip (h : Value v) : Reads skip v () := by
  intro b rest blanks stops
  exact skips h _ b rest (by simp only [List.length_append]; omega) blanks stops

end ProcessorSockets.Json.Reader
