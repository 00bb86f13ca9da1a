import ProcessorSockets.Json.Record
import ProcessorSockets.Proofs.Json.Grammar

namespace ProcessorSockets.Json.Reader

open Grammar
open Text.Decimal (isDigit)

variable {α β : Type} {m : Reader α} {a : α} {b s t p rest : List Char} {c : Char} {f : Fault}

theorem run_bind_ok (runs : m s = .ok (a, rest)) (next : α → Reader β) :
    (m >>= next) s = next a rest := by
  simp [bind, StateT.bind, Except.bind, runs]

theorem run_bind_error (runs : m s = .error f) (next : α → Reader β) :
    (m >>= next) s = .error f := by
  simp [bind, StateT.bind, Except.bind, runs]

@[simp] theorem run_pure (a : α) (s : List Char) : (pure a : Reader α) s = .ok (a, s) := rfl

@[simp] theorem run_advance (next : Unit → Reader β) (c : Char) (s : List Char) :
    (advance >>= next) (c :: s) = next () s := rfl

theorem isBlank_iff : isBlank c = true ↔ c ∈ [' ', '\t', '\n', '\r'] := by
  simp only [isBlank, Bool.or_eq_true, beq_iff_eq, List.mem_cons, List.not_mem_nil, or_false]
  tauto

theorem Blanks.all (h : Blanks b) : ∀ c ∈ b, isBlank c = true :=
  fun c mem => isBlank_iff.mpr (h c mem)

theorem run_onFirst (read : Char → Reader α) (printed : isBlank c = false) (s : List Char) :
    onFirst read (c :: s) = read c (c :: s) := by
  have stays : (c :: s).dropWhile isBlank = c :: s := List.dropWhile_cons_of_neg (by simp [printed])
  have seen : peek (c :: s) = .ok (some c, c :: s) := by rw [peek, stays, List.head?_cons]
  rw [onFirst, run_bind_ok seen]

theorem run_onFirst_blanks (h : Blanks b) (read : Char → Reader α) (s : List Char) :
    onFirst read (b ++ s) = onFirst read s := by
  have gone : (b ++ s).dropWhile isBlank = s.dropWhile isBlank :=
    List.dropWhile_append_of_pos (Blanks.all h)
  have same : peek (b ++ s) = peek s := by rw [peek, peek, gone]
  simp only [onFirst, bind, StateT.bind, same]

/-- Goes on with no number. -/
def Stops (rest : List Char) : Prop :=
  ∀ c ∈ rest.head?, isDigit c = false ∧ c ≠ '.' ∧ c ≠ 'e' ∧ c ≠ 'E'

/-- Takes a text, and the blanks before it, off whatever follows. -/
def Takes (m : Reader α) (t : List Char) (a : α) : Prop :=
  ∀ b rest, Blanks b → m (b ++ (t ++ rest)) = .ok (a, rest)

def Reads (m : Reader α) (t : List Char) (a : α) : Prop :=
  ∀ b rest, Blanks b → Stops rest → m (b ++ (t ++ rest)) = .ok (a, rest)

/-- A part of a text is too short. -/
def Starves (m : Reader α) (t : List Char) : Prop :=
  ∀ p, p <+: t → p ≠ t → m p = .error .truncated

/-- A part of a text is too short, or it is taken as a whole. -/
def Cuts (m : Reader α) (t : List Char) : Prop :=
  ∀ p, p <+: t → p ≠ t → m p = .error .truncated ∨ ∃ a, m p = .ok (a, [])

theorem Takes.reads (h : Takes m t a) : Reads m t a := fun b rest blanks _ => h b rest blanks

theorem Takes.front (h : Takes m t a) (rest : List Char) : m (t ++ rest) = .ok (a, rest) :=
  h [] rest blanks_nil

theorem Reads.front (h : Reads m t a) (stops : Stops rest) : m (t ++ rest) = .ok (a, rest) :=
  h [] rest blanks_nil stops

theorem Starves.cuts (h : Starves m t) : Cuts m t := fun p front short => .inl (h p front short)

theorem stops_nil : Stops [] := nofun

theorem stops_cons (h : c ∈ [' ', '\t', '\n', '\r', ',', ']', '\x7d']) (rest : List Char) :
    Stops (c :: rest) := by
  rintro d ⟨⟩
  simp only [List.mem_cons, List.not_mem_nil, or_false] at h
  rcases h with rfl | rfl | rfl | rfl | rfl | rfl | rfl <;> decide

theorem stops_append (blanks : Blanks b) (stops : Stops rest) : Stops (b ++ rest) := by
  cases b with
  | nil => exact stops
  | cons c b =>
    have mem := blanks c List.mem_cons_self
    exact stops_cons (by simp only [List.mem_cons, List.not_mem_nil, or_false] at mem ⊢; tauto) _

theorem prefix_append_cases (front : p <+: s ++ t) :
    (p <+: s ∧ p ≠ s) ∨ ∃ q, q <+: t ∧ p = s ++ q := by
  by_cases whole : s <+: p
  · obtain ⟨q, rfl⟩ := whole
    exact .inr ⟨q, (List.prefix_append_right_inj s).mp front, rfl⟩
  · obtain inside | beyond := List.prefix_or_prefix_of_prefix front (List.prefix_append s t)
    · exact .inl ⟨inside, fun same => whole (same ▸ List.prefix_refl s)⟩
    · exact absurd beyond whole

theorem fourDigits_quad {n : Nat} {q : List Char} (h : Quad n q) (s : List Char) :
    fourDigits (q ++ s) = .ok (n, s) := by
  cases h with
  | mk ha hb hc hd => simp only [List.cons_append, List.nil_append, fourDigits, ha, hb, hc, hd]

theorem length_utf8_digit {i : Nat} (digit : Text.Hex.value? c = some i) :
    (String.utf8EncodeChar c).length = 1 := by
  have low : c.toNat ≤ 127 := by
    unfold Text.Hex.value? at digit
    split at digit
    · rename_i range
      exact (show c.toNat ≤ 57 from range.2).trans (by decide)
    · split at digit
      · rename_i range
        exact (show c.toNat ≤ 102 from range.2).trans (by decide)
      · split at digit
        · rename_i range
          exact (show c.toNat ≤ 70 from range.2).trans (by decide)
        · cases digit
  rw [String.length_utf8EncodeChar, Char.utf8Size_eq_one_iff]
  exact low

theorem fourDigits_cut {n : Nat} {q : List Char} (h : Quad n q) (front : p <+: q) (short : p ≠ q) :
    fourDigits p = .error .truncated := by
  cases h with
  | @mk a b c d i j k l ha hb hc hd =>
    have sizes := And.intro (length_utf8_digit ha)
      (And.intro (length_utf8_digit hb) (length_utf8_digit hc))
    obtain ⟨n, rfl⟩ : ∃ n, p = [a, b, c, d].take n := ⟨_, List.prefix_iff_eq_take.mp front⟩
    match n with
    | 0 => rfl
    | 1 => simp [fourDigits, sizes]
    | 2 => simp [fourDigits, sizes]
    | 3 => simp [fourDigits, sizes]
    | n + 4 => simp at short

theorem escape_letter {e : Char} (mem : (e, c) ∈ letters) (s : List Char) :
    escape (e :: s) = .ok (c, s) := by
  simp only [letters, List.mem_cons, Prod.mk.injEq, List.not_mem_nil, or_false] at mem
  rcases mem with ⟨rfl, rfl⟩ | ⟨rfl, rfl⟩ | ⟨rfl, rfl⟩ | ⟨rfl, rfl⟩ | ⟨rfl, rfl⟩ | ⟨rfl, rfl⟩ |
    ⟨rfl, rfl⟩ | ⟨rfl, rfl⟩ <;> rfl

theorem escape_number {n : Nat} {q : List Char} (h : Quad n q) (high : ¬High n) (low : ¬Low n)
    (s : List Char) : escape ('u' :: (q ++ s)) = .ok (Char.ofNat n, s) := by
  have reads := fourDigits_quad h s
  simp only [escape, numbered, reads, bind, Except.bind, if_neg (show ¬(_ ∧ _) from low),
    if_neg (show ¬(_ ∧ _) from high), if_true]
  rfl

theorem escape_pair {m n : Nat} {q r : List Char} (first : Quad m q) (second : Quad n r)
    (high : High m) (low : Low n) (s : List Char) :
    escape ('u' :: (q ++ '\\' :: 'u' :: (r ++ s))) =
      .ok (Char.ofNat (0x10000 + 0x400 * (m - 0xD800) + (n - 0xDC00)), s) := by
  have reads := fourDigits_quad first ('\\' :: 'u' :: (r ++ s))
  have other : ¬(0xDC00 ≤ m ∧ m ≤ 0xDFFF) := fun h => absurd (h.1.trans high.2) (by decide)
  simp only [escape, numbered, reads, bind, Except.bind, if_neg other,
    if_pos (show _ ∧ _ from high), if_true, lowHalf, fourDigits_quad second s,
    if_pos (show _ ∧ _ from low)]
  rfl

theorem escape_quad_cut {n : Nat} {q : List Char} (h : Quad n q) (front : p <+: q)
    (short : p ≠ q) : escape ('u' :: p) = .error .truncated := by
  simp only [escape, numbered, fourDigits_cut h front short, bind, Except.bind, if_true]

theorem escape_half {m : Nat} {q : List Char} (first : Quad m q) (high : High m)
    (fails : lowHalf m s = .error f) : escape ('u' :: (q ++ s)) = .error f := by
  have other : ¬(0xDC00 ≤ m ∧ m ≤ 0xDFFF) := fun h => absurd (h.1.trans high.2) (by decide)
  simp only [escape, numbered, fourDigits_quad first s, bind, Except.bind, if_neg other,
    if_pos (show _ ∧ _ from high), if_true, fails]

theorem lowHalf_cut {m n : Nat} {q : List Char} (h : Quad n q) (front : p <+: q) (short : p ≠ q) :
    lowHalf m ('\\' :: 'u' :: p) = .error .truncated := by
  simp only [lowHalf, fourDigits_cut h front short, bind, Except.bind]

theorem stringBody_quote (s : List Char) : stringBody ('"' :: s) = .ok ([], s) := by
  rw [stringBody, if_pos rfl]

theorem stringBody_plain (plain : Plain c) (s : List Char) :
    stringBody (c :: s) = (stringBody s).map fun (cs, left) => (c :: cs, left) := by
  rw [stringBody, if_neg plain.quote, if_neg plain.backslash, if_neg (Nat.not_lt.mpr plain.printed)]

theorem stringBody_escape (reads : escape s = .ok (c, rest)) :
    stringBody ('\\' :: s) = (stringBody rest).map fun (cs, left) => (c :: cs, left) := by
  rw [stringBody, if_neg (by decide), if_pos rfl]
  split
  · rename_i f fails
    rw [reads] at fails
    cases fails
  · rename_i d more reads'
    rw [reads] at reads'
    cases reads'
    rfl

theorem stringBody_escape_error (fails : escape s = .error f) :
    stringBody ('\\' :: s) = .error f := by
  rw [stringBody, if_neg (by decide), if_pos rfl]
  split
  · rename_i f' fails'
    rw [fails] at fails'
    cases fails'
    rfl
  · rename_i d more reads
    rw [fails] at reads
    cases reads

theorem stringBody_spelling {cs : List Char} (h : Spelling cs t) (rest : List Char) :
    stringBody (t ++ '"' :: rest) = .ok (cs, rest) := by
  induction h with
  | nil => exact stringBody_quote rest
  | plain plain _ ih => rw [List.cons_append, stringBody_plain plain, ih]; rfl
  | letter mem _ ih =>
    rw [List.cons_append, List.cons_append, stringBody_escape (escape_letter mem _), ih]
    rfl
  | number quad high low _ ih =>
    rw [List.cons_append, List.cons_append, List.append_assoc,
      stringBody_escape (escape_number quad high low _), ih]
    rfl
  | @pair m n q r cs t first second high low _ ih =>
    have reads := escape_pair first second high low (t ++ '"' :: rest)
    simp only [List.cons_append, List.append_assoc]
    rw [stringBody_escape reads, ih]
    rfl

theorem stringBody_nil : stringBody [] = .error .truncated := by rw [stringBody]

/-- Without its closing quote a string is too short, even where the text ends in an escape. -/
theorem stringBody_cut {cs : List Char} (h : Spelling cs t) (front : p <+: t) :
    stringBody p = .error .truncated := by
  induction h generalizing p with
  | nil =>
    obtain rfl := List.prefix_nil.mp front
    exact stringBody_nil
  | plain plain _ ih =>
    obtain rfl | ⟨p, rfl, front₁⟩ := List.prefix_cons_iff.mp front
    · exact stringBody_nil
    · rw [stringBody_plain plain, ih front₁]
      rfl
  | letter mem _ ih =>
    obtain rfl | ⟨p, rfl, front₁⟩ := List.prefix_cons_iff.mp front
    · exact stringBody_nil
    obtain rfl | ⟨p, rfl, front₂⟩ := List.prefix_cons_iff.mp front₁
    · exact stringBody_escape_error rfl
    · rw [stringBody_escape (escape_letter mem p), ih front₂]
      rfl
  | number quad high low _ ih =>
    obtain rfl | ⟨p, rfl, front₁⟩ := List.prefix_cons_iff.mp front
    · exact stringBody_nil
    obtain rfl | ⟨p, rfl, front₂⟩ := List.prefix_cons_iff.mp front₁
    · exact stringBody_escape_error rfl
    obtain ⟨inside, short⟩ | ⟨p, front₃, rfl⟩ := prefix_append_cases front₂
    · exact stringBody_escape_error (escape_quad_cut quad inside short)
    · rw [stringBody_escape (escape_number quad high low p), ih front₃]
      rfl
  | pair first second high low _ ih =>
    obtain rfl | ⟨p, rfl, front₁⟩ := List.prefix_cons_iff.mp front
    · exact stringBody_nil
    obtain rfl | ⟨p, rfl, front₂⟩ := List.prefix_cons_iff.mp front₁
    · exact stringBody_escape_error rfl
    obtain ⟨inside, short⟩ | ⟨p, front₃, rfl⟩ := prefix_append_cases front₂
    · exact stringBody_escape_error (escape_quad_cut first inside short)
    -- The text may also end between the two halves, or in the second.
    obtain rfl | ⟨p, rfl, front₄⟩ := List.prefix_cons_iff.mp front₃
    · exact stringBody_escape_error (escape_half first high rfl)
    obtain rfl | ⟨p, rfl, front₅⟩ := List.prefix_cons_iff.mp front₄
    · exact stringBody_escape_error (escape_half first high rfl)
    obtain ⟨inside, short⟩ | ⟨p, front₆, rfl⟩ := prefix_append_cases front₅
    · exact stringBody_escape_error (escape_half first high (lowHalf_cut second inside short))
    · rw [stringBody_escape (escape_pair first second high low p), ih front₆]
      rfl

theorem run_string {text : String} (h : Spelling text.toList t) (rest : List Char) :
    string (t ++ '"' :: rest) = .ok (text, rest) := by
  rw [string, stringBody_spelling h]
  simp [Except.map]

theorem string_cut {text : String} (h : Spelling text.toList t) (front : p <+: t) :
    string p = .error .truncated := by
  rw [string, stringBody_cut h front]
  rfl

theorem takes_stringValue {text : String} (h : StringText text t) : Takes stringValue t text := by
  intro b rest blanks
  cases h with
  | mk h =>
    rw [stringValue, run_onFirst_blanks blanks, List.cons_append, run_onFirst _ (by decide),
      if_pos rfl, run_advance, List.append_assoc]
    exact run_string h rest

theorem starves_stringValue {text : String} (h : StringText text t) : Starves stringValue t := by
  intro p front short
  cases h with
  | mk h =>
    obtain rfl | ⟨p, rfl, inside⟩ := List.prefix_cons_iff.mp front
    · rfl
    · obtain rfl | inside := List.prefix_concat_iff.mp inside
      · exact absurd rfl short
      · rw [stringValue, run_onFirst _ (by decide), if_pos rfl, run_advance]
        exact string_cut h inside

variable {ofWord? : String → Option α} {word : String}

theorem run_wordOf (known : ofWord? word = some a) (reads : stringValue s = .ok (word, rest)) :
    wordOf ofWord? s = .ok (a, rest) := by
  rw [wordOf, run_bind_ok reads, known]
  rfl

theorem run_colon (blanks : Blanks b) (rest : List Char) :
    colon (b ++ ':' :: rest) = .ok ((), rest) := by
  rw [colon, run_onFirst_blanks blanks, run_onFirst _ (by decide), if_pos rfl]
  rfl

theorem run_close (blanks : Blanks b) (printed : isBlank c = false) (rest : List Char) :
    close c (b ++ c :: rest) = .ok ((), rest) := by
  rw [close, run_onFirst_blanks blanks, run_onFirst _ printed, if_pos rfl]
  rfl

theorem run_nullValue (blanks : Blanks b) (rest : List Char) :
    nullValue (b ++ 'n' :: 'u' :: 'l' :: 'l' :: rest) = .ok ((), rest) := by
  rw [nullValue, run_onFirst_blanks blanks, run_onFirst _ (by decide), if_pos rfl]
  rfl

theorem takes_choice (known : ofWord? word = some a) (h : ChoiceText word t) :
    Takes (choice ofWord?) t a := by
  intro b rest blanks
  rw [choice, run_onFirst_blanks blanks]
  cases h with
  | word h =>
    have reads := run_wordOf known ((takes_stringValue h).front rest)
    cases h with
    | mk h =>
      rw [List.cons_append, run_onFirst _ (by decide), if_neg (by decide), if_pos rfl]
      exact reads
  | @object t b₁ b₂ b₃ b₄ h blanks₁ blanks₂ blanks₃ blanks₄ =>
    simp only [List.cons_append, List.append_assoc]
    rw [run_onFirst _ (by decide), if_pos rfl, run_advance,
      run_bind_ok (run_wordOf known (takes_stringValue h b₁ _ blanks₁)),
      run_bind_ok (run_colon blanks₂ _)]
    rw [run_bind_ok (run_nullValue blanks₃ _)]
    exact run_bind_ok (run_close blanks₄ (by decide) rest) _

theorem starves_choice (h : StringText word t) :
    Starves (choice ofWord?) t := by
  intro p front short
  have fails := starves_stringValue h p front short
  cases h with
  | mk h =>
    obtain rfl | ⟨p, rfl, _⟩ := List.prefix_cons_iff.mp front
    · rfl
    · rw [choice, run_onFirst _ (by decide), if_neg (by decide), if_pos rfl, wordOf]
      exact run_bind_error fails _

end ProcessorSockets.Json.Reader
