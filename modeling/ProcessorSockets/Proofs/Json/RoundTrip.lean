import ProcessorSockets.Proofs.Json.Shapes

namespace ProcessorSockets.Json

open Reader Form

variable {α β δ : Type} {m : Reader α} {P : α → Prop} {Q : β → Prop} {D : δ → Prop}
  {fields : List (Field δ)}

def Finds (m : Reader α) (P : α → Prop) : Prop :=
  ∀ s a rest, m s = .ok (a, rest) → P a

namespace Finds

theorem pure {a : α} (h : P a) : Finds (pure a) P := by
  rintro s _ _ ⟨⟩
  exact h

theorem fail (f : Fault) : Finds (Reader.fail f) P := nofun

theorem bind {next : α → Reader β} (first : Finds m P) (second : ∀ a, P a → Finds (next a) Q) :
    Finds (m >>= next) Q := by
  intro s b rest runs
  cases read : m s with
  | error f =>
    rw [run_bind_error read] at runs
    cases runs
  | ok p =>
    rw [run_bind_ok (a := p.1) read] at runs
    exact second p.1 (first s p.1 p.2 read) p.2 b rest runs

theorem after {next : α → Reader β} (second : ∀ a, Finds (next a) Q) : Finds (m >>= next) Q :=
  bind (P := fun _ => True) (fun _ _ _ _ => trivial) fun a _ => second a

theorem onFirst {read : Char → Reader α} (each : ∀ c, Finds (read c) P) : Finds (onFirst read) P :=
  after fun
    | none => fail .truncated
    | some c => each c

theorem ite {p : Prop} [Decidable p] {m' : Reader α} (first : Finds m P) (second : Finds m' P) :
    Finds (if p then m else m') P := by
  split
  · exact first
  · exact second

theorem unwanted : Finds Reader.unwanted P := by
  unfold Reader.unwanted
  refine after fun o => ?_
  split <;> first
    | exact fail _
    | exact after fun _ => after fun _ => fail _
    | exact ite (after fun _ => fail _) (fail _)

theorem wordValue : Finds wordValue (Word.holds · = true) := by
  refine onFirst fun c => ite (ite (after fun _ => after fun n => ?_) (after fun n => ?_)) unwanted
  all_goals
    cases n with
    | integer n =>
      dsimp only
      split
      · rename_i word
        exact pure word
      · exact fail _
    | fraction => exact fail _

section Drafts

variable (keeps : ∀ field ∈ fields, ∀ d, D d → Finds (field.read d) D)

include keeps

theorem member {d : δ} (h : D d) : Finds (member fields d) D := by
  refine after fun _ => after fun key => ?_
  split
  · rename_i field found
    exact ite (fail _) (after fun _ => keeps field (List.mem_of_find?_eq_some found) d h)
  · exact after fun _ => after fun _ => pure h

theorem moreMembers {d : δ} (h : D d) (n : Nat) : Finds (moreMembers fields n d) D := by
  induction n generalizing d with
  | zero => exact fail _
  | succ n ih =>
    refine onFirst fun c => ite (pure h) (ite (after fun _ => onFirst fun c => ?_) (fail _))
    exact ite (bind (member keeps h) fun d h => ih h) (fail _)

theorem members {d : δ} (h : D d) : Finds (members fields d) D := by
  refine onFirst fun c => ite (pure h) (ite (bind (member keeps h) fun d h => ?_) (fail _))
  exact fun s => moreMembers keeps h _ s

theorem elements {d : δ} (h : D d) (first : Bool) : Finds (elements first fields d) D := by
  induction fields generalizing d first with
  | nil => exact pure h
  | cons field fields ih =>
    have rest {d : δ} (h : D d) : Finds (field.read d >>= Reader.elements false fields) D :=
      bind (keeps field List.mem_cons_self d h) fun d h =>
        ih (fun field mem => keeps field (List.mem_cons_of_mem _ mem)) h false
    exact onFirst fun c => ite (fail _) (ite (rest h) (ite
      (after fun _ => onFirst fun c => ite (fail _) (rest h)) (fail _)))

theorem record {blank : δ} {finish : δ → Option α} (h : D blank)
    (finished : ∀ d a, D d → finish d = some a → P a) : Finds (record fields blank finish) P := by
  refine onFirst fun c => ite (after fun _ => bind (elements keeps h true) fun d h => ?_)
    (ite (after fun _ => bind (members keeps h) fun d h => ?_) unwanted)
  all_goals
    split
    · rename_i a is
      exact after fun _ => pure (finished d a h is)
    · exact fail _

end Drafts

theorem decode {read : Reader α} (h : Finds read P) {t : List Char} {a : α}
    (reads : decode read t = .ok a) : P a := by
  cases is : read t with
  | error f =>
    rw [decode_error is] at reads
    cases reads
  | ok p =>
    have found := h t p.1 p.2 is
    simp only [Json.decode, is, Bind.bind, Except.bind] at reads
    split at reads
    · cases reads
      exact found
    · cases reads

end Finds

theorem finds_word : Finds Config.reader fun c => Word.holds c.addressFamily = true := by
  refine Finds.record (D := fun d => ∀ n ∈ d.addressFamily, Word.holds n = true) ?_ nofun ?_
  · intro field mem d h
    simp only [Config.fields, List.mem_cons, List.not_mem_nil, or_false] at mem
    obtain rfl | rfl | rfl | rfl := mem
    · exact .after fun _ => .pure h
    · refine .bind .wordValue fun n word => .pure ?_
      rintro _ ⟨⟩
      exact word
    · exact .after fun _ => .pure h
    · exact .after fun _ => .pure h
  · intro d c h finished
    simp only [Config.Draft.finish, Option.bind_eq_bind, Option.bind_eq_some_iff, Option.pure_def,
      Option.some.injEq] at finished
    obtain ⟨_, -, n, is, _, -, _, -, rfl⟩ := finished
    exact h n is

theorem decode_toJson_address (a : Address) : decode Address.reader a.toJson = .ok a := by
  have read := a.run_toJson []
  rw [List.append_nil] at read
  exact decode_ok read Grammar.blanks_nil

theorem decode_toJson_config (c : Config) (word : Word.holds c.addressFamily = true) :
    decode Config.reader c.toJson = .ok c := by
  have read := c.run_toJson word []
  rw [List.append_nil] at read
  exact decode_ok read Grammar.blanks_nil

/-- What is printed is read as the same value, and what was read from any text is the same after
it has been printed and read again. -/
theorem values_read_back :
    (∀ a : Address, decode Address.reader a.toJson = .ok a) ∧
    (∀ c : Config, Word.holds c.addressFamily = true → decode Config.reader c.toJson = .ok c) ∧
    (∀ t a, decode Address.reader t = .ok a → decode Address.reader a.toJson = .ok a) ∧
    ∀ t c, decode Config.reader t = .ok c → decode Config.reader c.toJson = .ok c :=
  ⟨decode_toJson_address, decode_toJson_config, fun _ a _ => decode_toJson_address a,
    fun _ c read => decode_toJson_config c (finds_word.decode read)⟩

theorem values_read_back_escapes :
    let a : Address := ⟨"\"\\\x01😀", "\t\x7f"⟩
    let c : Config := ⟨.unix, -0x80000000, "/tmp/é", ""⟩
    let halves := "\x7b\"name\": \"\\u0041\", \"cpu\": \"\\ud83d\\ude00\"\x7d".toList
    let nameless := "[\x7b\"unix\": null\x7d, 7, \"\\/s\", \"a\"]".toList
    decode Address.reader a.toJson = .ok a ∧
      Word.holds c.addressFamily = true ∧ decode Config.reader c.toJson = .ok c ∧
      decode Address.reader halves = .ok ⟨"😀", "A"⟩ ∧
      decode Address.reader (Address.toJson ⟨"😀", "A"⟩) = .ok ⟨"😀", "A"⟩ ∧
      decode Config.reader nameless = .ok ⟨.unix, 7, "/s", "a"⟩ ∧
      decode Config.reader (Config.toJson ⟨.unix, 7, "/s", "a"⟩) = .ok ⟨.unix, 7, "/s", "a"⟩ := by
  intro a c halves nameless
  obtain ⟨address, config, address', config'⟩ := values_read_back
  have spelled : decode Address.reader halves = .ok ⟨"😀", "A"⟩ := by decide +kernel
  have listed : decode Config.reader nameless = .ok ⟨.unix, 7, "/s", "a"⟩ := by decide +kernel
  exact ⟨address a, by decide, config c (by decide), spelled, address' _ _ spelled, listed,
    config' _ _ listed⟩

end ProcessorSockets.Json
