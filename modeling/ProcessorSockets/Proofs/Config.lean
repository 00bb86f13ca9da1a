import ProcessorSockets.Config
import ProcessorSockets.Proofs.Text.Decimal
import ProcessorSockets.Proofs.Text.Utf8
import ProcessorSockets.Proofs.Text.WhiteSpace

namespace ProcessorSockets

open Text (Padded padded_trim isBlank)
open Text.Decimal (Numeral isDigit isDigit_iff word?_eq_some)

namespace Environment

def Holds (env : Environment) (name s : String) : Prop :=
  env.values.lookup name = some (bytesOf s)

variable {env : Environment} {name s : String}

theorem text?_eq_some : env.text? name = some s ↔ env.Holds name s := by
  have reads (bytes : List UInt8) :
      String.fromUTF8? (ByteArray.mk bytes.toArray) = Text.ofBytes? bytes := by
    rw [Text.ofBytes?, ← List.data_toByteArray]
  unfold text? Holds
  cases env.values.lookup name with
  | none => exact ⟨nofun, nofun⟩
  | some bytes => rw [Option.bind_some, reads, Text.ofBytes?_eq_some, Option.some.injEq]

theorem text?_eq_none : env.text? name = none ↔ ∀ s, ¬env.Holds name s := by
  simp only [Option.eq_none_iff_forall_ne_some, ne_eq, text?_eq_some]

end Environment

namespace TransportKind

def words : TransportKind → List String
  | .rpmsg => ["rpmsg"]
  | .unix => ["unix", "loopback"]

def Names (s : String) (kind : TransportKind) : Prop :=
  ∃ t, Padded s.toList t ∧ ∃ word ∈ words kind, Text.lowerAscii t = word.toList

theorem printed_words (kind : TransportKind) :
    ∀ word ∈ words kind, ∀ c ∈ word.toList, isBlank c = false := by
  have all : ((words kind).all fun word => word.toList.all fun c => !isBlank c) = true := by
    cases kind <;> decide
  simpa only [List.all_eq_true, Bool.not_eq_true'] using all

theorem printed_of_toLower {c : Char} (small : isBlank c.toLower = false) : isBlank c = false := by
  unfold Char.toLower at small
  split at small
  · rename_i capital
    have least : 65 ≤ c.toNat := capital.1
    have greatest : c.toNat ≤ 90 := capital.2
    exact Text.printed_ascii (by omega) (by omega)
  · exact small

theorem parse_eq_ok {s : String} {kind : TransportKind} : parse s = .ok kind ↔ Names s kind := by
  constructor
  · intro parsed
    refine ⟨_, padded_trim s.toList, ?_⟩
    simp only [parse] at parsed
    split_ifs at parsed with rpmsg unix
    · cases parsed
      exact ⟨"rpmsg", List.mem_singleton_self _, rpmsg⟩
    · cases parsed
      obtain unix | loopback := unix
      · exact ⟨"unix", by decide, unix⟩
      · exact ⟨"loopback", by decide, loopback⟩
  · rintro ⟨t, padded, word, mem, small⟩
    have printed : ∀ c ∈ t, isBlank c = false := by
      intro c inside
      have mem' : c.toLower ∈ word.toList := small ▸ List.mem_map_of_mem inside
      exact printed_of_toLower (printed_words kind word mem _ mem')
    simp only [parse, padded.trim_eq printed, small]
    cases kind with
    | rpmsg =>
      obtain rfl := List.mem_singleton.mp mem
      rfl
    | unix =>
      simp only [words, List.mem_cons, List.not_mem_nil, or_false] at mem
      obtain rfl | rfl := mem <;> rfl

end TransportKind

namespace Config

def Counts (s : String) (n : Int) : Prop :=
  ∃ t, Padded s.toList t ∧ Numeral t n ∧ 0 < n ∧ n ≤ 0x7FFFFFFF

theorem printed_digit {c : Char} (digit : isDigit c = true) : isBlank c = false := by
  have range := isDigit_iff.mp digit
  exact Text.printed_ascii (by omega) (by omega)

theorem printed_numeral {t : List Char} {n : Int} (h : Numeral t n) :
    ∀ c ∈ t, isBlank c = false := by
  cases h with
  | bare digits => exact fun c mem => printed_digit (digits.all c mem)
  | plus digits =>
    exact List.forall_mem_cons.mpr ⟨by decide, fun c mem => printed_digit (digits.all c mem)⟩
  | minus digits =>
    exact List.forall_mem_cons.mpr ⟨by decide, fun c mem => printed_digit (digits.all c mem)⟩

theorem family?_eq_some {s : String} {n : Int} : family? s = some n ↔ Counts s n := by
  rw [family?, Option.filter_eq_some_iff, word?_eq_some, Word.holds_iff, decide_eq_true_eq]
  constructor
  · rintro ⟨⟨numeral, -, greatest⟩, pos⟩
    exact ⟨_, padded_trim s.toList, numeral, pos, greatest⟩
  · rintro ⟨t, padded, numeral, pos, greatest⟩
    rw [padded.trim_eq (printed_numeral numeral)]
    exact ⟨⟨numeral, by omega, greatest⟩, pos⟩

def Given (s value : String) : Prop := s ≠ "" ∧ value = s

/-- What comes of a variable: the value that its text means, or the standard one, with the number of
texts that were rejected. -/
inductive Settles {α : Type} (env : Environment) (name : String) (means : String → α → Prop)
    (standard : α) : α → Nat → Prop
  | taken {s a} : env.Holds name s → means s a → Settles env name means standard a 0
  | rejected {s} : env.Holds name s → (∀ a, ¬means s a) → Settles env name means standard standard 1
  | unset : (∀ s, ¬env.Holds name s) → Settles env name means standard standard 0

section Settling

variable {α : Type} {env : Environment} {name : String} {means : String → α → Prop} {standard a : α}
  {n : Nat}

theorem settles {f : Option String → α × Nat} (unset : f none = (standard, 0))
    (taken : ∀ s a, means s a → f (some s) = (a, 0))
    (rejected : ∀ s, (∀ a, ¬means s a) → f (some s) = (standard, 1)) :
    Settles env name means standard (f (env.text? name)).1 (f (env.text? name)).2 := by
  cases is : env.text? name with
  | none =>
    rw [unset]
    exact .unset (Environment.text?_eq_none.mp is)
  | some s =>
    have holds := Environment.text?_eq_some.mp is
    by_cases meant : ∃ a, means s a
    · obtain ⟨a, is⟩ := meant
      rw [taken s a is]
      exact .taken holds is
    · have none := not_exists.mp meant
      rw [rejected s none]
      exact .rejected holds none

theorem Settles.elim {P : α → Prop} (h : Settles env name means standard a n) (whole : P standard)
    (each : ∀ s a, means s a → P a) : P a := by
  cases h with
  | taken _ means => exact each _ _ means
  | rejected => exact whole
  | unset => exact whole

end Settling

theorem kind_settles (env : Environment) :
    Settles env transportVariable TransportKind.Names standard.kind
      (kindOf (env.text? transportVariable)).1 (kindOf (env.text? transportVariable)).2.length := by
  refine settles (f := fun o => ((kindOf o).1, (kindOf o).2.length)) rfl ?_ ?_
  · intro s kind names
    simp only [kindOf, TransportKind.parse_eq_ok.mpr names, List.length_nil]
  · intro s none
    cases parsed : TransportKind.parse s with
    | ok kind => exact absurd (TransportKind.parse_eq_ok.mp parsed) (none kind)
    | error message => simp only [kindOf, parsed, List.length_singleton]

theorem family_settles (env : Environment) :
    Settles env familyVariable Counts standard.addressFamily
      (familyOf (env.text? familyVariable)).1 (familyOf (env.text? familyVariable)).2.length := by
  refine settles (f := fun o => ((familyOf o).1, (familyOf o).2.length)) rfl ?_ ?_
  · intro s n counts
    simp only [familyOf, family?_eq_some.mpr counts, List.length_nil]
  · intro s none
    cases parsed : family? s with
    | some n => exact absurd (family?_eq_some.mp parsed) (none n)
    | none => simp only [familyOf, parsed, List.length_singleton]

theorem text_settles (env : Environment) (name standard : String) :
    ∃ n, Settles env name Given standard ((env.nonempty? name).getD standard) n := by
  refine ⟨_, settles (f := fun o =>
    ((o.filter (· ≠ "")).getD standard, if o = some "" then 1 else 0)) rfl ?_ ?_⟩
  · rintro s _ ⟨nonempty, rfl⟩
    simp [Option.filter, nonempty]
  · intro s none
    have empty : s = "" := by_contra fun nonempty => none s ⟨nonempty, rfl⟩
    simp [Option.filter, empty]

theorem level_kindOf (o : Option String) : ∀ e ∈ (kindOf o).2, e.level = .warn := by
  unfold kindOf
  split
  · nofun
  · split
    · nofun
    · exact List.forall_mem_singleton.mpr rfl

theorem level_familyOf (o : Option String) : ∀ e ∈ (familyOf o).2, e.level = .warn := by
  unfold familyOf
  split
  · nofun
  · split
    · nofun
    · exact List.forall_mem_singleton.mpr rfl

/-- A configuration with its warnings follows an environment: every field has what its variable
means, and there is one warning for each of the first two that means nothing. -/
structure Follows (env : Environment) (c : Config) (warnings : List Event) : Prop where
  numbers : ∃ m n, Settles env transportVariable TransportKind.Names standard.kind c.kind m ∧
    Settles env familyVariable Counts standard.addressFamily c.addressFamily n ∧
      warnings.length = m + n
  warned : ∀ e ∈ warnings, e.level = .warn
  directory : ∃ n, Settles env directoryVariable Given standard.socketDirectory c.socketDirectory n
  cpu : ∃ n, Settles env cpuVariable Given standard.localCpu c.localCpu n

structure Valid (c : Config) : Prop where
  positive : 0 < c.addressFamily
  word : c.addressFamily ≤ 0x7FFFFFFF
  directory : c.socketDirectory ≠ ""
  cpu : c.localCpu ≠ ""

theorem follows_ofEnvironment (env : Environment) :
    Follows env (ofEnvironment env).1 (ofEnvironment env).2 where
  numbers := ⟨_, _, kind_settles env, family_settles env, List.length_append⟩
  warned := List.forall_mem_append.mpr ⟨level_kindOf _, level_familyOf _⟩
  directory := text_settles env directoryVariable standard.socketDirectory
  cpu := text_settles env cpuVariable standard.localCpu

theorem Follows.valid {env : Environment} {c : Config} {warnings : List Event}
    (h : Follows env c warnings) : c.Valid := by
  obtain ⟨_, _, _, family, _⟩ := h.numbers
  obtain ⟨_, directory⟩ := h.directory
  obtain ⟨_, cpu⟩ := h.cpu
  have given (s a : String) (is : Given s a) : a ≠ "" := is.2 ▸ is.1
  obtain ⟨positive, word⟩ : 0 < c.addressFamily ∧ c.addressFamily ≤ 0x7FFFFFFF :=
    family.elim (P := fun n => 0 < n ∧ n ≤ 0x7FFFFFFF) (by decide)
      fun s n ⟨_, _, _, positive, word⟩ => ⟨positive, word⟩
  exact ⟨positive, word,
    directory.elim (P := (· ≠ "")) (by decide) given,
    cpu.elim (P := (· ≠ "")) (by decide) given⟩

/-- The environment always makes a valid configuration.  Each field is what its own variable means
or the standard one, whatever the other variables are. -/
theorem environment_configures :
    (∀ env, Follows env (ofEnvironment env).1 (ofEnvironment env).2 ∧ (ofEnvironment env).1.Valid) ∧
    ∀ env env' : Environment,
      (env.values.lookup transportVariable = env'.values.lookup transportVariable →
        (ofEnvironment env).1.kind = (ofEnvironment env').1.kind) ∧
      (env.values.lookup familyVariable = env'.values.lookup familyVariable →
        (ofEnvironment env).1.addressFamily = (ofEnvironment env').1.addressFamily) ∧
      (env.values.lookup directoryVariable = env'.values.lookup directoryVariable →
        (ofEnvironment env).1.socketDirectory = (ofEnvironment env').1.socketDirectory) ∧
      (env.values.lookup cpuVariable = env'.values.lookup cpuVariable →
        (ofEnvironment env).1.localCpu = (ofEnvironment env').1.localCpu) := by
  refine ⟨fun env => ?_, fun env env' => ?_⟩
  · exact ⟨follows_ofEnvironment env, (follows_ofEnvironment env).valid⟩
  have text {name : String} (same : env.values.lookup name = env'.values.lookup name) :
      env.text? name = env'.text? name := by rw [Environment.text?, Environment.text?, same]
  refine ⟨fun same => ?_, fun same => ?_, fun same => ?_, fun same => ?_⟩
  · simp only [ofEnvironment, text same]
  · simp only [ofEnvironment, text same]
  · simp only [ofEnvironment, Environment.nonempty?, text same]
  · simp only [ofEnvironment, Environment.nonempty?, text same]

theorem environment_configures_padded :
    let family := (familyVariable, bytesOf "\u3000+0000000000007\t")
    let env : Environment :=
      ⟨[(transportVariable, bytesOf " LoopBack"), family, (cpuVariable, [255])]⟩
    let env' : Environment :=
      ⟨[(transportVariable, bytesOf "tcp"), family, (directoryVariable, bytesOf "é")]⟩
    (ofEnvironment env).1 = ⟨.unix, 7, standard.socketDirectory, standard.localCpu⟩ ∧
      (ofEnvironment env).2 = [] ∧ (ofEnvironment env).1.Valid ∧
      (ofEnvironment env').1.addressFamily = (ofEnvironment env).1.addressFamily ∧
      (ofEnvironment env').1 = ⟨standard.kind, 7, "é", standard.localCpu⟩ ∧
      (ofEnvironment env').2.length = 1 := by
  intro family env env'
  have same : env'.values.lookup familyVariable = env.values.lookup familyVariable := by decide
  exact ⟨by decide +kernel, by decide +kernel, (environment_configures.1 env).2,
    (environment_configures.2 env' env).2.1 same, by decide +kernel, by decide +kernel⟩

end Config

end ProcessorSockets
