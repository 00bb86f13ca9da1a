import Mathlib.Data.List.Forall2
import ProcessorSockets.Proofs.Config

namespace ProcessorSockets

namespace Text

def Capital (c d : Char) : Prop := 65 ≤ c.toNat ∧ c.toNat ≤ 90 ∧ d.toNat = c.toNat + 32

def SameLetter (c d : Char) : Prop := c = d ∨ Capital c d ∨ Capital d c

def Recased : List Char → List Char → Prop := List.Forall₂ SameLetter

def Lowered : List Char → List Char → Prop :=
  List.Forall₂ fun c d => Capital c d ∨ c = d ∧ ∀ small, ¬Capital c small

structure Tight (t : List Char) : Prop where
  first : ∀ c ∈ t.head?, isBlank c = false
  last : ∀ c ∈ t.getLast?, isBlank c = false

variable {c d : Char} {s s' t t' : List Char}

theorem toNat_toLower (c : Char) :
    c.toLower.toNat = if 65 ≤ c.toNat ∧ c.toNat ≤ 90 then c.toNat + 32 else c.toNat := by
  have bounds : (c.val ≥ 'A'.val ∧ c.val ≤ 'Z'.val) ↔ 65 ≤ c.toNat ∧ c.toNat ≤ 90 := Iff.rfl
  unfold Char.toLower
  split
  case isTrue capital =>
    have range := bounds.mp capital
    have sum : (c.val + ('a'.val - 'A'.val)).toNat = (c.toNat + 32) % 2 ^ 32 :=
      UInt32.toNat_add _ _
    rw [if_pos range]
    change (c.val + ('a'.val - 'A'.val)).toNat = c.toNat + 32
    omega
  case isFalse small => rw [if_neg (small ∘ bounds.mpr)]

theorem toLower_eq_iff : c.toLower = d ↔ Capital c d ∨ c = d ∧ ∀ small, ¬Capital c small := by
  have lower := toNat_toLower c
  have capital (range : 65 ≤ c.toNat ∧ c.toNat ≤ 90) : Capital c c.toLower :=
    ⟨range.1, range.2, by rw [lower, if_pos range]⟩
  rw [← Char.toNat_inj, ← Char.toNat_inj, lower]
  constructor
  · intro is
    split_ifs at is with range
    · exact Or.inl ⟨range.1, range.2, is.symm⟩
    · exact Or.inr ⟨is, fun small h => range ⟨h.1, h.2.1⟩⟩
  · rintro (⟨least, greatest, is⟩ | ⟨is, none⟩)
    · rw [if_pos ⟨least, greatest⟩, is]
    · rw [if_neg fun range => none _ (capital range), is]

theorem sameLetter_iff : SameLetter c d ↔ c.toLower = d.toLower := by
  rw [SameLetter, Capital, Capital, ← Char.toNat_inj, ← Char.toNat_inj, toNat_toLower,
    toNat_toLower]
  split_ifs <;> omega

theorem lowered_iff : Lowered s t ↔ lowerAscii s = t := by
  simp only [Lowered, ← toLower_eq_iff]
  rw [← List.forall₂_map_left_iff (R := Eq), List.forall₂_eq_eq_eq, lowerAscii]

theorem recased_iff : Recased s t ↔ lowerAscii s = lowerAscii t := by
  have letters : SameLetter = fun c d => c.toLower = d.toLower :=
    funext₂ fun _ _ => propext sameLetter_iff
  rw [Recased, letters, ← List.forall₂_map_left_iff (R := fun c d => c = Char.toLower d),
    ← List.forall₂_map_right_iff (R := Eq), List.forall₂_eq_eq_eq, lowerAscii, lowerAscii]

theorem isBlank_toLower (c : Char) : isBlank c.toLower = isBlank c := by
  obtain ⟨least, greatest, is⟩ | ⟨same, -⟩ := toLower_eq_iff.mp (rfl : c.toLower = c.toLower)
  · rw [printed_ascii (by omega) (by omega), printed_ascii (by omega) (by omega)]
  · rw [← same]

theorem lowerAscii_trim (s : List Char) : lowerAscii (trim s) = trim (lowerAscii s) := by
  have blanks : isBlank ∘ Char.toLower = isBlank := funext isBlank_toLower
  have drops (s : List Char) :
      (s.map Char.toLower).dropWhile isBlank = (s.dropWhile isBlank).map Char.toLower := by
    rw [List.dropWhile_map, blanks]
  rw [trim, trim, lowerAscii, lowerAscii, drops, ← List.map_reverse, drops, List.map_reverse]

theorem tight_trim (s : List Char) : Tight (trim s) := by
  have kept (s : List Char) : ∀ c ∈ (s.dropWhile isBlank).head?, isBlank c = false := by
    intro c mem
    have := List.head?_dropWhile_not isBlank s
    rwa [Option.mem_def.mp mem] at this
  refine ⟨fun c mem => ?_, fun c mem => ?_⟩
  · have front : trim s <+: s.dropWhile isBlank := by
      rw [← List.reverse_suffix, trim, List.reverse_reverse]
      exact List.dropWhile_suffix isBlank
    obtain ⟨rest, whole⟩ := front
    exact kept s c (by rw [← whole, List.head?_append, Option.mem_def.mp mem]; rfl)
  · rw [trim, List.getLast?_reverse] at mem
    exact kept _ c mem

theorem Padded.tight_eq (h : Padded s t) (tight : Tight t) : trim s = t := by
  cases h with
  | @mk _ b b' blanks blanks' =>
    rw [trim, List.dropWhile_append_of_pos blanks]
    cases t with
    | nil => rw [List.nil_append, List.dropWhile_eq_nil_iff.mpr blanks']; rfl
    | cons c t =>
      have front : isBlank c = false := tight.first c rfl
      rw [List.cons_append, List.dropWhile_cons_of_neg (by simp [front]), ← List.cons_append,
        List.reverse_append, List.dropWhile_append_of_pos fun c mem =>
          blanks' c (List.mem_reverse.mp mem)]
      obtain ⟨t', last, is⟩ : ∃ t' last, c :: t = t' ++ [last] :=
        ⟨_, _, (List.dropLast_append_getLast (List.cons_ne_nil c t)).symm⟩
      have back : isBlank last = false := tight.last last (by rw [is]; simp)
      rw [is, List.reverse_append, List.reverse_singleton, List.singleton_append,
        List.dropWhile_cons_of_neg (by simp [back])]
      simp

theorem trim_eq_iff : trim s = t ↔ Padded s t ∧ Tight t := by
  constructor
  · rintro rfl
    exact ⟨padded_trim s, tight_trim s⟩
  · exact fun ⟨padded, tight⟩ => padded.tight_eq tight

theorem Padded.trans {u : List Char} (h : Padded s t) (h' : Padded t u) : Padded s u := by
  cases h with
  | @mk _ b b' blanks blanks' =>
    cases h' with
    | @mk _ d d' inner inner' =>
      have together : Padded ((b ++ d) ++ (u ++ (d' ++ b'))) u :=
        .mk (List.forall_mem_append.mpr ⟨blanks, inner⟩)
          (List.forall_mem_append.mpr ⟨inner', blanks'⟩)
      simpa only [List.append_assoc] using together

theorem Padded.trim_trim (h : Padded s t) : trim s = trim t :=
  (h.trans (padded_trim t)).tight_eq (tight_trim t)

end Text

namespace TransportKind

open Text

variable {s : String} {kind : TransportKind}

def Spells (s word : String) : Prop := ∃ t, Padded s.toList t ∧ Recased t word.toList

theorem names_iff : Names s kind ↔ ∃ word ∈ words kind, Spells s word := by
  have small (word : String) (mem : word ∈ words kind) : lowerAscii word.toList = word.toList := by
    cases kind <;> revert word <;> decide
  constructor
  · rintro ⟨t, padded, word, mem, is⟩
    exact ⟨word, mem, t, padded, recased_iff.mpr (by rw [is, small word mem])⟩
  · rintro ⟨word, mem, t, padded, recased⟩
    exact ⟨t, padded, word, mem, by rw [recased_iff.mp recased, small word mem]⟩

theorem parse_eq_error {message : String} : parse s = .error message ↔ (∀ kind, ¬Names s kind) ∧
    message = "unknown transport '" ++ String.ofList (lowerAscii (trim s.toList)) ++ "'" := by
  have named (kind : TransportKind) : Names s kind ↔ parse s = .ok kind := parse_eq_ok.symm
  simp only [named, parse]
  split_ifs <;> simp [eq_comm]

theorem parse_alike {s' : String} {t t' : List Char} (padded : Padded s.toList t)
    (padded' : Padded s'.toList t') (recased : Recased t t') : parse s = parse s' := by
  have word : lowerAscii (trim s.toList) = lowerAscii (trim s'.toList) := by
    rw [padded.trim_trim, padded'.trim_trim, lowerAscii_trim, lowerAscii_trim,
      recased_iff.mp recased]
  rw [parse, parse, word]

/-- A text is parsed as a kind if it is a word for it, in letters of either case and with blanks
around it; all else is an error that quotes the text between the blanks in small letters.  More
blanks and other cases change nothing, and the name of a kind is parsed as that kind. -/
theorem parse_language (s : String) :
    (parse s = .ok .rpmsg ↔ Spells s "rpmsg") ∧
    (parse s = .ok .unix ↔ Spells s "unix" ∨ Spells s "loopback") ∧
    (∀ message, parse s = .error message ↔
      (¬Spells s "rpmsg" ∧ ¬Spells s "unix" ∧ ¬Spells s "loopback") ∧
        ∃ t u, Padded s.toList t ∧ Tight t ∧ Lowered t u ∧
          message = "unknown transport '" ++ String.ofList u ++ "'") ∧
    (∀ s' t t', Padded s.toList t → Padded s'.toList t' → Recased t t' → parse s' = parse s) ∧
    ∀ kind, parse s = .ok kind → parse kind.name = .ok kind := by
  have rpmsg : parse s = .ok .rpmsg ↔ Spells s "rpmsg" := by
    rw [parse_eq_ok, names_iff]
    simp [words]
  have unix : parse s = .ok .unix ↔ Spells s "unix" ∨ Spells s "loopback" := by
    rw [parse_eq_ok, names_iff]
    simp [words]
  refine ⟨rpmsg, unix, fun message => ?_, ?_, ?_⟩
  · have none : (∀ kind, ¬Names s kind) ↔
        ¬Spells s "rpmsg" ∧ ¬Spells s "unix" ∧ ¬Spells s "loopback" := by
      rw [← not_or, ← unix, ← rpmsg, parse_eq_ok, parse_eq_ok]
      refine ⟨fun all => ⟨all _, all _⟩, ?_⟩
      rintro ⟨no, no'⟩ kind
      cases kind with
      | rpmsg => exact no
      | unix => exact no'
    rw [parse_eq_error, none]
    refine and_congr_right fun _ => ⟨fun is => ?_, ?_⟩
    · exact ⟨_, _, padded_trim _, tight_trim _, lowered_iff.mpr rfl, is⟩
    · rintro ⟨t, u, padded, tight, lowered, rfl⟩
      rw [padded.tight_eq tight, lowered_iff.mp lowered]
  · intro s' t t' padded padded' recased
    exact (parse_alike padded padded' recased).symm
  · intro kind _
    cases kind <;> decide

theorem parse_language_mixed :
    parse "\u3000LoopBack\n" = .ok .unix ∧ parse " lOOPbACK" = .ok .unix ∧
      parse TransportKind.unix.name = .ok .unix ∧
      parse "\u200Bunix" = .error "unknown transport '\u200Bunix'" ∧
      parse "LOOPBAC\u212A " = .error "unknown transport 'loopbac\u212A'" := by
  have padded : Padded "\u3000LoopBack\n".toList "LoopBack".toList :=
    (trim_eq_iff.mp (by decide)).1
  have padded' : Padded " lOOPbACK".toList "lOOPbACK".toList := (trim_eq_iff.mp (by decide)).1
  obtain ⟨-, unix, -, alike, names⟩ := parse_language "\u3000LoopBack\n"
  have parsed : parse "\u3000LoopBack\n" = .ok .unix :=
    unix.mpr (Or.inr ⟨_, padded, recased_iff.mpr (by decide)⟩)
  refine ⟨parsed, ?_, names _ parsed, by decide, by decide⟩
  rw [alike _ _ _ padded padded' (recased_iff.mpr (by decide)), parsed]

end TransportKind

end ProcessorSockets
