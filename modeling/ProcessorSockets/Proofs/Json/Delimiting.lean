import ProcessorSockets.Proofs.Json.Shapes

namespace ProcessorSockets.Json

open Grammar Reader Form

variable {α δ : Type} {read : Reader α} {t : List Char} {a : α}

/-- A reader finds a value in a text, alone or with blanks behind, too little in any part of the
text, and no value at all in a text that goes on with something else. -/
structure Delimits (read : Reader α) (t : List Char) (a : α) : Prop where
  cut : ∀ p, p <+: t → p ≠ t → decode read p = .error .truncated
  padded : ∀ b, Blanks b → decode read (t ++ b) = .ok a
  overlong : ∀ b c rest, Blanks b → c ∉ [' ', '\t', '\n', '\r'] →
    decode read (t ++ (b ++ c :: rest)) = .error .malformed

theorem delimits (takes : ∀ rest, read (t ++ rest) = .ok (a, rest)) (starves : Starves read t) :
    Delimits read t a where
  cut p front short := decode_error (starves p front short)
  padded b blanks := decode_ok (takes b) blanks
  overlong b c rest _ printed := by
    have after : ¬(b ++ c :: rest).all isBlank = true := fun blank =>
      printed (isBlank_iff.mp (List.all_eq_true.mp blank c (by simp)))
    simp only [decode, takes (b ++ c :: rest), bind, Except.bind, if_neg after]
    rfl

theorem delimits_choice {ofWord? : String → Option α} {word : String}
    (known : ofWord? word = some a) : Delimits (choice ofWord?) (printString word) a :=
  delimits (takes_choice known (.word (stringText_printString word))).front
    (starves_choice (stringText_printString word))

theorem cuts_of {name : String} {get : δ → Option α} {set : δ → α → δ} {value : Reader α}
    (h : Cuts value t) (d : δ) : Cuts ((Field.of name get set value).read d) t := by
  intro p front short
  obtain fails | ⟨a, reads⟩ := h p front short
  · exact .inl (run_bind_error fails _)
  · exact .inr ⟨set d a, run_bind_ok reads _⟩

theorem delimits_address (a : Address) : Delimits Address.reader a.toJson a := by
  refine delimits a.run_toJson (a.filling.starves_printObject a.names_nodup a.members_inOrder ?_)
  have cpu := starves_stringValue (stringText_printString a.cpu)
  have name := starves_stringValue (stringText_printString a.name)
  exact .cons ⟨rfl, fun _ => cuts_of cpu.cuts _⟩ (.cons ⟨rfl, fun _ => cuts_of name.cuts _⟩ .nil)

theorem delimits_config (c : Config) (word : Word.holds c.addressFamily = true) :
    Delimits Config.reader c.toJson c := by
  refine delimits (c.run_toJson word)
    ((c.filling word).starves_printObject c.names_nodup c.members_inOrder ?_)
  have kind : Starves TransportKind.reader (printString c.kind.name) :=
    starves_choice (stringText_printString c.kind.name)
  have family := cuts_wordValue (integerText_printInt c.addressFamily) word
  have directory := starves_stringValue (stringText_printString c.socketDirectory)
  have cpu := starves_stringValue (stringText_printString c.localCpu)
  exact .cons ⟨rfl, fun _ => cuts_of kind.cuts _⟩ (.cons ⟨rfl, fun _ => cuts_of family _⟩
    (.cons ⟨rfl, fun _ => cuts_of directory.cuts _⟩
      (.cons ⟨rfl, fun _ => cuts_of cpu.cuts _⟩ .nil)))

/-- Every part of a compact text ends too early, a whole one may have blanks behind it, and with
anything else behind it is malformed. -/
theorem compact_texts_delimited :
    (∀ a : Address, Delimits Address.reader a.toJson a) ∧
    (∀ c : Config, Word.holds c.addressFamily = true → Delimits Config.reader c.toJson c) ∧
    (∀ kind : TransportKind, Delimits TransportKind.reader kind.toJson kind) ∧
    ∀ kind : SocketKind, Delimits SocketKind.reader kind.toJson kind :=
  ⟨delimits_address, delimits_config, fun kind => delimits_choice kind.ofWord?_name,
    fun kind => delimits_choice kind.ofWord?_word⟩

theorem compact_texts_delimited_sign :
    let c : Config := ⟨.unix, -7, "/s", "a"⟩
    let short := "\x7b\"kind\":\"unix\",\"address_family\":-".toList
    short <+: c.toJson ∧ Word.holds c.addressFamily = true ∧
      decode Config.reader short = .error .truncated ∧
      decode Config.reader (c.toJson ++ [' ', '\n']) = .ok c ∧
      decode Config.reader (c.toJson ++ ([' '] ++ '\x7d' :: [])) = .error .malformed := by
  intro c short
  have front : short <+: c.toJson := by decide
  have text := compact_texts_delimited.2.1 c (by decide)
  exact ⟨front, by decide, text.cut short front (by decide), text.padded [' ', '\n'] (by decide),
    text.overlong [' '] '\x7d' [] (by decide) (by decide)⟩

end ProcessorSockets.Json
