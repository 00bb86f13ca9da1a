import ProcessorSockets.Json.Shapes
import ProcessorSockets.Proofs.Json.Compact

namespace ProcessorSockets

open Json Json.Grammar Json.Reader Json.Form

namespace Json.Form

theorem opens_quoted {inner : List Char → Prop} {v : List Char} (h : Quoted inner v) : Opens v := by
  cases h with | mk => exact ⟨'"', _, rfl, by decide⟩

theorem opens_choice {word : String} {v : List Char} (h : ChoiceText word v) : Opens v := by
  cases h with
  | word h => exact opens_quoted h
  | object => exact ⟨'\x7b', _, rfl, by decide⟩

theorem opens_integer {n : Int} {v : List Char} (h : IntegerText n v) : Opens v := by
  cases h with
  | bare whole =>
    obtain ⟨c, more, rfl⟩ := List.exists_cons_of_ne_nil whole.some
    have digit := whole.all c List.mem_cons_self
    exact ⟨c, more, rfl, isBlank_digit digit, by rintro rfl; exact absurd digit (by decide)⟩
  | minus => exact ⟨'-', _, rfl, by decide⟩

variable {α δ : Type} {draft : List String → δ} {name : String} {get : δ → Option α}
  {set : δ → α → δ} {value : Reader α} {texts : List Char → Prop} {a : α}

theorem fills_of (isSet : ∀ seen, get (draft seen) = if name ∈ seen then some a else none)
    (sets : ∀ seen, set (draft seen) a = draft (name :: seen))
    (reads : ∀ v, texts v → Reads value v a) (opens : ∀ v, texts v → Opens v) :
    Fills draft (Field.of name get set value) (name, texts) where
  name := rfl
  isSet seen := by
    simp only [Field.of, isSet]
    split <;> simp [*]
  reads seen v text b rest blanks stops := by
    rw [← sets]
    exact run_bind_ok (reads v text b rest blanks stops) _
  opens := opens

end Json.Form

namespace Address

def form (a : Address) : Form := [("cpu", StringText a.cpu), ("name", StringText a.name)]

theorem form_names (a : Address) : a.form.names = ["cpu", "name"] := rfl

def draft (a : Address) (seen : List String) : Draft where
  cpu := if "cpu" ∈ seen then some a.cpu else none
  name := if "name" ∈ seen then some a.name else none

theorem filling (a : Address) : Filling a.form fields Draft.finish a a.draft where
  each := .cons
    (fills_of (fun _ => rfl) (fun seen => by simp [draft])
      (fun _ h => (takes_stringValue h).reads) fun _ => opens_quoted)
    (.cons
      (fills_of (fun _ => rfl) (fun seen => by simp [draft])
        (fun _ h => (takes_stringValue h).reads) fun _ => opens_quoted)
      .nil)
  other name other seen := by
    rw [form_names, List.mem_cons, List.mem_singleton, not_or] at other
    simp [draft, Ne.symm other.1, Ne.symm other.2]
  finish seen := by
    by_cases cpu : "cpu" ∈ seen <;> by_cases name : "name" ∈ seen <;>
      simp [draft, Draft.finish, form, names, cpu, name]

theorem names_nodup (a : Address) : a.form.names.Nodup := by
  rw [form_names]
  decide

def members (a : Address) : List (String × List Char) :=
  [("cpu", printString a.cpu), ("name", printString a.name)]

theorem members_inOrder (a : Address) : InOrder a.form a.members :=
  .cons ⟨rfl, stringText_printString a.cpu⟩ (.cons ⟨rfl, stringText_printString a.name⟩ .nil)

theorem run_toJson (a : Address) (rest : List Char) : reader (a.toJson ++ rest) = .ok (a, rest) :=
  a.filling.run_printObject a.names_nodup a.members_inOrder rest

end Address

namespace Config

def form (c : Config) : Form := [
  ("kind", ChoiceText c.kind.name),
  ("address_family", IntegerText c.addressFamily),
  ("socket_dir", StringText c.socketDirectory),
  ("local_cpu", StringText c.localCpu)]

theorem form_names (c : Config) :
    c.form.names = ["kind", "address_family", "socket_dir", "local_cpu"] := rfl

def draft (c : Config) (seen : List String) : Draft where
  kind := if "kind" ∈ seen then some c.kind else none
  addressFamily := if "address_family" ∈ seen then some c.addressFamily else none
  socketDirectory := if "socket_dir" ∈ seen then some c.socketDirectory else none
  localCpu := if "local_cpu" ∈ seen then some c.localCpu else none

theorem filling (c : Config) (word : Word.holds c.addressFamily = true) :
    Filling c.form fields Draft.finish c c.draft where
  each := .cons
    (fills_of (fun _ => rfl) (fun seen => by simp [draft])
      (fun _ h => (takes_choice c.kind.ofWord?_name h).reads) fun _ => opens_choice)
    (.cons
      (fills_of (fun _ => rfl) (fun seen => by simp [draft])
        (fun _ h => reads_wordValue h word) fun _ => opens_integer)
      (.cons
        (fills_of (fun _ => rfl) (fun seen => by simp [draft])
          (fun _ h => (takes_stringValue h).reads) fun _ => opens_quoted)
        (.cons
          (fills_of (fun _ => rfl) (fun seen => by simp [draft])
            (fun _ h => (takes_stringValue h).reads) fun _ => opens_quoted)
          .nil)))
  other name other seen := by
    simp only [form_names, List.mem_cons, List.not_mem_nil, or_false, not_or] at other
    simp [draft, Ne.symm other.1, Ne.symm other.2.1, Ne.symm other.2.2.1, Ne.symm other.2.2.2]
  finish seen := by
    by_cases kind : "kind" ∈ seen <;> by_cases family : "address_family" ∈ seen <;>
      by_cases directory : "socket_dir" ∈ seen <;> by_cases cpu : "local_cpu" ∈ seen <;>
        simp [draft, Draft.finish, form, names, kind, family, directory, cpu]

theorem names_nodup (c : Config) : c.form.names.Nodup := by
  rw [form_names]
  decide

def members (c : Config) : List (String × List Char) := [
  ("kind", printString c.kind.name),
  ("address_family", printInt c.addressFamily),
  ("socket_dir", printString c.socketDirectory),
  ("local_cpu", printString c.localCpu)]

theorem members_inOrder (c : Config) : InOrder c.form c.members :=
  .cons ⟨rfl, .word (stringText_printString c.kind.name)⟩
    (.cons ⟨rfl, integerText_printInt c.addressFamily⟩
      (.cons ⟨rfl, stringText_printString c.socketDirectory⟩
        (.cons ⟨rfl, stringText_printString c.localCpu⟩ .nil)))

theorem run_toJson (c : Config) (word : Word.holds c.addressFamily = true) (rest : List Char) :
    reader (c.toJson ++ rest) = .ok (c, rest) :=
  (c.filling word).run_printObject c.names_nodup c.members_inOrder rest

end Config

namespace Json

/-- Addresses and configurations are read from their fields in any order, among members of other
names and any well-formed values, and from arrays of just their fields in order; a field that comes
twice or is left out makes the text one of another shape. -/
theorem records_read_in_any_order :
    (∀ a : Address, a.form.ReadBy Address.reader a) ∧
    ∀ c : Config, Word.holds c.addressFamily = true → c.form.ReadBy Config.reader c :=
  ⟨fun a => a.filling.readBy, fun c word => (c.filling word).readBy⟩

theorem records_read_in_any_order_shuffled :
    let c : Config := ⟨.unix, -7, "/s", "a"⟩
    let ms := [("socket_dir", "\"/s\"".toList), ("new", "[\x7b\x7d,null]".toList),
      ("local_cpu", "\"a\"".toList), ("address_family", "-7".toList)]
    let kind := ("kind", "\x7b\"unix\":null\x7d".toList)
    Word.holds c.addressFamily = true ∧
      decode Config.reader (printObject (printMembers (ms ++ [kind]))) = .ok c ∧
      decode Config.reader (printObject (printMembers (kind :: ms ++ [kind]))) =
        .error .mismatched ∧
      decode Config.reader (printObject (printMembers ms)) = .error .mismatched ∧
      decode Config.reader "\n[\"unix\",-7,\"/s\",\"a\"]\t".toList = .ok c ∧
      decode Config.reader "\n[\"unix\",-7]\t".toList = .error .mismatched := by
  intro c ms kind
  have word : Word.holds c.addressFamily = true := by decide
  have reads := records_read_in_any_order.2 c word
  have object (ms : List (String × List Char)) := objectText_printObject ms
  have array (vs : List (List Char)) := ArrayText.mk (show Blanks ['\n'] by decide)
    (show Blanks ['\t'] by decide) (listed_intersperse vs)
  have unix := stringText_printString "unix"
  have new : Value "[\x7b\x7d,null]".toList := by
    refine .array (listed_intersperse ["\x7b\x7d".toList, "null".toList]) ?_
    exact List.forall_mem_cons.mpr ⟨@Value.object [] _ (listed_intersperse []) nofun nofun,
      List.forall_mem_singleton.mpr .null⟩
  have allowed : ∀ m ∈ ms, c.form.Allows m := by
    refine List.forall_mem_cons.mpr ⟨?_, List.forall_mem_cons.mpr ⟨?_, ?_⟩⟩
    · exact c.members_inOrder.allows c.names_nodup (by decide)
    · exact allows_other (by decide) new
    · exact fun m mem => c.members_inOrder.allows c.names_nodup (by revert m; decide)
  have kindAllowed : c.form.Allows kind := allows_field c.names_nodup (.head _)
    (.object unix blanks_nil blanks_nil blanks_nil blanks_nil)
  refine ⟨word, ?_, ?_, ?_, ?_, ?_⟩
  · exact reads.object _ _ (object _)
      (List.forall_mem_append.mpr ⟨allowed, List.forall_mem_singleton.mpr kindAllowed⟩) (by decide)
  · exact reads.repeated (kind :: ms) kind.1 kind.2 [] _ (object _)
      (List.forall_mem_cons.mpr ⟨kindAllowed, allowed⟩) (by decide) (by decide)
  · exact reads.missing ms _ "kind" (object _) allowed (by decide) (by decide)
  · exact reads.array _ _ (array ["\"unix\"".toList, "-7".toList, "\"/s\"".toList, "\"a\"".toList])
      (.cons (.word unix) (.cons (integerText_printInt (-7)) (.cons (stringText_printString "/s")
        (.cons (stringText_printString "a") .nil))))
  · exact reads.short 2 _ _ (by decide) (array ["\"unix\"".toList, "-7".toList])
      (.cons (.word unix) (.cons (integerText_printInt (-7)) .nil))

end Json

end ProcessorSockets
