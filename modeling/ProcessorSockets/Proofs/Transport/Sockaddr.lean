import ProcessorSockets.Proofs.Text.Utf8
import ProcessorSockets.Transport.Sockaddr

namespace ProcessorSockets

namespace Address

structure Proper (a : Address) : Prop where
  cpu : '\x00' ∉ a.cpu.toList
  name : '\x00' ∉ a.name.toList

structure Fits (a : Address) : Prop extends a.Proper where
  cpuRoom : (bytesOf a.cpu).length ≤ 15
  nameRoom : (bytesOf a.name).length ≤ 31

end Address

namespace Sockaddr

variable {bytes field rest : List UInt8}

theorem overwrite_eq (fits : bytes.length ≤ field.length) :
    overwrite bytes field = bytes ++ field.drop bytes.length := by
  induction bytes generalizing field with
  | nil => simp [overwrite]
  | cons byte bytes ih =>
    cases field with
    | nil => cases fits
    | cons slot field => simp [overwrite, ih (Nat.le_of_succ_le_succ fits)]

theorem encodeField_eq (bytes field : List UInt8) :
    let n := min bytes.length (field.length - 1)
    encodeField bytes field = (n, bytes.take n ++ List.replicate (field.length - n) 0) := by
  intro n
  by_cases none : field = []
  · simp [encodeField, n, none]
  · have shorter : (bytes.take n).length ≤ field.length := by
      rw [List.length_take]
      omega
    have taken : (bytes.take n).length = n := by
      rw [List.length_take]
      omega
    have copied := overwrite_eq shorter
    rw [taken] at copied
    unfold encodeField
    rw [if_neg none]
    dsimp only
    rw [copied, List.take_left' taken, List.drop_left' taken, List.map_const', List.length_drop]

theorem length_encodeField (bytes field : List UInt8) :
    (encodeField bytes field).2.length = field.length := by
  rw [encodeField_eq]
  simp only [List.length_append, List.length_take, List.length_replicate]
  omega

theorem terminated_append (whole : 0 ∉ bytes) : terminated (bytes ++ 0 :: rest) = bytes := by
  have others : ∀ b ∈ bytes, decide (b ≠ 0) = true := by
    intro b mem
    simpa using fun is : b = 0 => whole (is ▸ mem)
  unfold terminated
  rw [List.takeWhile_append_of_pos others, List.takeWhile_cons_of_neg (by decide), List.append_nil]

def filled (size : Nat) (text : String) : List UInt8 :=
  (encodeField (bytesOf text) (List.replicate size 0)).2

variable {size : Nat} {text : String}

theorem filled_eq (room : 0 < size) (text : String) : ∃ zeros,
    filled size text = (bytesOf text).take (size - 1) ++ 0 :: List.replicate zeros 0 := by
  obtain ⟨zeros, more⟩ : ∃ zeros, size - min (bytesOf text).length (size - 1) = zeros + 1 :=
    ⟨size - min (bytesOf text).length (size - 1) - 1, by omega⟩
  refine ⟨zeros, ?_⟩
  rw [filled, encodeField_eq, List.length_replicate, more, List.replicate_succ, Nat.min_comm,
    ← List.take_eq_take_min]

theorem length_filled (size : Nat) (text : String) : (filled size text).length = size := by
  rw [filled, length_encodeField, List.length_replicate]

theorem last_filled (room : 0 < size) (text : String) : (filled size text)[size - 1]? = some 0 := by
  rw [filled, encodeField_eq, List.length_replicate,
    List.getElem?_append_right (by rw [List.length_take]; omega), List.getElem?_replicate,
    if_pos (by rw [List.length_take]; omega)]

theorem terminated_filled (proper : '\x00' ∉ text.toList) (room : 0 < size) :
    terminated (filled size text) = (bytesOf text).take (size - 1) := by
  have whole : 0 ∉ bytesOf text := fun mem => proper (Text.mem_of_byte mem (by decide))
  obtain ⟨zeros, ends⟩ := filled_eq room text
  rw [ends]
  exact terminated_append fun mem => whole (List.mem_of_mem_take mem)

theorem path_eq (fits : bytes.length ≤ Limits.pathSize) :
    path bytes = word 1 ++ bytes ++ List.replicate (Limits.pathSize + 1 - bytes.length) 0 := by
  have shorter : bytes.length ≤ (List.replicate (Limits.pathSize + 1) (0 : UInt8)).length := by
    rw [List.length_replicate]
    omega
  rw [path, overwrite_eq shorter, List.drop_replicate, List.append_assoc]

theorem pathOf_path (proper : 0 ∉ bytes) (fits : bytes.length ≤ Limits.pathSize) :
    pathOf (path bytes) = bytes := by
  unfold pathOf
  rw [path_eq fits, Nat.succ_sub fits, List.replicate_succ, List.append_assoc]
  exact terminated_append proper

theorem length_word (n : Int) : (word n).length = 2 := rfl

theorem wordValue_word (n : Int) : (wordValue (word n) : Int) = n % 65536 := by
  simp only [word, wordValue, UInt8.toNat_ofNat']
  omega

variable {family family' : Int} {a a' : Address}

def decode? (raw : List UInt8) : Option (Nat × Address) := do
  return (familyOf raw, ⟨← Text.ofBytes? (cpuOf raw), ← Text.ofBytes? (nameOf raw)⟩)

theorem messaging_eq (family : Int) (a : Address) : messaging family a =
    word family ++ (filled Limits.cpuSize a.cpu ++ filled Limits.nameSize a.name) :=
  List.append_assoc ..

theorem cpuOf_messaging (family : Int) (a : Address) :
    cpuOf (messaging family a) = terminated (filled Limits.cpuSize a.cpu) := by
  rw [cpuOf, messaging_eq, List.drop_left' (length_word family), List.take_left' (length_filled ..)]

theorem nameOf_messaging (family : Int) (a : Address) :
    nameOf (messaging family a) = terminated (filled Limits.nameSize a.name) := by
  rw [nameOf, messaging_eq, ← List.drop_drop, List.drop_left' (length_word family),
    List.drop_left' (length_filled ..), List.take_of_length_le (Nat.le_of_eq (length_filled ..))]

theorem ends_messaging (family : Int) (a : Address) :
    (messaging family a)[17]? = some 0 ∧ (messaging family a)[49]? = some 0 := by
  have cpu : (filled Limits.cpuSize a.cpu).length = 16 := length_filled ..
  have skip (bytes : List UInt8) (i : Nat) : (word family ++ bytes)[i + 2]? = bytes[i]? := rfl
  rw [messaging_eq, skip _ 15, skip _ 47]
  constructor
  · rw [List.getElem?_append_left (by omega)]
    exact last_filled (by decide) a.cpu
  · rw [List.getElem?_append_right (by omega), cpu]
    exact last_filled (by decide) a.name

theorem names_messaging (proper : a.Proper) (family : Int) :
    cpuOf (messaging family a) = (bytesOf a.cpu).take 15 ∧
      nameOf (messaging family a) = (bytesOf a.name).take 31 := by
  rw [cpuOf_messaging, nameOf_messaging]
  exact ⟨terminated_filled proper.cpu (by decide), terminated_filled proper.name (by decide)⟩

theorem familyOf_messaging_emod (family : Int) (a : Address) :
    (familyOf (messaging family a) : Int) = family % 65536 := wordValue_word family

theorem familyOf_messaging (low : 0 ≤ family) (high : family ≤ 65535) (a : Address) :
    (familyOf (messaging family a) : Int) = family := by
  rw [familyOf_messaging_emod]
  omega

theorem decode?_messaging (low : 0 ≤ family) (high : family ≤ 65535) (fits : a.Fits) :
    decode? (messaging family a) = some (family.toNat, a) := by
  obtain ⟨cpu, name⟩ := names_messaging fits.toProper family
  rw [List.take_of_length_le fits.cpuRoom] at cpu
  rw [List.take_of_length_le fits.nameRoom] at name
  have number : familyOf (messaging family a) = family.toNat := by
    have := familyOf_messaging low high a
    omega
  simp [decode?, cpu, name, number]

/-- A field takes what it has room for and zeros after that, whatever was in it.  So both fields of
a native address end with a zero, and are read as the names that were written, or as what there was
room for of them; and addresses that fit are read back, and no two are written alike. -/
theorem addresses_decode :
    (∀ bytes field : List UInt8,
      let n := min bytes.length (field.length - 1)
      encodeField bytes field = (n, bytes.take n ++ List.replicate (field.length - n) 0)) ∧
    ∀ (family : Int) (a : Address), 1 ≤ family → family ≤ 65535 →
      let raw := messaging family a
      (raw[17]? = some 0 ∧ raw[49]? = some 0) ∧
      (a.Proper → familyOf raw = family ∧ cpuOf raw = (bytesOf a.cpu).take 15 ∧
        nameOf raw = (bytesOf a.name).take 31) ∧
      (a.Fits → decode? raw = some (family.toNat, a) ∧
        ∀ (family' : Int) (a' : Address), 1 ≤ family' → family' ≤ 65535 → a'.Fits →
          messaging family' a' = raw → family' = family ∧ a' = a) := by
  refine ⟨encodeField_eq, fun family a least high => ?_⟩
  have low : 0 ≤ family := by omega
  refine ⟨ends_messaging family a, fun proper => ?_, fun fits => ⟨?_, ?_⟩⟩
  · exact ⟨familyOf_messaging low high a, names_messaging proper family⟩
  · exact decode?_messaging low high fits
  · intro family' a' least' high' fits' same
    have low' : 0 ≤ family' := by omega
    have read := decode?_messaging low' high' fits'
    rw [same, decode?_messaging low high fits] at read
    obtain ⟨number, rfl⟩ := Prod.mk.inj (Option.some.inj read)
    exact ⟨by omega, rfl⟩

theorem addresses_decode_accented :
    let a : Address := ⟨"ééééééé", "ééééééééééééééé"⟩
    let long : Address := ⟨"éééééééé", "éééééééééééééééé"⟩
    a.Fits ∧ decode? (messaging 65535 a) = some (65535, a) ∧
      messaging 46 a ≠ messaging 65535 a ∧
      long.Proper ∧ familyOf (messaging 46 long) = 46 ∧
      cpuOf (messaging 46 long) = bytesOf "ééééééé" ++ [195] ∧
      nameOf (messaging 46 long) = bytesOf "ééééééééééééééé" ++ [195] := by
  intro a long
  have fits : a.Fits := ⟨⟨by decide, by decide⟩, by decide, by decide⟩
  have proper : long.Proper := ⟨by decide, by decide⟩
  obtain ⟨read, unique⟩ := (addresses_decode.2 65535 a (by decide) (by decide)).2.2 fits
  obtain ⟨family, cpu, name⟩ := (addresses_decode.2 46 long (by decide) (by decide)).2.1 proper
  have apart : messaging 46 a ≠ messaging 65535 a := fun same =>
    absurd (unique 46 a (by decide) (by decide) fits same).1 (by decide)
  refine ⟨fits, read, apart, proper, by exact_mod_cast family, ?_, ?_⟩
  · rw [cpu]
    decide
  · rw [name]
    decide

end Sockaddr

end ProcessorSockets
