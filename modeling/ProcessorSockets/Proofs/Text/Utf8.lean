import ProcessorSockets.Text.Utf8

namespace ProcessorSockets.Text

theorem ascii_of_mem {c : Char} {x : UInt8} (mem : x ∈ String.utf8EncodeChar c)
    (low : x.toNat < 128) : c.toNat = x.toNat := by
  unfold String.utf8EncodeChar at mem
  dsimp only at mem
  split at mem
  · rename_i small
    rw [List.mem_singleton] at mem
    subst mem
    have fits : c.val.toNat < 256 := by omega
    rw [UInt8.toNat_ofNat', Nat.mod_eq_of_lt fits]
    rfl
  · exfalso
    split at mem
    · simp only [List.mem_cons, List.not_mem_nil, or_false] at mem
      obtain rfl | rfl := mem <;> simp only [UInt8.toNat_ofNat'] at low <;> omega
    · split at mem
      · simp only [List.mem_cons, List.not_mem_nil, or_false] at mem
        obtain rfl | rfl | rfl := mem <;> simp only [UInt8.toNat_ofNat'] at low <;> omega
      · simp only [List.mem_cons, List.not_mem_nil, or_false] at mem
        obtain rfl | rfl | rfl | rfl := mem <;> simp only [UInt8.toNat_ofNat'] at low <;> omega

theorem mem_of_byte {s : List Char} {x : UInt8} (mem : x ∈ utf8 s) (low : x.toNat < 128) :
    Char.ofNat x.toNat ∈ s := by
  obtain ⟨c, inside, byte⟩ := List.mem_flatMap.mp mem
  rw [← ascii_of_mem byte low, Char.ofNat_toNat]
  exact inside

theorem utf8_injective {s t : List Char} (same : utf8 s = utf8 t) : s = t := by
  have encoded : s.utf8Encode = t.utf8Encode := congrArg List.toByteArray same
  have texts : String.ofList s = String.ofList t := by
    rw [← String.toByteArray_inj, String.toByteArray_ofList, String.toByteArray_ofList, encoded]
  rw [← String.toList_ofList (l := s), texts, String.toList_ofList]

def ofBytes? (bytes : List UInt8) : Option String := String.fromUTF8? bytes.toByteArray

theorem toByteArray_bytesOf (s : String) : (bytesOf s).toByteArray = s.toByteArray := by
  change s.toList.utf8Encode = _
  rw [← String.toByteArray_ofList, String.ofList_toList]

theorem ofBytes?_eq_some {bytes : List UInt8} {s : String} :
    ofBytes? bytes = some s ↔ bytes = bytesOf s := by
  unfold ofBytes? String.fromUTF8?
  rw [← List.toByteArray_inj, toByteArray_bytesOf]
  constructor
  · intro reads
    split at reads
    · cases reads
      rfl
    · cases reads
  · intro same
    rw [dif_pos (same ▸ s.isValidUTF8)]
    congr 1
    rw [← String.toByteArray_inj]
    exact same

@[simp] theorem ofBytes?_bytesOf (s : String) : ofBytes? (bytesOf s) = some s :=
  ofBytes?_eq_some.mpr rfl

end ProcessorSockets.Text
