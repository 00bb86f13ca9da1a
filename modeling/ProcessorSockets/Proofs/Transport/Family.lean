import ProcessorSockets.Kernel.Scripted
import ProcessorSockets.Proofs.Config
import ProcessorSockets.Proofs.Transport.Native
import ProcessorSockets.Proofs.Transport.Sockaddr
import ProcessorSockets.Transport.Selection

namespace ProcessorSockets

namespace Sockaddr

variable {family family' : Int} {a : Address}

theorem messaging_eq_iff (a : Address) :
    messaging family a = messaging family' a ↔ family % 65536 = family' % 65536 := by
  constructor
  · intro same
    rw [← familyOf_messaging_emod family a, same, familyOf_messaging_emod]
  · intro same
    rw [messaging_eq, messaging_eq, word, word, same]

theorem familyOf_messaging_iff (low : 0 ≤ family) (a : Address) :
    (familyOf (messaging family a) : Int) = family ↔ family ≤ 65535 := by
  rw [familyOf_messaging_emod]
  omega

end Sockaddr

namespace Native

variable {κ : Type} (K : Kernel κ) (desk : Desk κ)

theorem notes_syscall (c : Syscall) (notes : List Note) :
    (syscall K c (desk, notes)).2.2 = notes ++ [.syscall c] := by
  rw [run_syscall]

theorem notes_answer_syscall (c : Syscall) : (answer (syscall K c) desk).notes = [.syscall c] :=
  notes_syscall K desk c []

end Native

namespace Messaging

variable {κ : Type} (K : Kernel κ) (family : Int) (desk : Desk κ)

theorem notes_create {type : Int} (known : 1 ≤ type ∧ type ≤ 5) (protocol : Int) :
    ∃ events : List Event, (Native.answer (create K family type protocol) desk).notes =
      .syscall (.socket family (type + Syscall.closeOnExec) protocol) ::
        events.map Note.event := by
  let c := Syscall.socket family (type + Syscall.closeOnExec) protocol
  have called : Native.socket K family type protocol = Native.syscall K c := if_pos known
  have noted := Native.notes_syscall K desk c []
  unfold create Native.answer
  rw [called]
  cases run : Native.syscall K c (desk, []) with
  | mk r st =>
    rw [run] at noted
    obtain ⟨desk', notes⟩ := st
    obtain rfl : notes = [.syscall c] := noted
    cases r with
    | error e => exact ⟨[], by rw [ExceptT.run, StateT.run, Native.run_bind_error run]; rfl⟩
    | ok fd =>
      refine ⟨[⟨.trace, "rpmsg socket allocated"⟩], ?_⟩
      rw [ExceptT.run, StateT.run, Native.run_bind_ok run]
      rfl

end Messaging

namespace Config

variable {κ : Type}

theorem exists_environment {n : Int} (positive : 0 < n) (word : n ≤ 0x7FFFFFFF) :
    ∃ env, (ofEnvironment env).1 = { standard with addressFamily := n } := by
  let s := String.ofList (Text.Decimal.ofNat n.toNat)
  have numeral : Text.Decimal.Numeral s.toList n := by
    have bare := Text.Decimal.Numeral.bare (Text.Decimal.digits_ofNat n.toNat)
    rw [Text.Decimal.value_ofNat, Int.toNat_of_nonneg positive.le] at bare
    rwa [String.toList_ofList]
  have bare : Text.Padded ([] ++ (s.toList ++ [])) s.toList := .mk nofun nofun
  have counts : family? s = some n :=
    family?_eq_some.mpr ⟨s.toList, by simpa using bare, numeral, positive, word⟩
  let env : Environment := ⟨[(familyVariable, bytesOf s)]⟩
  have set : env.text? familyVariable = some s :=
    Environment.text?_eq_some.mpr (by simp [Environment.Holds, env])
  have unset (name : String) (other : (name == familyVariable) = false) :
      env.text? name = none := by
    refine Environment.text?_eq_none.mpr fun s' holds => ?_
    rw [Environment.Holds, List.lookup_cons, other] at holds
    cases holds
  refine ⟨env, ?_⟩
  simp only [ofEnvironment, Environment.nonempty?, set, unset transportVariable rfl,
    unset directoryVariable rfl, unset cpuVariable rfl, kindOf, familyOf, counts]
  rfl

/-- Every positive word is accepted as a family, and a new socket is asked for with just that
number.  But bind and connect pass an address with its low 16 bits: the same number up to 65535, and
another one beyond.  So two families are told apart by the addresses only if they differ there. -/
theorem family_narrowed (K : Kernel κ) :
    (∀ n, (∃ env, (ofEnvironment env).1.addressFamily = n) ↔ 0 < n ∧ n ≤ 0x7FFFFFFF) ∧
    ∀ env, let c := (ofEnvironment env).1
      c.kind = .rpmsg → ∀ desk,
        (∀ type protocol, 1 ≤ type ∧ type ≤ 5 → ∃ events : List Event,
          ((c.transport K).handle (.create type protocol) desk).notes =
            .syscall (.socket c.addressFamily (type + Syscall.closeOnExec) protocol) ::
              events.map Note.event) ∧
        ∀ fd a,
          (∃ raw, ((c.transport K).handle (.bind fd a) desk).notes = [.syscall (.bind fd raw)] ∧
            ((c.transport K).handle (.connect fd a) desk).notes = [.syscall (.connect fd raw)] ∧
            (Sockaddr.familyOf raw : Int) = c.addressFamily % 65536 ∧
            ((Sockaddr.familyOf raw : Int) = c.addressFamily ↔ c.addressFamily ≤ 65535)) ∧
          ∀ env', let c' := (ofEnvironment env').1
            c'.kind = .rpmsg →
              (((c'.transport K).handle (.bind fd a) desk).notes =
                  ((c.transport K).handle (.bind fd a) desk).notes ↔
                c'.addressFamily % 65536 = c.addressFamily % 65536) := by
  have transport_eq {c : Config} (kind : c.kind = .rpmsg) :
      c.transport K = Messaging.transport K c.addressFamily := by
    unfold transport
    rw [kind]
  refine ⟨fun n => ⟨?_, ?_⟩, ?_⟩
  · rintro ⟨env, rfl⟩
    have valid := (follows_ofEnvironment env).valid
    exact ⟨valid.positive, valid.word⟩
  · rintro ⟨positive, word⟩
    obtain ⟨env, is⟩ := exists_environment positive word
    exact ⟨env, by rw [is]⟩
  intro env c kind desk
  refine ⟨?_, fun fd a => ⟨?_, ?_⟩⟩
  · intro type protocol known
    rw [transport_eq kind]
    exact Messaging.notes_create K c.addressFamily desk known protocol
  · refine ⟨Sockaddr.messaging c.addressFamily a, ?_, ?_, ?_, ?_⟩
    · rw [transport_eq kind]
      exact Native.notes_answer_syscall K desk _
    · rw [transport_eq kind]
      exact Native.notes_answer_syscall K desk _
    · exact Sockaddr.familyOf_messaging_emod c.addressFamily a
    · exact Sockaddr.familyOf_messaging_iff (follows_ofEnvironment env).valid.positive.le a
  · intro env' c' kind'
    have noted (n : Int) : ((Messaging.transport K n).handle (.bind fd a) desk).notes =
        [.syscall (.bind fd (Sockaddr.messaging n a))] := Native.notes_answer_syscall K desk _
    rw [transport_eq kind, transport_eq kind', noted, noted, ← Sockaddr.messaging_eq_iff a]
    simp only [List.cons.injEq, Note.syscall.injEq, Syscall.bind.injEq, true_and, and_true]

theorem family_narrowed_wide :
    let env : Environment := ⟨[(familyVariable, bytesOf "65582")]⟩
    let desk : Desk ScriptedKernel.State := ⟨⟨fun _ => [], 100, [], []⟩, []⟩
    let T := (ofEnvironment env).1.transport ScriptedKernel.kernel
    let T' := (ofEnvironment ⟨[]⟩).1.transport ScriptedKernel.kernel
    (ofEnvironment env).1.addressFamily = 65582 ∧
      (∃ events : List Event, (T.handle (.create 1 0) desk).notes =
        .syscall (.socket 65582 0x80001 0) :: events.map Note.event) ∧
      (∃ raw, (T.handle (.bind 100 ⟨"ap", "svc"⟩) desk).notes = [.syscall (.bind 100 raw)] ∧
        (Sockaddr.familyOf raw : Int) = 46) ∧
      (T'.handle (.bind 100 ⟨"ap", "svc"⟩) desk).notes =
        (T.handle (.bind 100 ⟨"ap", "svc"⟩) desk).notes := by
  intro env desk T T'
  have family : (ofEnvironment env).1.addressFamily = 65582 := by decide +kernel
  have kind : (ofEnvironment env).1.kind = .rpmsg := by decide +kernel
  obtain ⟨created, passed⟩ := (family_narrowed ScriptedKernel.kernel).2 env kind desk
  obtain ⟨⟨raw, bound, -, low, -⟩, alike⟩ := passed 100 ⟨"ap", "svc"⟩
  refine ⟨family, ?_, ⟨raw, bound, ?_⟩, ?_⟩
  · have made := created 1 0 (by decide)
    rwa [family] at made
  · rw [low, family]
    decide
  · exact (alike ⟨[]⟩ rfl).mpr (by rw [family]; decide)

/-- Two families that the environment may set, and an address that is passed to bind with the same
bytes under both: the number in it is not the one that the socket was asked for with. -/
theorem families_confused :
    let wide : Config := { standard with addressFamily := 65582 }
    let a : Address := ⟨"ap", "svc"⟩
    let desk : Desk ScriptedKernel.State := ⟨⟨fun _ => [], 100, [], []⟩, []⟩
    let bound (c : Config) :=
      ((c.transport ScriptedKernel.kernel).handle (.bind 100 a) desk).notes
    (ofEnvironment ⟨[(familyVariable, bytesOf "65582")]⟩).1 = wide ∧
      (ofEnvironment ⟨[]⟩).1 = standard ∧ wide.addressFamily ≠ standard.addressFamily ∧
      ((wide.transport ScriptedKernel.kernel).handle (.create 1 0) desk).notes.head? =
        some (.syscall (.socket 65582 0x80001 0)) ∧
      bound wide = [.syscall (.bind 100 (Sockaddr.messaging 46 a))] ∧
      Sockaddr.familyOf (Sockaddr.messaging 46 a) = 46 ∧ bound standard = bound wide := by
  decide +kernel

end Config

end ProcessorSockets
