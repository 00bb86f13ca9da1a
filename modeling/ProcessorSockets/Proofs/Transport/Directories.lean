import ProcessorSockets.Proofs.Kernel.Names
import ProcessorSockets.Proofs.Transport.Native
import ProcessorSockets.Proofs.Transport.Place

namespace ProcessorSockets

namespace FileTree.Tree

structure Grows (t t' : Tree) : Prop where
  named : t.Named → t'.Named
  get : ∀ {bytes at_ node}, t.get bytes = .ok (at_, node) → t'.get bytes = .ok (at_, node)

theorem Grows.refl (t : Tree) : t.Grows t := ⟨id, id⟩

theorem Grows.make {t t' t'' : Tree} (grows : t.Grows t') {bytes : List UInt8} (proper : 0 ∉ bytes)
    {node : Node} (made : t'.make bytes node = .ok t'') : t.Grows t'' := by
  refine ⟨fun named => (grows.named named).make proper made, fun taken => ?_⟩
  obtain ⟨q, _, free, rfl⟩ := make_ok.mp made
  exact get_insert (grows.get taken) free node

theorem get_of_isDirectory {t : Tree} {bytes : List UInt8} (is : t.isDirectory bytes = true) :
    ∃ at_, t.get bytes = .ok (at_, .directory) := by
  unfold isDirectory at is
  split at is
  · rename_i at_ taken
    exact ⟨at_, taken⟩
  · cases is

end FileTree.Tree

namespace Loopback

open FileTree (Tree)
open Native (Keeps)
open UnixDomain (State kernel)

section

variable {κ : Type} {P : Desk κ → Prop} {K : Kernel κ}

theorem keeps_isDirectory (path : List Char) : Keeps P (isDirectory K path) :=
  .andThen .look fun _ => .done _

theorem keeps_makeDirectory
    (kept : ∀ path : List Char, '\x00' ∉ path →
      Keeps P (Native.syscall K (.mkdir (String.ofList path))))
    (path : List Char) : Keeps P (makeDirectory K path) := by
  unfold makeDirectory
  split
  · exact .fails _
  · rename_i proper
    exact kept path (by simpa using proper)

theorem keeps_makeDirectories
    (kept : ∀ path : List Char, '\x00' ∉ path →
      Keeps P (Native.syscall K (.mkdir (String.ofList path))))
    (depth : Nat) (path : List Char) : Keeps P (makeDirectories K depth path) := by
  have single := keeps_makeDirectory kept
  have there (e : NativeError) (path : List Char) : Keeps P (do
      if ← isDirectory K path then return else throw e : Native κ Unit) := by
    refine .andThen (keeps_isDirectory path) fun is => ?_
    cases is with
    | true => exact .done ()
    | false => exact .fails e
  -- The depth bounds how far up the path the first directory can be that is there.
  induction depth generalizing path with
  | zero =>
    cases path with
    | nil => exact .done ()
    | cons c rest => exact .fails _
  | succ depth ih =>
    cases path with
    | nil => exact .done ()
    | cons c rest =>
      rw [makeDirectories.eq_3 K (c :: rest) depth nofun]
      refine .andThen (single _).attempt fun r => ?_
      cases r with
      | ok _ => exact .done ()
      | error e =>
        change Keeps P (if e.kind = .notFound then _ else _)
        split
        · cases parent? (c :: rest) with
          | none => exact .fails _
          | some above =>
            refine .andThen (ih above) fun _ => .andThen (single _).attempt fun r => ?_
            cases r with
            | ok _ => exact .done ()
            | error e => exact there e _
        · exact there e _

end

variable {desk : Desk State} {notes : List Note}

def withTree (desk : Desk State) (t : Tree) : Desk State :=
  { desk with kernel := { desk.kernel with tree := t } }

theorem bytesOf_ofList (path : List Char) : bytesOf (String.ofList path) = Text.utf8 path := by
  rw [bytesOf, String.toList_ofList]

theorem call_mkdir_ok {s : State} {path : String} {t : Tree}
    (made : s.tree.make (bytesOf path) .directory = .ok t) :
    kernel.call (.mkdir path) s = (.ok (), { s with tree := t }) :=
  State.run_onTree_ok (f := (·.make (bytesOf path) .directory)) made

theorem call_mkdir_error {s : State} {path : String} {code : Int}
    (fails : s.tree.make (bytesOf path) .directory = .error code) :
    kernel.call (.mkdir path) s = (.error code, s) :=
  State.run_onTree_error (f := (·.make (bytesOf path) .directory)) fails

theorem makeDirectories_grows (depth : Nat) (path : List Char) (desk : Desk State)
    (notes : List Note) : ∃ t, desk.kernel.tree.Grows t ∧
      (makeDirectories kernel depth path (desk, notes)).2.1 = withTree desk t := by
  apply keeps_makeDirectories
    (P := fun desk' => ∃ t, desk.kernel.tree.Grows t ∧ desk' = withTree desk t)
  · intro path proper st h
    obtain ⟨t, grows, is⟩ := h
    rw [Native.desk_syscall, is]
    cases made : t.make (bytesOf (String.ofList path)) .directory with
    | ok t' =>
      have zero : 0 ∉ bytesOf (String.ofList path) := by
        rw [bytesOf_ofList]
        exact fun mem => proper (Text.mem_of_byte mem (by decide))
      rw [call_mkdir_ok (s := (withTree desk t).kernel) made]
      exact ⟨t', grows.make zero made, rfl⟩
    | error code =>
      rw [call_mkdir_error (s := (withTree desk t).kernel) made]
      exact ⟨t, grows, rfl⟩
  · exact ⟨_, .refl _, rfl⟩

theorem run_makeDirectories_there (named : desk.kernel.tree.Named) {path : List Char} (depth : Nat)
    (notes : List Note)
    (there : path = [] ∨ desk.kernel.tree.isDirectory (Text.utf8 path) = true) :
    ∃ notes', makeDirectories kernel (depth + 1) path (desk, notes) = (.ok (), (desk, notes')) := by
  cases path with
  | nil => exact ⟨notes, rfl⟩
  | cons c rest =>
    obtain none | is := there
    · cases none
    have proper : (c :: rest).contains '\x00' = false := by
      apply Bool.eq_false_iff.mpr
      intro mem
      have zero : (0 : UInt8) ∈ Text.utf8 (c :: rest) :=
        List.mem_flatMap.mpr ⟨'\x00', List.contains_iff_mem.mp mem, by decide⟩
      rw [named.isDirectory zero] at is
      cases is
    obtain ⟨at_, taken⟩ := Tree.get_of_isDirectory is
    rw [← bytesOf_ofList] at taken is
    have exists_ := call_mkdir_error (Tree.make_taken taken .directory)
    have tried : Native.attempt (makeDirectory kernel (c :: rest)) (desk, notes) =
        (.ok (.error (.os Errno.pathExists)),
          (desk, notes ++ [.syscall (.mkdir (String.ofList (c :: rest)))])) := by
      unfold makeDirectory
      rw [proper, Native.run_attempt, if_neg Bool.false_ne_true, Native.run_syscall_error exists_]
    have seen (notes : List Note) : isDirectory kernel (c :: rest) (desk, notes) =
        (.ok true, (desk, notes)) := congrArg (fun is => (Except.ok is, (desk, notes))) is
    refine ⟨notes ++ [.syscall (.mkdir (String.ofList (c :: rest)))], ?_⟩
    rw [makeDirectories.eq_3 kernel (c :: rest) depth nofun, Native.run_bind_ok tried]
    dsimp only
    rw [if_neg (by decide), Native.run_bind_ok (seen _)]
    rfl

theorem run_makeDirectories_zero (named : desk.kernel.tree.Named) {path : List Char} (depth : Nat)
    (notes : List Note) (zero : '\x00' ∈ path) :
    ∃ e, (makeDirectories kernel (depth + 1) path (desk, notes)).1 = .error e := by
  have some : path ≠ [] := List.ne_nil_of_mem zero
  have byte : (0 : UInt8) ∈ bytesOf (String.ofList path) := by
    rw [bytesOf_ofList]
    exact List.mem_flatMap.mpr ⟨'\x00', zero, by decide⟩
  have tried : Native.attempt (makeDirectory kernel path) (desk, notes) =
      (.ok (.error (.described .invalidInput "file name contained an unexpected NUL byte")),
        (desk, notes)) := by
    unfold makeDirectory
    rw [if_pos (List.contains_iff_mem.mpr zero)]
    rfl
  have seen : isDirectory kernel path (desk, notes) = (.ok false, (desk, notes)) :=
    congrArg (fun is => (Except.ok is, (desk, notes))) (named.isDirectory byte)
  refine ⟨.described .invalidInput "file name contained an unexpected NUL byte", ?_⟩
  rw [makeDirectories.eq_3 kernel path depth some, Native.run_bind_ok tried]
  dsimp only
  rw [if_neg (by decide), Native.run_bind_ok seen]
  rfl

end Loopback

end ProcessorSockets
