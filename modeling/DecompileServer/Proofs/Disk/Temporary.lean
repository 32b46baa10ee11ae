import DecompileServer.Disk.Temporary
import DecompileServer.Proofs.Disk.Confined
import Mathlib.Data.List.Nodup
import Mathlib.Data.List.Perm.Subperm
import Mathlib.Data.String.Basic

/-!
# Making temporary directories

The numbers in names differ, so one of the first names is not in use and a fresh name never is
(`isUnused_freshName`). The path of a temporary directory starts at the root and ends in a digit, so
a directory that has been made there stands on a site (`site_of_makeTemporary`). One that cannot be
made leaves the host.
-/
namespace DecompileServer

open Disk (Fault Tree)

namespace Path

variable {path : Path} {further : String} {last : Char}

/-- Whether a path ends in a slash shows in what it has been continued by. -/
theorem endsInSlash_join (ending : further.toList.getLast? = some last) :
    (path.join further).endsInSlash = (last == '/') := by
  unfold join endsInSlash
  split
  · simp [ending]
  · split <;> simp [List.getLast?_append, List.getLast?_cons, ending]

end Path

namespace Host

variable {host after : Host} {root path : Path} {beginning : String}

/-- A numbered name ends in a digit. -/
theorem getLast?_numberedName (beginning : String) (count : Nat) :
    ∃ digit, (numberedName beginning count).toList.getLast? = some digit ∧ digit ≠ '/' := by
  have filled : Nat.toDigits 10 count ≠ [] := Nat.toDigits_ne_nil
  have last := List.getLast?_eq_some_getLast filled
  refine ⟨(Nat.toDigits 10 count).getLast filled, ?_, ?_⟩
  · simp [numberedName, List.getLast?_append, last]
  · intro slash
    have isDigit := Nat.isDigit_of_mem_toDigits (by decide) (by decide) (List.getLast_mem filled)
    rw [slash] at isDigit
    exact absurd isDigit (by decide)

/-- The number in a name can be read back. -/
theorem numberedName_injective : Function.Injective (numberedName beginning) := by
  intro count other same
  have texts := congrArg String.toList same
  simp only [numberedName, String.toList_append, String.toList_ofList,
    List.append_cancel_left_eq] at texts
  have numbers := congrArg (fun digits => Nat.ofDigitChars 10 digits 0) texts
  simpa [Nat.ofDigitChars_append, Nat.ofDigitChars_replicate_zero] using numbers

/-- Digits take a byte each. -/
theorem utf8ByteSize_ofList_of_isDigit {digits : List Char}
    (each : ∀ digit ∈ digits, digit.isDigit = true) :
    (String.ofList digits).utf8ByteSize = digits.length := by
  rw [String.utf8ByteSize_ofList]
  induction digits with
  | nil => rfl
  | cons digit rest ih =>
    have size : digit.utf8Size = 1 := by
      have small := each digit List.mem_cons_self
      rw [Char.utf8Size_eq_one_iff]
      simp only [Char.isDigit, Bool.and_eq_true, decide_eq_true_eq] at small
      exact UInt32.le_trans small.2 (by decide)
    rw [String.utf8Len_cons, size, ih fun other member => each other (List.mem_cons_of_mem _ member)]
    rfl

/-- Names with less than a million before them are of one size. -/
theorem utf8ByteSize_numberedName {count : Nat} (few : count < 10 ^ 6) :
    (numberedName beginning count).utf8ByteSize = beginning.utf8ByteSize + 6 := by
  have short : (Nat.toDigits 10 count).length ≤ 6 :=
    (Nat.length_toDigits_le_iff (by decide) (by decide)).mpr few
  rw [numberedName, String.utf8ByteSize_append, utf8ByteSize_ofList_of_isDigit]
  · rw [List.length_append, List.length_replicate]
    omega
  · intro digit member
    obtain padding | digit := List.mem_append.mp member
    · rw [List.eq_of_mem_replicate padding]
      decide
    · exact Nat.isDigit_of_mem_toDigits (by decide) (by decide) digit

/-- There are no more numbers than names if what they number is among the names. -/
theorem count_le_of_mem {α : Type} {naming : Nat → α} (injective : Function.Injective naming)
    {names : List α} {count : Nat} (inside : ∀ fewer < count, naming fewer ∈ names) :
    count ≤ names.length := by
  have distinct : ((List.range count).map naming).Nodup :=
    List.Nodup.map injective List.nodup_range
  have subset : (List.range count).map naming ⊆ names := by
    intro name member
    obtain ⟨fewer, small, rfl⟩ := List.mem_map.mp member
    exact inside fewer (List.mem_range.mp small)
  have fewer := (distinct.subperm subset).length_le
  rwa [List.length_map, List.length_range] at fewer

/-- What follows a location on the way to another one below it. -/
theorem getElem?_of_prefix {directory location : Disk.Location} {name : String}
    (inside : directory ++ [name] <+: location) : location[directory.length]? = some name := by
  obtain ⟨further, rfl⟩ := inside
  rw [List.append_assoc, List.getElem?_append_right (Nat.le_refl _)]
  simp

/-- A name in use leads to an entry below it. -/
theorem exists_of_isUnused_false {name : String} (used : host.isUnused root name = false) :
    ∃ directory, host.locate root = .ok directory ∧
      ∃ entry ∈ host.tree.entries, directory ++ [name] <+: entry.1 := by
  cases led : host.locate root with
  | error fault => simp [isUnused, led] at used
  | ok directory =>
    simp only [isUnused, led, Tree.isFree, Bool.not_eq_false', List.any_eq_true,
      List.isPrefixOf_iff_prefix] at used
    exact ⟨directory, rfl, used⟩

/-- One of the numbered names is not in use, since there are more of them than entries. -/
theorem exists_isUnused (host : Host) (root : Path) (beginning : String) :
    ∃ count ∈ List.range (host.tree.entries.length + 1),
      host.isUnused root (numberedName beginning count) = true := by
  by_contra none
  have used : ∀ count < host.tree.entries.length + 1,
      host.isUnused root (numberedName beginning count) = false := by
    intro count small
    rw [Bool.eq_false_iff]
    exact fun unused => none ⟨count, List.mem_range.mpr small, unused⟩
  obtain ⟨directory, led, _⟩ := exists_of_isUnused_false (used 0 (Nat.succ_pos _))
  have inside : ∀ count < host.tree.entries.length + 1, some (numberedName beginning count) ∈
      host.tree.entries.map fun entry => entry.1[directory.length]? := by
    intro count small
    obtain ⟨_, led', entry, member, below⟩ := exists_of_isUnused_false (used count small)
    obtain rfl := Except.ok.inj (led.symm.trans led')
    exact List.mem_map.mpr ⟨entry, member, getElem?_of_prefix below⟩
  have injective : Function.Injective fun count => some (numberedName beginning count) :=
    fun _ _ same => numberedName_injective (Option.some.inj same)
  have fewer := count_le_of_mem injective inside
  rw [List.length_map] at fewer
  omega

/-- A fresh name is the first numbered name that is not in use. -/
theorem exists_freshName (host : Host) (root : Path) (beginning : String) :
    ∃ count, host.freshName root beginning = numberedName beginning count ∧
      ∀ fewer < count, host.isUnused root (numberedName beginning fewer) = false := by
  unfold freshName
  split
  · rename_i count found
    obtain ⟨_, _, earlier⟩ := List.find?_range_eq_some.mp found
    exact ⟨count, rfl, fun fewer small => by simpa using earlier fewer small⟩
  · rename_i none
    obtain ⟨count, member, unused⟩ := host.exists_isUnused root beginning
    exact absurd unused (List.find?_eq_none.mp none count member)

/-- A fresh name is not in use. -/
theorem isUnused_freshName (host : Host) (root : Path) (beginning : String) :
    host.isUnused root (host.freshName root beginning) = true := by
  unfold freshName
  split
  · rename_i count found
    have unused := List.find?_some found
    exact unused
  · rename_i none
    obtain ⟨count, member, unused⟩ := host.exists_isUnused root beginning
    exact absurd unused (List.find?_eq_none.mp none count member)

/-- A fresh name ends in a digit. -/
theorem getLast?_freshName :
    ∃ digit, (host.freshName root beginning).toList.getLast? = some digit ∧ digit ≠ '/' := by
  obtain ⟨count, same, _⟩ := host.exists_freshName root beginning
  rw [same]
  exact getLast?_numberedName beginning count

/-- The working directory is given from the root on. -/
theorem isAbsolute_workingPath : host.workingPath.isAbsolute = true := by
  simp [workingPath, Path.isAbsolute]

/-- The path of a directory from the root on starts there. -/
theorem isAbsolute_absolutePath : (host.absolutePath root).isAbsolute = true := by
  unfold absolutePath
  split
  · assumption
  · exact Path.isAbsolute_join isAbsolute_workingPath

/-- The path of a temporary directory starts at the root. -/
theorem isAbsolute_temporaryName : (host.temporaryName root beginning).isAbsolute = true :=
  Path.isAbsolute_join isAbsolute_absolutePath

/-- The path of a temporary directory does not end in a slash. -/
theorem endsInSlash_temporaryName : (host.temporaryName root beginning).endsInSlash = false := by
  obtain ⟨digit, last, notSlash⟩ := getLast?_freshName
  have ended : (digit == '/') = false := by simpa using notSlash
  exact (Path.endsInSlash_join last).trans ended

/-- A temporary directory is made at its path, or the host is left and the fault told. -/
theorem run_makeTemporary :
    (makeTemporary root beginning).run host =
      match host.makeDirectory (host.temporaryName root beginning) with
      | .ok after => (.ok (host.temporaryName root beginning), after)
      | .error fault => (.error (fault, host.temporaryName root beginning), host) := by
  have act : ∀ path : Path, (change fun host => (host.makeDirectory path).mapError
      fun fault => (fault, path)).run host =
        match host.makeDirectory path with
        | .ok after => (.ok (), after)
        | .error fault => (.error (fault, path), host) := by
    intro path
    cases made : host.makeDirectory path with
    | error fault => exact Effect.run_change_of_error (by rw [made, Except.mapError])
    | ok after => exact Effect.run_change_of_ok (by rw [made, Except.mapError])
  unfold makeTemporary
  rw [Effect.run_bind_of_ok Effect.run_get]
  have acted := act (host.temporaryName root beginning)
  cases made : host.makeDirectory (host.temporaryName root beginning) with
  | error fault =>
    rw [made] at acted
    exact Effect.run_bind_of_error acted
  | ok after =>
    rw [made] at acted
    exact Effect.run_bind_of_ok acted

/-- Making a temporary directory fails without a trace. -/
theorem eq_of_makeTemporary_error {failure : Fault × Path}
    (failed : (makeTemporary root beginning).run host = (.error failure, after)) :
    after = host := by
  rw [run_makeTemporary] at failed
  split at failed
  · cases failed
  · cases failed
    rfl

/-- A temporary directory is made on a site. -/
theorem site_of_makeTemporary (closed : host.tree.IsClosed)
    (made : (makeTemporary root beginning).run host = (.ok path, after)) :
    ∃ base, Site host path base ∧
      after = { host with tree := host.tree.put base .directory } := by
  rw [run_makeTemporary] at made
  split at made
  · rename_i filled madeHere
    cases made
    obtain ⟨directory, name, names, free, rfl⟩ := makeDirectory_eq_ok madeHere
    exact ⟨directory ++ [name], ⟨closed, isAbsolute_temporaryName, endsInSlash_temporaryName,
      ⟨directory, name, rfl, names⟩, free⟩, rfl⟩
  · cases made

end Host

end DecompileServer
