import DecompileServer.Proofs.Json.Parsing
import Mathlib.Data.List.Induction
import Mathlib.Data.String.Basic
import Mathlib.Order.Basic

/-!
# Members of objects

The value of a key of an object is that of the last member with this key (`member?_ofMembers`), so
neither the order of the members nor those with other keys make a difference to it.
-/
namespace DecompileServer.Json

/-- The value of the last member with a key. -/
def lastOf (entries : List (String × Value)) (key : String) : Option Value :=
  entries.reverse.lookup key

namespace Value

variable {key wanted : String} {value : Value} {known entries : List (String × Value)}

/-- The value of a key is that of the first entry with it. -/
theorem lookup_cons (key wanted : String) (value : Value) (known : List (String × Value)) :
    ((key, value) :: known).lookup wanted =
      if wanted = key then some value else known.lookup wanted := by
  by_cases same : wanted = key
  · simp [same]
  · rw [List.lookup_cons, beq_eq_false_iff_ne.mpr same, if_neg same]

/-- Setting the value of a key leaves those of the others. -/
theorem lookup_insertMember (key wanted : String) (value : Value) (known : List (String × Value)) :
    (insertMember key value known).lookup wanted =
      if wanted = key then some value else known.lookup wanted := by
  induction known with
  | nil => exact lookup_cons key wanted value []
  | cons first further ih =>
    obtain ⟨other, stored⟩ := first
    rw [insertMember]
    split
    · rename_i same
      subst same
      rw [lookup_cons, lookup_cons]
      split <;> rfl
    · rename_i distinct
      split
      · rw [lookup_cons]
      · rw [lookup_cons, lookup_cons, ih]
        split
        · rename_i found
          rw [if_neg (found ▸ Ne.symm distinct)]
        · rfl

/-- A member of an object is the one that was set or was there before. -/
theorem of_mem_insertMember {member : String × Value}
    (inside : member ∈ insertMember key value known) : member = (key, value) ∨ member ∈ known := by
  induction known with
  | nil => exact .inl (List.mem_singleton.mp inside)
  | cons first further ih =>
    obtain ⟨other, stored⟩ := first
    rw [insertMember] at inside
    split at inside
    · exact (List.mem_cons.mp inside).imp id (List.mem_cons_of_mem _)
    · split at inside
      · exact List.mem_cons.mp inside
      · obtain rfl | later := List.mem_cons.mp inside
        · exact .inr List.mem_cons_self
        · exact (ih later).imp id (List.mem_cons_of_mem _)

/-- A member is set in the order of the keys. -/
theorem sorted_insertMember (sorted : known.Pairwise fun first second => first.1 < second.1) :
    (insertMember key value known).Pairwise fun first second => first.1 < second.1 := by
  induction known with
  | nil => exact List.pairwise_singleton _ _
  | cons first further ih =>
    obtain ⟨other, stored⟩ := first
    obtain ⟨above, rest⟩ := List.pairwise_cons.mp sorted
    rw [insertMember]
    split
    · rename_i same
      subst same
      exact List.pairwise_cons.mpr ⟨above, rest⟩
    · rename_i distinct
      split
      · rename_i below
        refine List.pairwise_cons.mpr ⟨fun member inside => ?_, sorted⟩
        obtain rfl | later := List.mem_cons.mp inside
        · exact below
        · exact below.trans (above member later)
      · rename_i notBelow
        have beyond : other < key := lt_of_le_of_ne (not_lt.mp notBelow) (Ne.symm distinct)
        refine List.pairwise_cons.mpr ⟨fun member inside => ?_, ih rest⟩
        obtain rfl | before := of_mem_insertMember inside
        · exact beyond
        · exact above member before

/-- The members of an object in the order of their keys are taken in this order. -/
theorem ofMembers_of_sorted {members : List (String × Value)}
    (sorted : members.Pairwise fun first second => first.1 < second.1) :
    ofMembers members = .object members := by
  have last : ∀ (known : List (String × Value)) (key : String) (value : Value),
      (∀ member ∈ known, member.1 < key) →
        insertMember key value known = known ++ [(key, value)] := by
    intro known key value
    induction known with
    | nil => exact fun _ => rfl
    | cons first further ih =>
      obtain ⟨other, stored⟩ := first
      intro below
      have before : other < key := below (other, stored) List.mem_cons_self
      rw [insertMember, if_neg before.ne', if_neg before.asymm,
        ih fun member inside => below member (List.mem_cons_of_mem _ inside), List.cons_append]
  have fold : ∀ known : List (String × Value),
      (known ++ members).Pairwise (fun first second => first.1 < second.1) →
      members.foldl (fun known member => insertMember member.1 member.2 known) known =
        known ++ members := by
    clear sorted
    induction members with
    | nil => simp
    | cons first further ih =>
      obtain ⟨key, value⟩ := first
      intro known ordered
      have below : ∀ member ∈ known, member.1 < key := by
        intro member inside
        exact (List.pairwise_append.mp ordered).2.2 member inside (key, value) List.mem_cons_self
      rw [List.foldl_cons]
      dsimp only
      rw [last known key value below, ih _ (by simpa using ordered)]
      simp
  rw [ofMembers, fold [] (by simpa using sorted), List.nil_append]

/-- The value of a key is that of the last member with this key. -/
theorem member?_ofMembers (entries : List (String × Value)) :
    (ofMembers entries).member? = lastOf entries := by
  funext key
  change (entries.foldl (fun known entry => insertMember entry.1 entry.2 known) []).lookup key = _
  induction entries using List.reverseRecOn with
  | nil => rfl
  | append_singleton front last ih =>
    rw [List.foldl_concat, lookup_insertMember, ih, lastOf, lastOf, List.reverse_concat,
      lookup_cons]

end Value

section Texts

variable {text : String} {room : Nat} {core : List Char} {value : Value}

/-- An object is written with braces around its members. -/
theorem Writes.exists_members {known : List (String × Value)}
    (writes : Writes room core (.object known)) :
    ∃ (less : Nat) (inside : List Char) (members : List Member), room = less + 1 ∧
      core = '\x7b' :: (inside ++ ['\x7d']) ∧
      AreSeparated inside (members.map Member.characters) ∧
      (∀ member ∈ members, Writes less member.part.core member.part.value) ∧
      .object known = Value.ofMembers (members.map Member.entry) := by
  generalize same : Value.object known = value at writes
  cases writes with
  | object separated each => exact ⟨_, _, _, rfl, rfl, separated, each, rfl⟩
  | _ => cases same

/-- A text is JSON for an object exactly if it is JSON for its members in some order. -/
theorem isText_object {known : List (String × Value)} : IsText text (.object known) ↔
    ∃ entries, IsObjectText text entries ∧ .object known = Value.ofMembers entries := by
  constructor
  · rintro ⟨core, padded, writes⟩
    obtain ⟨less, inside, members, limit, rfl, separated, each, same⟩ := writes.exists_members
    obtain rfl : less = depthLimit - 1 := by rw [limit]; rfl
    exact ⟨_, ⟨inside, members, padded, separated, each, rfl⟩, same⟩
  · rintro ⟨entries, ⟨inside, members, padded, separated, each, rfl⟩, same⟩
    rw [same]
    exact ⟨_, padded, .object separated each⟩

end Texts

end DecompileServer.Json
