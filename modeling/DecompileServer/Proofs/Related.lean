import Mathlib.Data.List.Forall2

/-!
# Related lists

Two lists of the same length are related where each item of one is related to the part in its place
in the other. So every member of either is related to some member of the other, and a list each of
whose members is related to something is related to a list.
-/
namespace DecompileServer

variable {α β : Type} {Matches : α → β → Prop} {items : List α} {parts : List β}

/-- Each of the items is related to a part. -/
theorem exists_of_mem_left {item : α} (related : List.Forall₂ Matches items parts)
    (member : item ∈ items) : ∃ part ∈ parts, Matches item part := by
  induction related with
  | nil => cases member
  | @cons first part items parts known _ ih =>
    obtain rfl | later := List.mem_cons.mp member
    · exact ⟨part, List.mem_cons_self, known⟩
    · obtain ⟨other, inside, same⟩ := ih later
      exact ⟨other, List.mem_cons_of_mem _ inside, same⟩

/-- To each of the parts an item is related. -/
theorem exists_of_mem_right {part : β} (related : List.Forall₂ Matches items parts)
    (member : part ∈ parts) : ∃ item ∈ items, Matches item part :=
  exists_of_mem_left related.flip member

/-- Items each of which is related to something are related to a list. -/
theorem exists_forall₂_left (each : ∀ item ∈ items, ∃ part, Matches item part) :
    ∃ parts, List.Forall₂ Matches items parts := by
  induction items with
  | nil => exact ⟨[], .nil⟩
  | cons first further ih =>
    obtain ⟨part, known⟩ := each first List.mem_cons_self
    obtain ⟨parts, related⟩ := ih fun item member => each item (List.mem_cons_of_mem _ member)
    exact ⟨part :: parts, .cons known related⟩

/-- Parts to each of which something is related are related to a list. -/
theorem exists_forall₂_right (each : ∀ part ∈ parts, ∃ item, Matches item part) :
    ∃ items, List.Forall₂ Matches items parts := by
  obtain ⟨items, related⟩ := exists_forall₂_left each
  exact ⟨items, related.flip⟩

end DecompileServer
