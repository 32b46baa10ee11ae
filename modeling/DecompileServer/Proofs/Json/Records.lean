import DecompileServer.Json.Record
import DecompileServer.Proofs.Effect

/-!
# Parts of records

A record is read field by field. Where one field sets a part of the record and all others keep it
(`Governs`), that part is what the field's reader makes of the draft given for it, and what it was to
begin with if none is given (`RecordShape.filled_of_reader_eq_ok`), in whichever form and order the
fields are given.
-/
namespace DecompileServer.Json

variable {σ α β : Type}

namespace RecordField

variable {field : RecordField σ} {part : σ → β} {reader : Reader α} {make : α → β}

/-- Whether filling in a field leaves a part of the record alone. -/
def Keeps (field : RecordField σ) (part : σ → β) : Prop :=
  ∀ draft fill, field.read draft = .ok fill → ∀ record, part (fill record) = part record

/-- Whether filling in a field sets a part of the record to what is made of the value read. -/
def Sets (field : RecordField σ) (part : σ → β) (reader : Reader α) (make : α → β) : Prop :=
  ∀ draft fill, field.read draft = .ok fill →
    ∃ value, reader draft = .ok value ∧ ∀ record, part (fill record) = make value

theorem keeps_of {name : String} {fill : α → σ → σ}
    (keeps : ∀ value record, part (fill value record) = part record) :
    (RecordField.of name reader fill).Keeps part := by
  intro draft filled read record
  obtain ⟨value, -, rfl⟩ := Effect.except_map_eq_ok.mp read
  exact keeps value record

theorem sets_of {name : String} {fill : α → σ → σ}
    (sets : ∀ value record, part (fill value record) = make value) :
    (RecordField.of name reader fill).Sets part reader make := by
  intro draft filled read
  obtain ⟨value, given, rfl⟩ := Effect.except_map_eq_ok.mp read
  exact ⟨value, given, sets value⟩

end RecordField

section Fields

variable {fields : List (RecordField σ)} {field : RecordField σ} {name : String} {part : σ → β}
  {reader : Reader α} {make : α → β} {record filled : σ}

/-- Whether the field of a name, and it alone, sets a part of the record. -/
inductive Governs (name : String) (part : σ → β) (reader : Reader α) (make : α → β) :
    List (RecordField σ) → Prop where
  /-- The first field does. -/
  | first {field : RecordField σ} {fields : List (RecordField σ)} (named : field.name = name)
      (sets : field.Sets part reader make)
      (others : ∀ other ∈ fields, other.name ≠ name ∧ other.Keeps part) :
      Governs name part reader make (field :: fields)
  /-- One of those after the first does. -/
  | later {field : RecordField σ} {fields : List (RecordField σ)} (other : field.name ≠ name)
      (keeps : field.Keeps part) (governs : Governs name part reader make fields) :
      Governs name part reader make (field :: fields)

/-- There is a field of that name. -/
theorem Governs.known (governs : Governs name part reader make fields) :
    name ∈ fields.map (·.name) := by
  induction governs with
  | first named => exact List.mem_map.mpr ⟨_, List.mem_cons_self, named⟩
  | later _ _ _ ih => exact .tail _ ih

/-- Every field of that name sets the part. -/
theorem Governs.sets (governs : Governs name part reader make fields) (member : field ∈ fields)
    (named : field.name = name) : field.Sets part reader make := by
  induction governs with
  | first _ sets others =>
    obtain rfl | inside := List.mem_cons.mp member
    · exact sets
    · exact absurd named (others field inside).1
  | later other _ _ ih =>
    obtain rfl | inside := List.mem_cons.mp member
    · exact absurd named other
    · exact ih inside

/-- Every field of another name keeps the part. -/
theorem Governs.keeps (governs : Governs name part reader make fields) (member : field ∈ fields)
    (other : field.name ≠ name) : field.Keeps part := by
  induction governs with
  | first named _ others =>
    obtain rfl | inside := List.mem_cons.mp member
    · exact absurd named other
    · exact (others field inside).2
  | later _ keeps _ ih =>
    obtain rfl | inside := List.mem_cons.mp member
    · exact keeps
    · exact ih inside

/-- Whether a part of a record is what is made of the draft given for it, or as before if none
is. -/
def Filled (reader : Reader α) (make : α → β) (given : Option Draft) (before after : β) : Prop :=
  match given with
  | none => after = before
  | some draft => ∃ value, reader draft = .ok value ∧ after = make value

/-- The part is found by reading the draft that is given once more. -/
theorem Filled.eq_getD {given : Option Draft} {before after : β}
    (part : Filled reader make given before after) :
    after = ((given.bind fun draft => (reader draft).toOption).map make).getD before := by
  cases given with
  | none => exact part
  | some draft =>
    obtain ⟨value, read, made⟩ := part
    rw [made, Option.bind_some, read]
    rfl

section Elements

variable {shape : RecordShape σ} {ending : Ending} {elements : List Draft} {count : Nat}

/-- Where there are no more elements nothing is filled in. -/
theorem eq_of_readElements_nil
    (read : shape.readElements ending fields [] count record = .ok filled) : filled = record := by
  cases fields with
  | nil =>
    obtain ⟨-, -, made⟩ := Effect.except_bind_eq_ok.mp read
    exact (Except.ok.inj made).symm
  | cons field fields =>
    obtain ⟨-, -, made⟩ := Effect.except_bind_eq_ok.mp read
    split at made
    · cases made
    · exact (Except.ok.inj made).symm

/-- What all fields keep is kept by the elements of an array. -/
theorem part_of_readElements (each : ∀ field ∈ fields, field.Keeps part)
    (read : shape.readElements ending fields elements count record = .ok filled) :
    part filled = part record := by
  induction fields generalizing elements count record with
  | nil =>
    cases elements with
    | nil => rw [eq_of_readElements_nil read]
    | cons => cases read
  | cons field fields ih =>
    obtain ⟨first, others⟩ := List.forall_mem_cons.mp each
    cases elements with
    | nil => rw [eq_of_readElements_nil read]
    | cons draft elements =>
      obtain ⟨fill, given, further⟩ := Effect.except_bind_eq_ok.mp read
      exact (ih others further).trans (first draft fill given record)

/-- The elements of an array fill in the part from the one in the place of its field. -/
theorem Governs.filled_of_readElements (governs : Governs name part reader make fields)
    (read : shape.readElements ending fields elements count record = .ok filled) :
    Filled reader make elements[(fields.map (·.name)).idxOf name]? (part record)
      (part filled) := by
  induction governs generalizing elements count record with
  | first named sets others =>
    cases elements with
    | nil => exact congrArg part (eq_of_readElements_nil read)
    | cons draft elements =>
      obtain ⟨fill, given, further⟩ := Effect.except_bind_eq_ok.mp read
      obtain ⟨value, taken, made⟩ := sets draft fill given
      have kept := part_of_readElements (fun other member => (others other member).2) further
      rw [List.map_cons, named, List.idxOf_cons_self]
      exact ⟨value, taken, kept.trans (made record)⟩
  | later other keeps _ ih =>
    cases elements with
    | nil => exact congrArg part (eq_of_readElements_nil read)
    | cons draft elements =>
      obtain ⟨fill, given, further⟩ := Effect.except_bind_eq_ok.mp read
      rw [List.map_cons, List.idxOf_cons, beq_eq_false_iff_ne.mpr other, cond_false,
        List.getElem?_cons_succ, ← keeps draft fill given record]
      exact ih further

end Elements

section Members

variable {shape : RecordShape σ} {members : List (String × Draft)} {met after : List String}

/-- A member is that of a field that has not been met, or of none. -/
theorem readMembers_cons_eq_ok {key : String} {draft : Draft} {result : List String × σ}
    (read : shape.readMembers ((key, draft) :: members) met record = .ok result) :
    (∃ field ∈ shape.fields, field.name = key ∧ key ∉ met ∧ ∃ fill, field.read draft = .ok fill ∧
      shape.readMembers members (key :: met) (fill record) = .ok result) ∨
    key ∉ shape.fields.map (·.name) ∧ shape.readMembers members met record = .ok result := by
  rw [RecordShape.readMembers] at read
  split at read
  · next none =>
    have unknown : key ∉ shape.fields.map (·.name) := by
      rintro known
      obtain ⟨field, member, same⟩ := List.mem_map.mp known
      exact List.find?_eq_none.mp none field member (decide_eq_true same)
    split at read
    · cases read
    · obtain ⟨-, -, further⟩ := Effect.except_bind_eq_ok.mp read
      exact .inr ⟨unknown, further⟩
  · next field found =>
    split at read
    · cases read
    · next new =>
      obtain ⟨fill, given, further⟩ := Effect.except_bind_eq_ok.mp read
      have named := List.find?_some found
      rw [decide_eq_true_eq] at named
      exact .inl ⟨field, List.mem_of_find?_eq_some found, named,
        fun member => new (List.contains_iff_mem.mpr member), fill, given, further⟩

/-- The members of an object fill in the part from the one with the name of its field, of which
there is one at most. -/
theorem Governs.filled_of_readMembers (governs : Governs name part reader make shape.fields)
    (read : shape.readMembers members met record = .ok (after, filled)) :
    (name ∈ met → members.lookup name = none) ∧
      Filled reader make (members.lookup name) (part record) (part filled) := by
  induction members generalizing met record with
  | nil =>
    cases read
    exact ⟨fun _ => rfl, rfl⟩
  | cons member members ih =>
    obtain ⟨key, draft⟩ := member
    rw [List.lookup_cons]
    by_cases same : name = key
    · rw [beq_iff_eq.mpr same]
      obtain ⟨field, member, named, new, fill, given, further⟩ | ⟨unknown, -⟩ :=
        readMembers_cons_eq_ok read
      · -- A second member with this name is refused.
        obtain ⟨once, later⟩ := ih further
        rw [once (same ▸ List.mem_cons_self)] at later
        obtain ⟨value, taken, made⟩ :=
          governs.sets member (named.trans same.symm) draft fill given
        exact ⟨fun met => absurd (same ▸ met) new, value, taken, later.trans (made record)⟩
      · exact absurd (same ▸ governs.known) unknown
    · rw [beq_eq_false_iff_ne.mpr same]
      obtain ⟨field, member, named, -, fill, given, further⟩ | ⟨-, further⟩ :=
        readMembers_cons_eq_ok read
      · obtain ⟨once, later⟩ := ih further
        have kept := governs.keeps member (named ▸ Ne.symm same) draft fill given
        exact ⟨fun met => once (.tail _ met), kept record ▸ later⟩
      · exact ih further

end Members

end Fields

namespace RecordShape

variable {shape : RecordShape σ} {name : String} {part : σ → β} {reader : Reader α} {make : α → β}
  {start record : σ} {draft : Draft}

/-- The draft of a field in that of a record. -/
def given? (shape : RecordShape σ) (name : String) : Draft → Option Draft
  | .object members _ => members.lookup name
  | .array elements _ => elements[shape.names.idxOf name]?
  | _ => none

/-- The part that a field governs is what is made of the draft given for it, and what it was if none
is given. -/
theorem filled_of_reader_eq_ok (governs : Governs name part reader make shape.fields)
    (read : shape.reader start draft = .ok record) :
    Filled reader make (shape.given? name draft) (part start) (part record) := by
  cases draft with
  | object members ending =>
    obtain ⟨⟨after, filled⟩, taken, further⟩ := Effect.except_bind_eq_ok.mp read
    obtain ⟨-, -, further⟩ := Effect.except_bind_eq_ok.mp further
    obtain ⟨-, -, made⟩ := Effect.except_bind_eq_ok.mp further
    cases made
    exact (governs.filled_of_readMembers taken).2
  | stray members =>
    obtain ⟨-, -, made⟩ := Effect.except_bind_eq_ok.mp read
    cases made
  | array elements ending => exact governs.filled_of_readElements read
  | _ => cases read

/-- So it is with the part of a section, where that is a record of its own. -/
theorem filled_of_section {τ : Type} {inner : RecordShape τ} {title : String} {view : σ → τ}
    {part : τ → β} (outside : Governs title view (inner.reader (view start)) id shape.fields)
    (inside : Governs name part reader make inner.fields)
    (read : shape.reader start draft = .ok record) :
    Filled reader make ((shape.given? title draft).bind (inner.given? name)) (part (view start))
      (part (view record)) := by
  have filled := filled_of_reader_eq_ok outside read
  cases given : shape.given? title draft with
  | none =>
    rw [given] at filled
    exact congrArg part filled
  | some drafted =>
    rw [given] at filled
    obtain ⟨value, taken, same⟩ := filled
    rw [same]
    exact filled_of_reader_eq_ok inside taken

end RecordShape

/-- What is read of a text is read of its draft. -/
theorem reader_draft_of_readText {reader : Reader α} {text : String} {value : α}
    (read : readText reader text = .ok value) : reader (draft text).1 = .ok value := by
  obtain ⟨result, taken, made⟩ := Effect.except_bind_eq_ok.mp read
  split at made
  · cases made
    exact taken
  · cases made

end DecompileServer.Json
