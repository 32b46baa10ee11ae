import DecompileServer.Json.Draft
import Mathlib.Data.List.Basic

/-!
# Tokens and drafts

A draft without a fault is a tree whose tokens are those of the text it was read from. Each step of
the reading adds one token to what has been read (`Step.tokens_eq`), so what is read up to the end
with nothing left open has exactly the tokens of the text (`isWhole_of_readTokens`). The other way
round, the tokens of a draft are read back as this draft wherever they stand
(`Draft.IsWhole.readsBack`).
-/
namespace DecompileServer.Json

namespace Draft

mutual

/-- The tokens of a draft without a fault. -/
def tokens : Draft → List Token
  | .null => [.null]
  | .boolean value => [.boolean value]
  | .number value => [.number value]
  | .string value => [.string value]
  | .array elements _ => .openArray :: (elementTokens elements ++ [.closeArray])
  | .object members _ => .openObject :: (memberTokens members ++ [.closeObject])
  | .stray _ | .broken _ | .torn .. => []

/-- The tokens of the elements of an array, with commas between them. -/
def elementTokens : List Draft → List Token
  | [] => []
  | [only] => tokens only
  | first :: second :: further => tokens first ++ .comma :: elementTokens (second :: further)

/-- The tokens of the members of an object, with commas between them. -/
def memberTokens : List (String × Draft) → List Token
  | [] => []
  | [(key, only)] => .string key :: .colon :: tokens only
  | (key, first) :: second :: further =>
    .string key :: .colon :: (tokens first ++ .comma :: memberTokens (second :: further))

end

/-- Whether a draft is without a fault, and no more than the given number of brackets and braces are
inside one another. -/
inductive IsWhole : Nat → Draft → Prop where
  /-- The value `null`. -/
  | null (room : Nat) : IsWhole room .null
  /-- A truth value. -/
  | boolean (room : Nat) (value : Bool) : IsWhole room (.boolean value)
  /-- A number. -/
  | number (room : Nat) (value : Number) : IsWhole room (.number value)
  /-- A text. -/
  | string (room : Nat) (value : String) : IsWhole room (.string value)
  /-- An array. -/
  | array {room : Nat} {elements : List Draft} (each : ∀ element ∈ elements, IsWhole room element) :
      IsWhole (room + 1) (.array elements .closed)
  /-- An object. -/
  | object {room : Nat} {members : List (String × Draft)}
      (each : ∀ member ∈ members, IsWhole room member.2) :
      IsWhole (room + 1) (.object members .closed)

/-- The tokens of elements, each with a comma after it. -/
def elementsAndCommas (elements : List Draft) : List Token :=
  elements.flatMap fun element => element.tokens ++ [.comma]

/-- The tokens of members, each with a comma after it. -/
def membersAndCommas (members : List (String × Draft)) : List Token :=
  members.flatMap fun member => .string member.1 :: .colon :: (member.2.tokens ++ [.comma])

/-- The last element has no comma after it. -/
theorem elementTokens_concat (front : List Draft) (last : Draft) :
    elementTokens (front ++ [last]) = elementsAndCommas front ++ last.tokens := by
  induction front with
  | nil => rfl
  | cons first further ih =>
    obtain ⟨second, others, whole⟩ := List.exists_cons_of_ne_nil (l := further ++ [last]) (by simp)
    rw [List.cons_append, whole, elementTokens, ← whole, ih]
    simp [elementsAndCommas]

/-- The last member has no comma after it. -/
theorem memberTokens_concat (front : List (String × Draft)) (key : String) (last : Draft) :
    memberTokens (front ++ [(key, last)]) =
      membersAndCommas front ++ .string key :: .colon :: last.tokens := by
  induction front with
  | nil => rfl
  | cons first further ih =>
    obtain ⟨name, value⟩ := first
    obtain ⟨second, others, whole⟩ :=
      List.exists_cons_of_ne_nil (l := further ++ [(key, last)]) (by simp)
    rw [List.cons_append, whole, memberTokens, ← whole, ih]
    simp [membersAndCommas]

end Draft

section Reading

open Draft

/-- The tokens from the beginning to the place inside containers. -/
def openTokens : List Frame → List Token
  | [] => []
  | .array before :: outer => openTokens outer ++ .openArray :: elementsAndCommas before.reverse
  | .object before key :: outer =>
    openTokens outer ++ .openObject :: (membersAndCommas before.reverse ++ [.string key, .colon])

/-- The tokens that have been read at a place after those of the containers around it. -/
def modeTokens : Mode → List Token
  | .value | .firstElement => []
  | .firstKey => [.openObject]
  | .nextKey before => .openObject :: membersAndCommas before.reverse
  | .colon before key => .openObject :: (membersAndCommas before.reverse ++ [.string key])
  | .after draft => draft.tokens

/-- Whether what has been read in a container is without a fault, with the given room inside it. -/
def Frame.IsWhole (room : Nat) : Frame → Prop
  | .array before => ∀ element ∈ before, element.IsWhole room
  | .object before _ => ∀ member ∈ before, member.2.IsWhole room

/-- Whether what has been read in containers around a place with the given room is without a fault.
-/
def AreWhole : Nat → List Frame → Prop
  | room, [] => room = depthLimit
  | room, frame :: outer => frame.IsWhole room ∧ AreWhole (room + 1) outer

/-- Whether what has been read at a place with the given room is without a fault. -/
def Mode.Stands (room : Nat) (frames : List Frame) : Mode → Prop
  | .value => True
  | .firstElement => ∃ outer, frames = .array [] :: outer
  | .firstKey => 0 < room
  | .nextKey before | .colon before _ =>
    ∃ inside, room = inside + 1 ∧ ∀ member ∈ before, member.2.IsWhole inside
  | .after draft => draft.IsWhole room

/-- The room and the containers make up the limit. -/
theorem AreWhole.room_add_length {room : Nat} {frames : List Frame} (whole : AreWhole room frames) :
    room + frames.length = depthLimit := by
  induction frames generalizing room with
  | nil => exact whole
  | cons frame outer ih =>
    have outside := ih whole.2
    rw [List.length_cons]
    omega

/-- A fault stays one inside containers. -/
theorem toValue_breakOff {draft : Draft} (faulty : ∃ fault, draft.toValue = .error fault)
    (frames : List Frame) : ∃ fault, (breakOff draft frames).toValue = .error fault := by
  induction frames generalizing draft with
  | nil => exact faulty
  | cons frame outer ih =>
    cases frame with
    | array before =>
      refine ih ?_
      rw [Draft.toValue]
      cases toValues (draft :: before).reverse with
      | error fault => exact ⟨fault, rfl⟩
      | ok values => exact ⟨.malformed, rfl⟩
    | object before key =>
      refine ih ?_
      rw [Draft.toValue]
      cases toMembers ((key, draft) :: before).reverse with
      | error fault => exact ⟨fault, rfl⟩
      | ok members => exact ⟨.malformed, rfl⟩

/-- An array or object that breaks off is a fault. -/
theorem toValue_of_open {ending : Ending} (opened : ending ≠ .closed) :
    (∀ elements, ∃ fault, (Draft.array elements ending).toValue = .error fault) ∧
      ∀ members, ∃ fault, (Draft.object members ending).toValue = .error fault := by
  constructor
  · intro elements
    rw [Draft.toValue]
    cases toValues elements with
    | error fault => exact ⟨fault, rfl⟩
    | ok values =>
      cases ending with
      | closed => exact absurd rfl opened
      | broken fault | dangling fault => exact ⟨fault, rfl⟩
  · intro members
    rw [Draft.toValue]
    cases toMembers members with
    | error fault => exact ⟨fault, rfl⟩
    | ok values =>
      cases ending with
      | closed => exact absurd rfl opened
      | broken fault | dangling fault => exact ⟨fault, rfl⟩

/-- At the end of the tokens there is a fault unless a value is complete and nothing is open. -/
theorem toValue_endOf {mode : Mode} {frames : List Frame} {value : Value}
    (read : (endOf .finished mode frames).toValue = .ok value) :
    ∃ draft, mode = .after draft ∧ frames = [] := by
  have faulty : ∀ draft : Draft, (∃ fault, draft.toValue = .error fault) →
      ∀ frames, (breakOff draft frames).toValue ≠ .ok value := by
    intro draft broken frames same
    obtain ⟨fault, failed⟩ := toValue_breakOff broken frames
    rw [same] at failed
    cases failed
  have arrays {ending : Ending} (opened : ending ≠ .closed) := (toValue_of_open opened).1
  have objects {ending : Ending} (opened : ending ≠ .closed) := (toValue_of_open opened).2
  cases mode with
  | value => exact absurd read (faulty _ ⟨.ended, rfl⟩ frames)
  | firstElement => exact absurd read (faulty _ ⟨.ended, rfl⟩ frames)
  | firstKey => exact absurd read (faulty _ (objects (by simp) _) frames)
  | nextKey before => exact absurd read (faulty _ (objects (by simp) _) frames)
  | colon before key => exact absurd read (faulty _ (objects (by simp) _) frames)
  | after draft =>
    cases frames with
    | nil => exact ⟨draft, rfl, rfl⟩
    | cons frame outer =>
      cases frame with
      | array before => exact absurd read (faulty _ (arrays (by simp) _) outer)
      | object before key => exact absurd read (faulty _ (objects (by simp) _) outer)

/-- Whether a value begins at a place. -/
def Mode.Begins : Mode → Prop
  | .value | .firstElement => True
  | .firstKey | .nextKey _ | .colon _ _ | .after _ => False

/-- The value that a token is by itself. -/
def Token.draft : Token → Option Draft
  | .null => some .null
  | .boolean value => some (.boolean value)
  | .number value => some (.number value)
  | .string value => some (.string value)
  | .openArray | .closeArray | .openObject | .closeObject | .comma | .colon => none

/-- What a token does to a place and the containers around it, where it is not a fault. -/
inductive Step : Token → Mode → List Frame → Mode → List Frame → Prop where
  /-- A value of one token is complete. -/
  | single {token : Token} {mode : Mode} {draft : Draft} (frames : List Frame)
      (begins : mode.Begins) (alone : token.draft = some draft) :
      Step token mode frames (.after draft) frames
  /-- An array begins. -/
  | openArray {mode : Mode} {frames : List Frame} (begins : mode.Begins)
      (free : frames.length ≠ depthLimit) :
      Step .openArray mode frames .firstElement (.array [] :: frames)
  /-- An object begins. -/
  | openObject {mode : Mode} {frames : List Frame} (begins : mode.Begins)
      (free : frames.length ≠ depthLimit) : Step .openObject mode frames .firstKey frames
  /-- An array without elements is complete. -/
  | noElements (frame : Frame) (outer : List Frame) :
      Step .closeArray .firstElement (frame :: outer) (.after (.array [] .closed)) outer
  /-- The first key of an object. -/
  | firstKey (key : String) (frames : List Frame) :
      Step (.string key) .firstKey frames (.colon [] key) frames
  /-- An object without members is complete. -/
  | noMembers (frames : List Frame) :
      Step .closeObject .firstKey frames (.after (.object [] .closed)) frames
  /-- A further key of an object. -/
  | nextKey (before : List (String × Draft)) (key : String) (frames : List Frame) :
      Step (.string key) (.nextKey before) frames (.colon before key) frames
  /-- A key has its colon. -/
  | colon (before : List (String × Draft)) (key : String) (frames : List Frame) :
      Step .colon (.colon before key) frames .value (.object before key :: frames)
  /-- Another element follows. -/
  | nextElement (draft : Draft) (before : List Draft) (outer : List Frame) :
      Step .comma (.after draft) (.array before :: outer) .value (.array (draft :: before) :: outer)
  /-- An array is complete. -/
  | closeArray (draft : Draft) (before : List Draft) (outer : List Frame) :
      Step .closeArray (.after draft) (.array before :: outer)
        (.after (.array (draft :: before).reverse .closed)) outer
  /-- Another member follows. -/
  | nextMember (draft : Draft) (before : List (String × Draft)) (key : String)
      (outer : List Frame) : Step .comma (.after draft) (.object before key :: outer)
        (.nextKey ((key, draft) :: before)) outer
  /-- An object is complete. -/
  | closeObject (draft : Draft) (before : List (String × Draft)) (key : String)
      (outer : List Frame) : Step .closeObject (.after draft) (.object before key :: outer)
        (.after (.object ((key, draft) :: before).reverse .closed)) outer

section Steps

variable {token : Token} {mode next : Mode} {frames inside : List Frame} {room : Nat}

/-- Where a value begins, a token is read as its beginning, apart from the end of an empty array. -/
theorem readTokens_of_begins (begins : mode.Begins) (other : token ≠ .closeArray)
    (lexEnd : LexEnd) (rest : List Token) : readTokens lexEnd (token :: rest) mode frames =
      readTokens.beginning lexEnd token rest frames := by
  cases mode with
  | value => rw [readTokens]
  | firstElement =>
    cases token with
    | closeArray => exact absurd rfl other
    | _ => simp [readTokens]
  | _ => exact begins.elim

/-- The reading goes on after a step. -/
theorem Step.readTokens_cons (step : Step token mode frames next inside) (lexEnd : LexEnd)
    (rest : List Token) :
    readTokens lexEnd (token :: rest) mode frames = readTokens lexEnd rest next inside := by
  cases step with
  | single frames begins alone =>
    have other : token ≠ .closeArray := by
      rintro rfl
      cases alone
    rw [readTokens_of_begins begins other]
    cases token <;> cases alone <;> rw [readTokens.beginning]
  | openArray begins free =>
    rw [readTokens_of_begins begins (by simp), readTokens.beginning, if_neg free]
  | openObject begins free =>
    rw [readTokens_of_begins begins (by simp), readTokens.beginning, if_neg free]
  | _ => simp only [readTokens]

/-- Where a value begins, a token does a step or the reading ends. -/
theorem step_or_ends_of_begins (begins : mode.Begins) (other : token ≠ .closeArray) :
    (∃ next inside, Step token mode frames next inside) ∨
      ∀ lexEnd rest, (readTokens lexEnd (token :: rest) mode frames).2 = false := by
  have ends (fails : ∀ lexEnd rest, (readTokens.beginning lexEnd token rest frames).2 = false) :
      ∀ lexEnd rest, (readTokens lexEnd (token :: rest) mode frames).2 = false := by
    intro lexEnd rest
    rw [readTokens_of_begins begins other, fails]
  cases token with
  | null | boolean | number | string => exact .inl ⟨_, _, .single frames begins rfl⟩
  | openArray =>
    by_cases full : frames.length = depthLimit
    · exact .inr (ends fun lexEnd rest => by rw [readTokens.beginning, if_pos full])
    · exact .inl ⟨_, _, .openArray begins full⟩
  | openObject =>
    by_cases full : frames.length = depthLimit
    · exact .inr (ends fun lexEnd rest => by rw [readTokens.beginning, if_pos full])
    · exact .inl ⟨_, _, .openObject begins full⟩
  | closeArray => exact absurd rfl other
  | closeObject | comma | colon =>
    exact .inr (ends fun lexEnd rest => by simp [readTokens.beginning])

/-- A token does a step or the reading ends. -/
theorem step_or_ends (token : Token) (mode : Mode) (frames : List Frame) :
    (∃ next inside, Step token mode frames next inside) ∨
      ∀ lexEnd rest, (readTokens lexEnd (token :: rest) mode frames).2 = false := by
  cases mode with
  | value =>
    by_cases other : token = .closeArray
    · subst other
      exact .inr fun lexEnd rest => by simp [readTokens, readTokens.beginning]
    · exact step_or_ends_of_begins trivial other
  | firstElement =>
    by_cases other : token = .closeArray
    · subst other
      cases frames with
      | nil => exact .inr fun lexEnd rest => by simp [readTokens, readTokens.beginning]
      | cons frame outer => exact .inl ⟨_, _, .noElements frame outer⟩
    · exact step_or_ends_of_begins trivial other
  | firstKey =>
    cases token with
    | string key => exact .inl ⟨_, _, .firstKey key frames⟩
    | closeObject => exact .inl ⟨_, _, .noMembers frames⟩
    | _ => exact .inr fun lexEnd rest => by simp [readTokens]
  | nextKey before =>
    cases token with
    | string key => exact .inl ⟨_, _, .nextKey before key frames⟩
    | _ => exact .inr fun lexEnd rest => by simp [readTokens]
  | colon before key =>
    cases token with
    | colon => exact .inl ⟨_, _, .colon before key frames⟩
    | _ => exact .inr fun lexEnd rest => by simp [readTokens]
  | after draft =>
    cases frames with
    | nil => exact .inr fun lexEnd rest => by simp [readTokens]
    | cons frame outer =>
      cases frame with
      | array before =>
        cases token with
        | comma => exact .inl ⟨_, _, .nextElement draft before outer⟩
        | closeArray => exact .inl ⟨_, _, .closeArray draft before outer⟩
        | _ => exact .inr fun lexEnd rest => by simp [readTokens]
      | object before key =>
        cases token with
        | comma => exact .inl ⟨_, _, .nextMember draft before key outer⟩
        | closeObject => exact .inl ⟨_, _, .closeObject draft before key outer⟩
        | _ => exact .inr fun lexEnd rest => by simp [readTokens]

/-- What has been read stays without a fault. -/
theorem Step.stands (step : Step token mode frames next inside) (whole : AreWhole room frames)
    (stands : mode.Stands room frames) :
    ∃ room, AreWhole room inside ∧ next.Stands room inside := by
  have limit := whole.room_add_length
  cases step with
  | single frames begins alone =>
    refine ⟨room, whole, ?_⟩
    cases token <;> cases alone <;> constructor
  | openArray begins free =>
    obtain ⟨less, rfl⟩ := Nat.exists_eq_succ_of_ne_zero (n := room) (by omega)
    exact ⟨less, ⟨by simp [Frame.IsWhole], whole⟩, frames, rfl⟩
  | openObject begins free =>
    have positive : 0 < room := by omega
    exact ⟨room, whole, positive⟩
  | noElements frame outer => exact ⟨room + 1, whole.2, .array (by simp)⟩
  | firstKey key =>
    obtain ⟨less, rfl⟩ := Nat.exists_eq_succ_of_ne_zero (Nat.pos_iff_ne_zero.mp stands)
    exact ⟨less + 1, whole, less, rfl, by simp⟩
  | noMembers =>
    obtain ⟨less, rfl⟩ := Nat.exists_eq_succ_of_ne_zero (Nat.pos_iff_ne_zero.mp stands)
    exact ⟨less + 1, whole, .object (by simp)⟩
  | nextKey before key => exact ⟨room, whole, stands⟩
  | colon before key =>
    obtain ⟨less, rfl, each⟩ := stands
    exact ⟨less, ⟨each, whole⟩, trivial⟩
  | nextElement draft before outer =>
    have elements : ∀ element ∈ draft :: before, element.IsWhole room :=
      List.forall_mem_cons.mpr ⟨stands, whole.1⟩
    exact ⟨room, ⟨elements, whole.2⟩, trivial⟩
  | closeArray draft before outer =>
    have elements : ∀ element ∈ draft :: before, element.IsWhole room :=
      List.forall_mem_cons.mpr ⟨stands, whole.1⟩
    exact ⟨room + 1, whole.2,
      .array fun element member => elements element (List.mem_reverse.mp member)⟩
  | nextMember draft before key outer =>
    have members : ∀ member ∈ (key, draft) :: before, member.2.IsWhole room :=
      List.forall_mem_cons.mpr ⟨stands, whole.1⟩
    exact ⟨room + 1, whole.2, room, rfl, members⟩
  | closeObject draft before key outer =>
    have members : ∀ member ∈ (key, draft) :: before, member.2.IsWhole room :=
      List.forall_mem_cons.mpr ⟨stands, whole.1⟩
    exact ⟨room + 1, whole.2,
      .object fun member inside => members member (List.mem_reverse.mp inside)⟩

/-- Where a value begins, nothing of it has been read. -/
theorem Mode.Begins.modeTokens_eq (begins : mode.Begins) : modeTokens mode = [] := by
  cases mode with
  | value | firstElement => rfl
  | _ => exact begins.elim

/-- A step adds its token to those that have been read. -/
theorem Step.tokens_eq (step : Step token mode frames next inside)
    (stands : mode.Stands room frames) :
    openTokens inside ++ modeTokens next = openTokens frames ++ modeTokens mode ++ [token] := by
  cases step with
  | single frames begins alone =>
    rw [begins.modeTokens_eq, List.append_nil]
    cases token <;> cases alone <;> rfl
  | openArray begins free =>
    rw [begins.modeTokens_eq]
    simp [openTokens, modeTokens, elementsAndCommas]
  | openObject begins free =>
    rw [begins.modeTokens_eq, List.append_nil]
    rfl
  | noElements frame outer =>
    obtain ⟨outer, same⟩ := stands
    obtain ⟨rfl, rfl⟩ := List.cons.inj same
    simp [openTokens, modeTokens, tokens, elementTokens, elementsAndCommas]
  | firstKey key | nextKey before key => simp [modeTokens, membersAndCommas]
  | noMembers => simp [modeTokens, tokens, memberTokens]
  | colon before key => simp [openTokens, modeTokens]
  | nextElement draft before outer => simp [openTokens, modeTokens, elementsAndCommas]
  | closeArray draft before outer =>
    simp [openTokens, modeTokens, tokens, elementTokens_concat]
  | nextMember draft before key outer => simp [openTokens, modeTokens, membersAndCommas]
  | closeObject draft before key outer =>
    simp [openTokens, modeTokens, tokens, memberTokens_concat]

end Steps

/-- What is read to the end without a fault has the tokens that are read. -/
theorem isWhole_of_readTokens {tokens : List Token} {mode : Mode} {frames : List Frame}
    {room : Nat} {draft : Draft} {value : Value} (whole : AreWhole room frames)
    (stands : mode.Stands room frames)
    (read : readTokens .finished tokens mode frames = (draft, true))
    (valued : draft.toValue = .ok value) :
    draft.IsWhole depthLimit ∧ draft.tokens = openTokens frames ++ modeTokens mode ++ tokens := by
  induction tokens generalizing mode frames room with
  | nil =>
    rw [readTokens] at read
    obtain ⟨rfl, -⟩ := Prod.mk.inj read
    obtain ⟨last, rfl, rfl⟩ := toValue_endOf valued
    obtain rfl : room = depthLimit := whole
    exact ⟨stands, by simp [openTokens, modeTokens, endOf]⟩
  | cons token rest ih =>
    obtain ⟨next, inside, step⟩ | ends := step_or_ends token mode frames
    · rw [step.readTokens_cons] at read
      obtain ⟨less, still, standing⟩ := step.stands whole stands
      obtain ⟨complete, written⟩ := ih still standing read
      refine ⟨complete, ?_⟩
      rw [written, step.tokens_eq stands, List.append_assoc, List.singleton_append]
    · have alone := ends .finished rest
      rw [read] at alone
      cases alone

/-- What follows a text with a fault is not nothing. -/
theorem readTokens_of_broken {first : Char} {fault : Fault} (tokens : List Token) (mode : Mode)
    (frames : List Frame) : (readTokens (.broken first fault) tokens mode frames).2 = false := by
  induction tokens generalizing mode frames with
  | nil => simp [readTokens]
  | cons token rest ih =>
    obtain ⟨next, inside, step⟩ | ends := step_or_ends token mode frames
    · rw [step.readTokens_cons]
      exact ih next inside
    · exact ends _ rest

end Reading

namespace Draft

variable {lexEnd : LexEnd} {rest : List Token} {frames : List Frame} {room : Nat}

/-- Whether the tokens of a draft are read as the draft inside containers that leave the given room,
whatever follows them. -/
def ReadsBack (draft : Draft) (room : Nat) : Prop :=
  ∀ (lexEnd : LexEnd) (rest : List Token) (frames : List Frame), frames.length + room ≤ depthLimit →
    readTokens lexEnd (draft.tokens ++ rest) .value frames =
      readTokens lexEnd rest (.after draft) frames

/-- The first element of an array begins like any other. -/
theorem readTokens_firstElement {draft : Draft} (whole : draft.IsWhole room) :
    readTokens lexEnd (draft.tokens ++ rest) .firstElement frames =
      readTokens lexEnd (draft.tokens ++ rest) .value frames := by
  cases whole <;> simp [tokens, readTokens]

/-- The elements of an array are read. -/
theorem readTokens_elements {first : Draft} {further : List Draft}
    (each : ∀ element ∈ first :: further, element.ReadsBack room) (before : List Draft)
    (within : frames.length + 1 + room ≤ depthLimit) :
    readTokens lexEnd (elementTokens (first :: further) ++ .closeArray :: rest) .value
        (.array before :: frames) =
      readTokens lexEnd rest (.after (.array (before.reverse ++ first :: further) .closed))
        frames := by
  induction further generalizing first before with
  | nil =>
    rw [elementTokens, each first (by simp) _ _ _ (by simpa using within), readTokens]
    simp
  | cons second others ih =>
    rw [elementTokens, List.append_assoc, each first (by simp) _ _ _ (by simpa using within),
      List.cons_append, readTokens]
    rw [ih fun element member => each element (List.mem_cons_of_mem _ member)]
    simp

/-- The members of an object are read. -/
theorem readTokens_members {first : String × Draft} {further : List (String × Draft)}
    (each : ∀ member ∈ first :: further, member.2.ReadsBack room)
    (before : List (String × Draft)) (within : frames.length + 1 + room ≤ depthLimit) :
    readTokens lexEnd (memberTokens (first :: further) ++ .closeObject :: rest) (.nextKey before)
        frames =
      readTokens lexEnd rest (.after (.object (before.reverse ++ first :: further) .closed))
        frames := by
  induction further generalizing first before with
  | nil =>
    obtain ⟨key, draft⟩ := first
    rw [memberTokens, List.cons_append, readTokens]
    rw [List.cons_append, readTokens]
    rw [each (key, draft) (by simp) _ _ _ (by simpa using within), readTokens]
    simp
  | cons second others ih =>
    obtain ⟨key, draft⟩ := first
    rw [memberTokens, List.cons_append, readTokens]
    rw [List.cons_append, readTokens]
    rw [List.append_assoc, each (key, draft) (by simp) _ _ _ (by simpa using within),
      List.cons_append, readTokens]
    dsimp only
    rw [ih fun member known => each member (List.mem_cons_of_mem _ known)]
    simp

/-- The first key of an object begins like any other. -/
theorem readTokens_firstKey (first : String × Draft) (further : List (String × Draft)) :
    readTokens lexEnd (memberTokens (first :: further) ++ rest) .firstKey frames =
      readTokens lexEnd (memberTokens (first :: further) ++ rest) (.nextKey []) frames := by
  obtain ⟨key, draft⟩ := first
  cases further <;> simp [memberTokens, readTokens]

/-- The tokens of a draft without a fault are read as the draft. -/
theorem IsWhole.readsBack {draft : Draft} (whole : draft.IsWhole room) : draft.ReadsBack room := by
  induction whole with
  | null | boolean | number | string =>
    exact fun lexEnd rest frames _ => by simp [tokens, readTokens, readTokens.beginning]
  | @array room elements each ih =>
    intro lexEnd rest frames within
    have free : frames.length ≠ depthLimit := by omega
    rw [tokens, List.cons_append, readTokens, readTokens.beginning, if_neg free, List.append_assoc,
      List.singleton_append]
    cases elements with
    | nil => simp [elementTokens, readTokens]
    | cons first further =>
      have begins : readTokens lexEnd (elementTokens (first :: further) ++ .closeArray :: rest)
          .firstElement (.array [] :: frames) =
          readTokens lexEnd (elementTokens (first :: further) ++ .closeArray :: rest) .value
            (.array [] :: frames) := by
        have whole := each first List.mem_cons_self
        cases further with
        | nil => exact readTokens_firstElement whole
        | cons second others =>
          rw [elementTokens, List.append_assoc]
          exact readTokens_firstElement whole
      rw [begins, readTokens_elements ih [] (by omega)]
      rfl
  | @object room members each ih =>
    intro lexEnd rest frames within
    have free : frames.length ≠ depthLimit := by omega
    rw [tokens, List.cons_append, readTokens, readTokens.beginning, if_neg free, List.append_assoc,
      List.singleton_append]
    cases members with
    | nil => simp [memberTokens, readTokens]
    | cons first further =>
      rw [readTokens_firstKey, readTokens_members ih [] (by omega)]
      rfl

end Draft

end DecompileServer.Json
