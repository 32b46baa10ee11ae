import DecompileServer.Proofs.Json.Spelling
import DecompileServer.Proofs.Json.Tokens
import DecompileServer.Proofs.Related
import DecompileServer.Proofs.Text.Pieces

/-!
# Texts and their values

A text has a value exactly if the grammar says so (`parse_eq_ok_iff`). A draft without a fault goes
with what the grammar says in both directions: the tokens of the draft are cut from characters that
write its value, and characters that write a value are cut into the tokens of such a draft. Elements
and members differ only in their own tokens, so what stands between brackets is treated once.
-/
namespace DecompileServer.Json

section Sequences

variable {α β : Type} {tokensOf : α → List Token} {charactersOf : β → List Char}
  {Matches : α → β → Prop} {items : List α} {parts : List β} {characters inside rest : List Char}
  {done tokens : List Token}

/-- Groups of tokens with commas between them. -/
def separated : List (List Token) → List Token
  | [] => []
  | [only] => only
  | first :: second :: further => first ++ .comma :: separated (second :: further)

/-- Whether a token is the given character and nothing else. -/
def Token.IsMark (token : Token) (mark : Char) : Prop :=
  (∀ core, token.Spells core ↔ core = [mark]) ∧ ¬isSpace mark = true ∧
    ∀ rest, lexToken mark rest = .ok (token, 0)

/-- A mark is one token. -/
theorem Token.IsMark.lexFrom_cons {token : Token} {mark : Char} (isMark : token.IsMark mark) :
    lexFrom done (mark :: rest) = lexFrom (token :: done) rest :=
  lexFrom_of_mark isMark.2.1 (isMark.2.2 rest)

/-- The mark between elements and members. -/
theorem isMark_comma : Token.comma.IsMark ',' :=
  ⟨fun _ => Iff.rfl, by decide, fun _ => rfl⟩

/-- Whether the tokens of an item are cut only from what matches it, if a mark follows. -/
def IsCutFrom (Matches : α → β → Prop) (tokensOf : α → List Token) (charactersOf : β → List Char)
    (item : α) : Prop :=
  ∀ (characters : List Char) (tokens : List Token) (token : Token) (mark : Char),
    token.IsMark mark → Cut characters (tokensOf item ++ token :: tokens) →
      ∃ part rest, Matches item part ∧ characters = charactersOf part ++ mark :: rest ∧
        Cut rest tokens

/-- The characters before the first token. -/
theorem Cut.cons_inv {token : Token} (cut : Cut characters (token :: tokens)) :
    ∃ before core rest, characters = before ++ (core ++ rest) ∧ AreSpaces before ∧
      token.Spells core ∧ Cut rest tokens := by
  cases cut with
  | token spaces spells further => exact ⟨_, _, _, rfl, spaces, spells, further⟩

/-- The white space before a mark. -/
theorem Cut.mark_inv {token : Token} {mark : Char} (cut : Cut characters (token :: tokens))
    (isMark : token.IsMark mark) :
    ∃ before rest, characters = before ++ mark :: rest ∧ AreSpaces before ∧ Cut rest tokens := by
  obtain ⟨before, core, rest, rfl, spaces, spells, further⟩ := cut.cons_inv
  obtain rfl := (isMark.1 core).mp spells
  exact ⟨before, rest, rfl, spaces, further⟩

/-- Pieces are separated by the commas that they are joined with. -/
theorem areSeparated_joinWith (pieces : List (List Char)) :
    AreSeparated (Text.joinWith ',' pieces) pieces := by
  rw [AreSeparated]
  split
  · rename_i none
    simp [none, AreSpaces, Text.joinWith]
  · rfl

/-- What stands before a closing mark is white space or matches the items. -/
theorem exists_parts {token : Token} {mark : Char}
    (each : ∀ item ∈ items, IsCutFrom Matches tokensOf charactersOf item)
    (isMark : token.IsMark mark)
    (cut : Cut characters (separated (items.map tokensOf) ++ token :: tokens)) :
    ∃ inside parts rest, List.Forall₂ Matches items parts ∧ characters = inside ++ mark :: rest ∧
      AreSeparated inside (parts.map charactersOf) ∧ Cut rest tokens := by
  cases items with
  | nil =>
    obtain ⟨before, rest, rfl, spaces, further⟩ := cut.mark_inv isMark
    exact ⟨before, [], rest, .nil, rfl, spaces, further⟩
  | cons first others =>
    have joined : ∃ parts rest, List.Forall₂ Matches (first :: others) parts ∧
        characters = Text.joinWith ',' (parts.map charactersOf) ++ mark :: rest ∧
        Cut rest tokens := by
      induction others generalizing first characters with
      | nil =>
        obtain ⟨part, rest, known, rfl, further⟩ :=
          each first List.mem_cons_self _ _ _ _ isMark cut
        exact ⟨[part], rest, .cons known .nil, rfl, further⟩
      | cons second others ih =>
        rw [List.map_cons, List.map_cons, separated, List.append_assoc, List.cons_append] at cut
        obtain ⟨part, after, known, rfl, further⟩ :=
          each first List.mem_cons_self _ _ _ _ isMark_comma cut
        obtain ⟨parts, rest, matched, rfl, last⟩ :=
          ih second (fun item member => each item (List.mem_cons_of_mem _ member)) further
        obtain ⟨next, more, rfl⟩ := List.exists_cons_of_ne_nil
          (show parts ≠ [] by rintro rfl; cases matched)
        refine ⟨part :: next :: more, rest, .cons known matched, ?_, last⟩
        simp [Text.joinWith]
    obtain ⟨parts, rest, matched, rfl, further⟩ := joined
    exact ⟨_, parts, rest, matched, rfl, areSeparated_joinWith _, further⟩

/-- Whether characters are cut into tokens where a value may end. -/
def IsLexed (tokens : List Token) (characters : List Char) : Prop :=
  ∀ (done : List Token) (rest : List Char), EndsValue rest →
    lexFrom done (characters ++ rest) = lexFrom (tokens.reverse ++ done) rest

/-- Pieces with commas between them are cut into the tokens of the pieces with commas between
them. -/
theorem isLexed_separated
    (each : List.Forall₂ (fun item part => IsLexed (tokensOf item) (charactersOf part))
      items parts) :
    IsLexed (separated (items.map tokensOf)) (Text.joinWith ',' (parts.map charactersOf)) := by
  induction each with
  | nil => exact fun done rest _ => rfl
  | @cons item part items parts first others ih =>
    intro done rest ends
    cases others with
    | nil => exact first done rest ends
    | @cons second next items parts known others =>
      rw [List.map_cons, Text.joinWith_cons (by simp), List.append_assoc, List.cons_append,
        first done _ (by simp [EndsValue]), isMark_comma.lexFrom_cons, ih _ _ ends]
      simp [separated]

/-- What stands before a closing mark is cut into its tokens. -/
theorem lexFrom_inside {token : Token} {mark : Char}
    (each : List.Forall₂ (fun item part => IsLexed (tokensOf item) (charactersOf part)) items parts)
    (known : AreSeparated inside (parts.map charactersOf)) (isMark : token.IsMark mark)
    (closes : EndsValue (mark :: rest)) :
    lexFrom done (inside ++ mark :: rest) =
      lexFrom (token :: ((separated (items.map tokensOf)).reverse ++ done)) rest := by
  rw [AreSeparated] at known
  split at known
  · rename_i none
    obtain rfl := List.map_eq_nil_iff.mp none
    cases each
    rw [known.lexFrom_append, isMark.lexFrom_cons]
    rfl
  · rw [known, isLexed_separated each _ _ closes, isMark.lexFrom_cons]

end Sequences

/-- The mark that closes an array. -/
theorem isMark_closeArray : Token.closeArray.IsMark ']' :=
  ⟨fun _ => Iff.rfl, by decide, fun _ => rfl⟩

/-- The mark that closes an object. -/
theorem isMark_closeObject : Token.closeObject.IsMark '\x7d' :=
  ⟨fun _ => Iff.rfl, by decide, fun _ => rfl⟩

/-- The mark that opens an array. -/
theorem isMark_openArray : Token.openArray.IsMark '[' :=
  ⟨fun _ => Iff.rfl, by decide, fun _ => rfl⟩

/-- The mark that opens an object. -/
theorem isMark_openObject : Token.openObject.IsMark '\x7b' :=
  ⟨fun _ => Iff.rfl, by decide, fun _ => rfl⟩

/-- The mark between a key and its value. -/
theorem isMark_colon : Token.colon.IsMark ':' :=
  ⟨fun _ => Iff.rfl, by decide, fun _ => rfl⟩

namespace Draft

/-- The tokens of a member. -/
def entryTokens (member : String × Draft) : List Token :=
  .string member.1 :: .colon :: member.2.tokens

/-- The elements of an array are separated by commas. -/
theorem elementTokens_eq (elements : List Draft) :
    elementTokens elements = separated (elements.map tokens) := by
  induction elements with
  | nil => rfl
  | cons first further ih =>
    cases further with
    | nil => rfl
    | cons second others => rw [elementTokens, ih]; rfl

/-- The members of an object are separated by commas. -/
theorem memberTokens_eq (members : List (String × Draft)) :
    memberTokens members = separated (members.map entryTokens) := by
  induction members with
  | nil => rfl
  | cons first further ih =>
    cases further with
    | nil => rfl
    | cons second others => rw [memberTokens, ih]; rfl

/-- The values of drafts are those of each of them. -/
theorem toValues_eq_ok {drafts : List Draft} {values : List Value} :
    toValues drafts = .ok values ↔
      List.Forall₂ (fun draft value => draft.toValue = .ok value) drafts values := by
  induction drafts generalizing values with
  | nil => cases values <;> simp [toValues]
  | cons first further ih =>
    simp only [toValues, Effect.except_bind_eq_ok, ih, List.forall₂_cons_left_iff]
    constructor
    · rintro ⟨value, head, others, tail, same⟩
      exact ⟨value, others, head, tail, (Except.ok.inj same).symm⟩
    · rintro ⟨value, others, head, tail, rfl⟩
      exact ⟨value, head, others, tail, rfl⟩

/-- The members of an object are their keys with the values of their drafts. -/
theorem toMembers_eq_ok {drafts : List (String × Draft)} {members : List (String × Value)} :
    toMembers drafts = .ok members ↔
      List.Forall₂ (fun draft member => draft.1 = member.1 ∧ draft.2.toValue = .ok member.2)
        drafts members := by
  induction drafts generalizing members with
  | nil => cases members <;> simp [toMembers]
  | cons first further ih =>
    obtain ⟨key, draft⟩ := first
    simp only [toMembers, Effect.except_bind_eq_ok, ih, List.forall₂_cons_left_iff]
    constructor
    · rintro ⟨value, head, others, tail, same⟩
      exact ⟨(key, value), others, ⟨rfl, head⟩, tail, (Except.ok.inj same).symm⟩
    · rintro ⟨⟨name, value⟩, others, ⟨rfl, head⟩, tail, rfl⟩
      exact ⟨value, head, others, tail, rfl⟩

/-- The values of an array without a fault. -/
theorem toValue_array {elements : List Draft} {value : Value} :
    (array elements .closed).toValue = .ok value ↔
      ∃ values, toValues elements = .ok values ∧ .array values = value := by
  simp [toValue, Ending.check, Effect.except_bind_eq_ok, pure, Except.pure]

/-- The members of an object without a fault. -/
theorem toValue_object {members : List (String × Draft)} {value : Value} :
    (object members .closed).toValue = .ok value ↔
      ∃ values, toMembers members = .ok values ∧ .ofMembers values = value := by
  simp [toValue, Ending.check, Effect.except_bind_eq_ok, pure, Except.pure]

end Draft

section Values

variable {room : Nat} {draft : Draft} {value : Value} {characters core : List Char}
  {tokens : List Token}

/-- Whether the tokens of a draft are cut only from characters that write its value. -/
def Draft.IsWritten (draft : Draft) (room : Nat) : Prop :=
  ∀ (value : Value) (characters : List Char) (tokens : List Token), draft.toValue = .ok value →
    Cut characters (draft.tokens ++ tokens) →
      ∃ before core rest, characters = before ++ (core ++ rest) ∧ AreSpaces before ∧
        Writes room core value ∧ Cut rest tokens

/-- Whether a draft has the value of a part. -/
def Part.IsOf (room : Nat) (draft : Draft) (part : Part) : Prop :=
  draft.toValue = .ok part.value ∧ Writes room part.core part.value

/-- Whether a member has the key and the value of another one. -/
def Member.IsOf (room : Nat) (draft : String × Draft) (member : Member) : Prop :=
  draft.1 = member.key ∧ member.part.IsOf room draft.2

/-- A draft is cut from a part. -/
theorem isCutFrom_part (written : draft.IsWritten room) (valued : draft.toValue = .ok value) :
    IsCutFrom (Part.IsOf room) Draft.tokens Part.characters draft := by
  intro characters tokens token mark isMark cut
  obtain ⟨before, core, rest, rfl, blankBefore, writes, further⟩ := written _ _ _ valued cut
  obtain ⟨after, rest, rfl, blankAfter, last⟩ := further.mark_inv isMark
  exact ⟨⟨before, blankBefore, core, after, blankAfter, value⟩, rest, ⟨valued, writes⟩,
    by simp [Part.characters], last⟩

/-- A draft with a key is cut from a member. -/
theorem isCutFrom_member {key : String} (written : draft.IsWritten room)
    (valued : draft.toValue = .ok value) :
    IsCutFrom (Member.IsOf room) Draft.entryTokens Member.characters (key, draft) := by
  intro characters tokens token mark isMark cut
  rw [Draft.entryTokens, List.cons_append, List.cons_append] at cut
  obtain ⟨before, name, rest, rfl, blankBefore, named, further⟩ := cut.cons_inv
  obtain ⟨after, rest, rfl, blankAfter, further⟩ := further.mark_inv isMark_colon
  obtain ⟨part, rest, known, rfl, last⟩ :=
    isCutFrom_part written valued _ _ _ _ isMark further
  exact ⟨⟨before, blankBefore, name, key, named, after, blankAfter, part⟩, rest, ⟨rfl, known⟩,
    by simp [Member.characters], last⟩

/-- A value of one token is cut only from the characters that spell it. -/
theorem isWritten_of_spells {token : Token} (single : draft.tokens = [token])
    (valued : draft.toValue = .ok value)
    (writes : ∀ core, token.Spells core → Writes room core value) : draft.IsWritten room := by
  intro found characters tokens known cut
  obtain rfl := Except.ok.inj (valued.symm.trans known)
  rw [single] at cut
  obtain ⟨before, core, rest, rfl, spaces, spells, further⟩ := cut.cons_inv
  exact ⟨before, core, rest, rfl, spaces, writes core spells, further⟩

/-- An array is cut only from characters that write it, if its elements are. -/
theorem isWritten_array {elements : List Draft}
    (each : ∀ element ∈ elements, element.IsWritten room) :
    (Draft.array elements .closed).IsWritten (room + 1) := by
  intro value characters tokens valued cut
  obtain ⟨values, given, rfl⟩ := Draft.toValue_array.mp valued
  rw [Draft.tokens, List.cons_append, List.append_assoc, Draft.elementTokens_eq] at cut
  obtain ⟨before, rest, rfl, spaces, further⟩ := cut.mark_inv isMark_openArray
  have pieces : ∀ element ∈ elements,
      IsCutFrom (Part.IsOf room) Draft.tokens Part.characters element := by
    intro element member
    obtain ⟨value, -, known⟩ := exists_of_mem_left (Draft.toValues_eq_ok.mp given) member
    exact isCutFrom_part (each element member) known
  obtain ⟨inside, parts, last, matched, rfl, known, finished⟩ :=
    exists_parts pieces isMark_closeArray further
  have same : parts.map Part.value = values := by
    have found : Draft.toValues elements = .ok (parts.map Part.value) :=
      Draft.toValues_eq_ok.mpr (List.forall₂_map_right_iff.mpr (matched.imp fun _ _ => And.left))
    exact Except.ok.inj (found.symm.trans given)
  refine ⟨before, '[' :: (inside ++ [']']), last, by simp, spaces, ?_, finished⟩
  rw [← same]
  refine .array known fun part member => ?_
  obtain ⟨element, -, matching⟩ := exists_of_mem_right matched member
  exact matching.2

/-- An object is cut only from characters that write it, if the values of its members are. -/
theorem isWritten_object {members : List (String × Draft)}
    (each : ∀ member ∈ members, member.2.IsWritten room) :
    (Draft.object members .closed).IsWritten (room + 1) := by
  intro value characters tokens valued cut
  obtain ⟨entries, given, rfl⟩ := Draft.toValue_object.mp valued
  rw [Draft.tokens, List.cons_append, List.append_assoc, Draft.memberTokens_eq] at cut
  obtain ⟨before, rest, rfl, spaces, further⟩ := cut.mark_inv isMark_openObject
  have pieces : ∀ member ∈ members,
      IsCutFrom (Member.IsOf room) Draft.entryTokens Member.characters member := by
    intro member inside
    obtain ⟨entry, -, -, known⟩ := exists_of_mem_left (Draft.toMembers_eq_ok.mp given) inside
    exact isCutFrom_member (each member inside) known
  obtain ⟨inside, parts, last, matched, rfl, known, finished⟩ :=
    exists_parts pieces isMark_closeObject further
  have same : parts.map Member.entry = entries := by
    have found : Draft.toMembers members = .ok (parts.map Member.entry) :=
      Draft.toMembers_eq_ok.mpr (List.forall₂_map_right_iff.mpr
        (matched.imp fun _ _ matching => ⟨matching.1, matching.2.1⟩))
    exact Except.ok.inj (found.symm.trans given)
  refine ⟨before, '\x7b' :: (inside ++ ['\x7d']), last, by simp, spaces, ?_, finished⟩
  rw [← same]
  refine .object known fun member present => ?_
  obtain ⟨entry, -, matching⟩ := exists_of_mem_right matched present
  exact matching.2.2

/-- The tokens of a draft without a fault are cut only from characters that write its value. -/
theorem Draft.IsWhole.isWritten (whole : draft.IsWhole room) : draft.IsWritten room := by
  induction whole with
  | null room =>
    refine isWritten_of_spells rfl rfl fun core spells => ?_
    obtain rfl : core = ['n', 'u', 'l', 'l'] := spells
    exact .null room
  | boolean room truth =>
    refine isWritten_of_spells rfl rfl fun core spells => ?_
    cases truth with
    | true =>
      obtain rfl : core = ['t', 'r', 'u', 'e'] := spells
      exact .yes room
    | false =>
      obtain rfl : core = ['f', 'a', 'l', 's', 'e'] := spells
      exact .no room
  | number room number => exact isWritten_of_spells rfl rfl fun core spells => .number room spells
  | string room text => exact isWritten_of_spells rfl rfl fun core spells => .string room spells
  | array each ih => exact isWritten_array ih
  | object each ih => exact isWritten_object ih

/-- A draft that a value is read from: it is without a fault, has the value, and its tokens are
those of the characters. -/
structure IsDraftOf (room : Nat) (draft : Draft) (characters : List Char) (value : Value) :
    Prop where
  /-- The draft is without a fault. -/
  whole : draft.IsWhole room
  /-- It has the value. -/
  valued : draft.toValue = .ok value
  /-- The characters are cut into its tokens. -/
  lexed : IsLexed draft.tokens characters

/-- White space around characters leaves their tokens. -/
theorem IsLexed.part {part : Part} (lexed : IsLexed tokens part.core) :
    IsLexed tokens part.characters := by
  intro done rest ends
  rw [Part.characters, List.append_assoc, part.blankBefore.lexFrom_append, List.append_assoc,
    lexed done _ (part.blankAfter.endsValue_append ends), part.blankAfter.lexFrom_append]

/-- A key and a colon are cut into two tokens before those of the value. -/
theorem IsLexed.member {member : Member} (lexed : IsLexed tokens member.part.core) :
    IsLexed (.string member.key :: .colon :: tokens) member.characters := by
  intro done rest ends
  rw [Member.characters, List.append_assoc, member.blankBefore.lexFrom_append, List.append_assoc,
    member.named.lexFrom_append, List.append_assoc, member.blankAfter.lexFrom_append,
    List.cons_append, isMark_colon.lexFrom_cons, lexed.part _ _ ends]
  simp

/-- A value is one token or several. -/
theorem Token.Spells.isLexed {token : Token} (spells : token.Spells core) : IsLexed [token] core :=
  fun _ _ ends => spells.lexFrom_append ends

/-- An array is read from an array of drafts, if its elements are read from drafts. -/
theorem exists_draft_of_array {inside : List Char} {parts : List Part}
    (known : AreSeparated inside (parts.map Part.characters))
    (each : ∀ part ∈ parts, ∃ draft, IsDraftOf room draft part.core part.value) :
    ∃ draft, IsDraftOf (room + 1) draft ('[' :: (inside ++ [']']))
      (.array (parts.map Part.value)) := by
  obtain ⟨drafts, matched⟩ := exists_forall₂_right each
  refine ⟨.array drafts .closed, .array fun draft member => ?_, ?_, fun done rest ends => ?_⟩
  · obtain ⟨part, -, found⟩ := exists_of_mem_left matched member
    exact found.whole
  · refine Draft.toValue_array.mpr ⟨_, Draft.toValues_eq_ok.mpr ?_, rfl⟩
    exact List.forall₂_map_right_iff.mpr (matched.imp fun _ _ found => found.valued)
  · rw [List.cons_append, isMark_openArray.lexFrom_cons, List.append_assoc, List.singleton_append,
      lexFrom_inside (matched.imp fun _ _ found => found.lexed.part) known isMark_closeArray
        (by simp [EndsValue])]
    simp [Draft.tokens, Draft.elementTokens_eq]

/-- An object is read from an object of drafts, if the values of its members are read from drafts.
-/
theorem exists_draft_of_object {inside : List Char} {members : List Member}
    (known : AreSeparated inside (members.map Member.characters))
    (each : ∀ member ∈ members,
      ∃ draft, IsDraftOf room draft member.part.core member.part.value) :
    ∃ draft, IsDraftOf (room + 1) draft ('\x7b' :: (inside ++ ['\x7d']))
      (.ofMembers (members.map Member.entry)) := by
  have keyed : ∀ member ∈ members, ∃ entry : String × Draft, entry.1 = member.key ∧
      IsDraftOf room entry.2 member.part.core member.part.value := by
    intro member present
    obtain ⟨draft, found⟩ := each member present
    exact ⟨(member.key, draft), rfl, found⟩
  obtain ⟨drafts, matched⟩ := exists_forall₂_right keyed
  have lexed : List.Forall₂ (fun entry member =>
      IsLexed (Draft.entryTokens entry) (Member.characters member)) drafts members := by
    refine matched.imp fun entry member found => ?_
    rw [Draft.entryTokens, found.1]
    exact found.2.lexed.member
  refine ⟨.object drafts .closed, .object fun entry present => ?_, ?_, fun done rest ends => ?_⟩
  · obtain ⟨member, -, found⟩ := exists_of_mem_left matched present
    exact found.2.whole
  · refine Draft.toValue_object.mpr ⟨_, Draft.toMembers_eq_ok.mpr ?_, rfl⟩
    exact List.forall₂_map_right_iff.mpr (matched.imp fun _ _ found => ⟨found.1, found.2.valued⟩)
  · rw [List.cons_append, isMark_openObject.lexFrom_cons, List.append_assoc,
      List.singleton_append, lexFrom_inside lexed known isMark_closeObject (by simp [EndsValue])]
    simp [Draft.tokens, Draft.memberTokens_eq]

/-- What is written as a value is read from a draft. -/
theorem Writes.exists_draft (writes : Writes room core value) :
    ∃ draft, IsDraftOf room draft core value := by
  induction writes with
  | null room =>
    have spells : Token.Spells ['n', 'u', 'l', 'l'] .null := rfl
    exact ⟨.null, .null room, rfl, spells.isLexed⟩
  | yes room =>
    have spells : Token.Spells ['t', 'r', 'u', 'e'] (.boolean true) := rfl
    exact ⟨.boolean true, .boolean room true, rfl, spells.isLexed⟩
  | no room =>
    have spells : Token.Spells ['f', 'a', 'l', 's', 'e'] (.boolean false) := rfl
    exact ⟨.boolean false, .boolean room false, rfl, spells.isLexed⟩
  | @number room core number written =>
    exact ⟨.number number, .number room number, rfl, fun _ _ ends => written.lexFrom_append ends⟩
  | @string room core text written =>
    exact ⟨.string text, .string room text, rfl, fun _ _ ends => written.lexFrom_append⟩
  | array known each ih => exact exists_draft_of_array known ih
  | object known each ih => exact exists_draft_of_object known ih

end Values

section Texts

variable {text : String} {core : List Char} {value : Value}

/-- A text has a value exactly if its tokens have no fault and are read to the end as a draft of the
value. -/
theorem parse_eq_ok : parse text = .ok value ↔ (lex text).2 = .finished ∧
    ∃ draft, readTokens .finished (lex text).1 .value [] = (draft, true) ∧
      draft.toValue = .ok value := by
  have unfolded : parse text = .ok value ↔
      (draft text).1.toValue = .ok value ∧ (draft text).2 = true := by
    rw [parse]
    refine Effect.except_bind_eq_ok.trans ⟨?_, ?_⟩
    · rintro ⟨found, valued, same⟩
      split at same
      · rename_i alone
        obtain rfl := Except.ok.inj same
        exact ⟨valued, alone⟩
      · cases same
    · rintro ⟨valued, alone⟩
      exact ⟨value, valued, if_pos alone⟩
  have read : draft text = readTokens (lex text).2 (lex text).1 .value [] := rfl
  rw [unfolded, read]
  cases ending : (lex text).2 with
  | finished =>
    constructor
    · exact fun known => ⟨rfl, _, Prod.ext rfl known.2, known.1⟩
    · rintro ⟨-, draft, same, valued⟩
      rw [same]
      exact ⟨valued, rfl⟩
  | broken first fault =>
    rw [readTokens_of_broken]
    simp

/-- A text is cut into the tokens of the draft that its value is read from. -/
theorem lex_of_isPadded {draft : Draft} (padded : IsPadded text core)
    (found : IsDraftOf depthLimit draft core value) : lex text = (draft.tokens, .finished) := by
  obtain ⟨before, after, whole, blankBefore, blankAfter⟩ := padded
  have nothing : EndsValue [] := by simp [EndsValue]
  have ends : EndsValue (after ++ []) := blankAfter.endsValue_append nothing
  have finished : lexFrom draft.tokens.reverse (after ++ []) = lexFrom draft.tokens.reverse [] :=
    blankAfter.lexFrom_append
  rw [List.append_nil] at ends finished
  rw [lexFrom, List.reverse_reverse] at finished
  rw [lex, whole, blankBefore.lexFrom_append, found.lexed _ _ ends, List.append_nil, finished]

/-- A text is JSON for a value exactly if the value is read from it. -/
theorem parse_eq_ok_iff : parse text = .ok value ↔ IsText text value := by
  rw [parse_eq_ok]
  constructor
  · rintro ⟨finished, draft, read, valued⟩
    have cut : Cut text.toList (lex text).1 := by
      have cutUp : lexFrom [] text.toList = ((lex text).1, .finished) := Prod.ext rfl finished
      obtain ⟨tokens, all, cut⟩ := cut_of_lexFrom cutUp
      rwa [show (lex text).1 = tokens from all]
    have outside : AreWhole depthLimit [] := rfl
    have begins : Mode.value.Stands depthLimit [] := trivial
    obtain ⟨whole, written⟩ := isWhole_of_readTokens outside begins read valued
    obtain ⟨before, core, rest, spelled, blankBefore, writes, further⟩ :=
      whole.isWritten value text.toList [] valued
        (by simpa [written, openTokens, modeTokens] using cut)
    cases further with
    | finished blankAfter => exact ⟨core, ⟨before, rest, spelled, blankBefore, blankAfter⟩, writes⟩
  · rintro ⟨core, padded, writes⟩
    obtain ⟨draft, found⟩ := writes.exists_draft
    have read := found.whole.readsBack .finished [] [] (by simp)
    rw [List.append_nil] at read
    rw [lex_of_isPadded padded found]
    refine ⟨rfl, draft, ?_, found.valued⟩
    rw [read, readTokens]
    rfl

/-- Whether characters end, and not in white space. -/
def EndsVisibly (characters : List Char) : Prop :=
  ∃ front last, characters = front ++ [last] ∧ isSpace last = false

/-- Characters before others do not change how they end. -/
theorem EndsVisibly.append {others : List Char} (ends : EndsVisibly others)
    (characters : List Char) : EndsVisibly (characters ++ others) := by
  obtain ⟨front, last, rfl, visible⟩ := ends
  exact ⟨characters ++ front, last, by simp, visible⟩

/-- Digits do not end in white space. -/
theorem Digits.endsVisibly (digits : Digits) : EndsVisibly digits.characters := by
  obtain nothing | ⟨front, last, whole⟩ := List.eq_nil_or_concat digits.characters
  · exact absurd nothing digits.nonempty
  · rw [List.concat_eq_append] at whole
    refine ⟨front, last, whole, Bool.eq_false_iff.mpr fun blank => ?_⟩
    have digit := digits.isDigit_of_mem (by simp [whole] : last ∈ digits.characters)
    rw [isDigit_of_isSpace blank] at digit
    cases digit

/-- A number does not end in white space. -/
theorem Decimal.endsVisibly (decimal : Decimal) : EndsVisibly decimal.characters := by
  rw [Decimal.characters, Decimal.magnitude]
  refine EndsVisibly.append ?_ _
  cases scaled : decimal.power with
  | some power =>
    have ends := power.digits.endsVisibly.append (power.letter :: power.sign)
    have tail : decimal.tail =
        (decimal.fraction.map fun digits => '.' :: digits.characters).getD [] ++
          power.characters := by
      simp [Decimal.tail, scaled]
    rw [tail]
    exact (ends.append _).append _
  | none =>
    cases pointed : decimal.fraction with
    | some digits =>
      have tail : decimal.tail = ['.'] ++ digits.characters := by
        simp [Decimal.tail, scaled, pointed]
      rw [tail]
      exact (digits.endsVisibly.append _).append _
    | none =>
      have tail : decimal.tail = [] := by simp [Decimal.tail, scaled, pointed]
      rw [tail, List.append_nil]
      exact decimal.whole.endsVisibly

/-- A value does not end in white space. -/
theorem Writes.endsVisibly {room : Nat} (writes : Writes room core value) : EndsVisibly core := by
  cases writes with
  | null => exact ⟨['n', 'u', 'l'], 'l', rfl, by decide⟩
  | yes => exact ⟨['t', 'r', 'u'], 'e', rfl, by decide⟩
  | no => exact ⟨['f', 'a', 'l', 's'], 'e', rfl, by decide⟩
  | number _ written =>
    obtain ⟨decimal, rfl, -⟩ := written
    exact decimal.endsVisibly
  | string _ written =>
    obtain ⟨pieces, -, rfl⟩ := written
    exact ⟨'"' :: pieces.flatten, '"', rfl, by decide⟩
  | @array _ inside => exact ⟨'[' :: inside, ']', rfl, by decide⟩
  | @object _ inside => exact ⟨'\x7b' :: inside, '\x7d', rfl, by decide⟩

/-- White space after a text makes no difference to its value. -/
theorem isText_append {space : Char} {characters : List Char} (blank : isSpace space = true) :
    IsText (String.ofList (characters ++ [space])) value ↔
      IsText (String.ofList characters) value := by
  constructor
  · rintro ⟨core, ⟨before, after, whole, blankBefore, blankAfter⟩, writes⟩
    rw [String.toList_ofList] at whole
    obtain rfl | ⟨front, last, rfl⟩ := List.eq_nil_or_concat after
    · -- The white space would be the end of the value.
      obtain ⟨front, last, rfl, visible⟩ := writes.endsVisibly
      rw [List.append_nil, ← List.append_assoc] at whole
      obtain ⟨-, same⟩ := List.append_inj' whole rfl
      obtain rfl : space = last := (List.cons.inj same).1
      rw [blank] at visible
      cases visible
    · rw [List.concat_eq_append, ← List.append_assoc, ← List.append_assoc] at whole
      obtain ⟨same, -⟩ := List.append_inj' whole rfl
      refine ⟨core, ⟨before, front, ?_, blankBefore, fun mark inside => ?_⟩, writes⟩
      · rw [String.toList_ofList, same, List.append_assoc]
      · exact blankAfter mark (by simp [inside])
  · rintro ⟨core, ⟨before, after, whole, blankBefore, blankAfter⟩, writes⟩
    rw [String.toList_ofList] at whole
    refine ⟨core, ⟨before, after ++ [space], ?_, blankBefore, fun mark inside => ?_⟩, writes⟩
    · rw [String.toList_ofList, whole]
      simp
    · obtain known | last := List.mem_append.mp inside
      · exact blankAfter mark known
      · rw [List.mem_singleton.mp last]
        exact isSpace_iff.mp blank

/-- White space after a text leaves its value, or the text has none with it and without it. -/
theorem parse_append {space : Char} (blank : isSpace space = true) (characters : List Char) :
    parse (String.ofList (characters ++ [space])) = parse (String.ofList characters) ∨
      (∃ fault, parse (String.ofList characters) = .error fault) ∧
        ∃ fault, parse (String.ofList (characters ++ [space])) = .error fault := by
  have same : ∀ value, parse (String.ofList (characters ++ [space])) = .ok value ↔
      parse (String.ofList characters) = .ok value := by
    intro value
    rw [parse_eq_ok_iff, parse_eq_ok_iff, isText_append blank]
  cases without : parse (String.ofList characters) with
  | ok value => exact .inl ((same value).mpr without)
  | error fault =>
    refine .inr ⟨⟨fault, rfl⟩, ?_⟩
    cases further : parse (String.ofList (characters ++ [space])) with
    | error second => exact ⟨second, rfl⟩
    | ok value =>
      rw [(same value).mp further] at without
      cases without

end Texts

end DecompileServer.Json
