import DecompileServer.Proofs.Json.Printer
import DecompileServer.Proofs.Session.Echo

/-!
# Which lines are messages

What a line stands for is settled by the grammar of JSON and the last values of four keys
(`Message.ofLine_grammar`): the line is no JSON, or a request, or a notification, or JSON of another
kind. The key of an id decides between the two kinds of message, even if its value cannot be one.
-/
namespace DecompileServer.Rpc

open Json (Value IsText IsObjectText lastOf)

/-- Whether a member gives the parameters of a message: none if it is missing or `null`, and its
value otherwise. -/
def AreParams (given params : Option Value) : Prop :=
  (params = none ↔ given = none ∨ given = some .null) ∧ (params ≠ none → params = given)

/-- Whether the values of keys are those of a request. -/
structure IsRequest (valueOf : String → Option Value) (id : RequestId) (method : String)
    (params : Option Value) : Prop where
  /-- The version of the protocol. -/
  version : valueOf "jsonrpc" = some (.string "2.0")
  /-- The id, a text or an integer of 64 bits with a sign. -/
  id : valueOf "id" = some id.toJson
  /-- The name of the method is not empty. -/
  named : method ≠ ""
  /-- The method. -/
  method : valueOf "method" = some (.string method)
  /-- The parameters. -/
  params : AreParams (valueOf "params") params

/-- Whether the values of keys are those of a notification. -/
structure IsNotification (valueOf : String → Option Value) (method : String)
    (params : Option Value) : Prop where
  /-- The version of the protocol. -/
  version : valueOf "jsonrpc" = some (.string "2.0")
  /-- There is no id. -/
  id : valueOf "id" = none
  /-- The method, which may be empty. -/
  method : valueOf "method" = some (.string method)
  /-- The parameters. -/
  params : AreParams (valueOf "params") params

/-- Whether a line is refused with the number of an error. -/
def IsRefused (line : String) (number : Int) : Prop :=
  ∃ refusal id code message, Message.ofLine line = .error refusal ∧
    refusal.reply = .error id code message ∧ code.number = number

namespace Message

variable {value : Value} {line : String} {id : RequestId} {method : String} {params : Option Value}
  {message : Message} {entries : List (String × Value)}

/-- The parameters are those of the member. -/
theorem areParams_iff : AreParams (value.member? "params") params ↔ params = paramsOf value := by
  unfold AreParams paramsOf
  split
  · rename_i null
    simp only [null, reduceCtorEq, or_true, iff_true, and_iff_left_iff_imp]
    exact fun none given => absurd none given
  · rename_i other
    constructor
    · rintro ⟨missing, same⟩
      by_cases none : params = none
      · obtain absent | null := missing.mp none
        · rw [none, absent]
        · exact absurd null other
      · exact same none
    · rintro rfl
      exact ⟨⟨.inl, fun given => given.resolve_right other⟩, fun _ => rfl⟩

/-- A value with an id that cannot be read is refused. -/
theorem ofValue_of_unreadable {idValue : Value} (identified : value.member? "id" = some idValue)
    (unreadable : RequestId.ofJson? idValue = none) :
    ofValue value = .error (.notRequest none) := by
  have unknown : ∀ other id, value.member? "id" = some other → RequestId.ofJson? other ≠ some id := by
    rintro other id same
    obtain rfl := Option.some.inj (identified.symm.trans same)
    simp [unreadable]
  have reading := reading value
  generalize ofValue value = result at reading ⊢
  cases reading with
  | malformed => rfl
  | notification _ _ absent _ => simp [absent] at identified
  | nameless _ _ _ same known _ => exact absurd known (unknown _ _ same)
  | request _ _ _ _ same known _ _ => exact absurd known (unknown _ _ same)

/-- A value is the request or the notification that its keys say, or refused if they say neither. -/
theorem ofValue_cases (value : Value) :
    (∃ id method, IsRequest value.member? id method (paramsOf value) ∧
      ofValue value = .ok (.request id method (paramsOf value))) ∨
    (∃ method, IsNotification value.member? method (paramsOf value) ∧
      ofValue value = .ok (.notification method (paramsOf value))) ∨
    ((∀ id method params, ¬IsRequest value.member? id method params) ∧
      (∀ method params, ¬IsNotification value.member? method params) ∧
      ∃ id, ofValue value = .error (.notRequest id)) := by
  have given : AreParams (value.member? "params") (paramsOf value) := areParams_iff.mpr rfl
  have reading := reading value
  generalize ofValue value = result at reading ⊢
  cases reading with
  | malformed wrong =>
    refine .inr (.inr ⟨fun id method params request => ?_, fun method params notification => ?_,
      none, rfl⟩)
    · obtain unversioned | uncalled | ⟨idValue, identified, unread⟩ := wrong
      · exact unversioned request.version
      · exact uncalled method request.method
      · obtain rfl := Option.some.inj (identified.symm.trans request.id)
        rw [RequestId.ofJson?_eq_some.mpr rfl] at unread
        cases unread
    · obtain unversioned | uncalled | ⟨idValue, identified, unread⟩ := wrong
      · exact unversioned notification.version
      · exact uncalled method notification.method
      · simp [notification.id] at identified
  | notification method version absent called =>
    exact .inr (.inl ⟨method, ⟨version, absent, called, given⟩, rfl⟩)
  | nameless idValue id version identified known called =>
    refine .inr (.inr ⟨fun _ method params request => ?_, fun method params notification => ?_,
      some id, rfl⟩)
    · obtain rfl : "" = method := by simpa [called] using request.method
      exact request.named rfl
    · simp [notification.id] at identified
  | request idValue id method version identified known called named =>
    obtain rfl := RequestId.ofJson?_eq_some.mp known
    exact .inl ⟨id, method, ⟨version, identified, named, called, given⟩, rfl⟩

/-- A value is a request exactly if its keys say so. -/
theorem ofValue_eq_request : ofValue value = .ok (.request id method params) ↔
    IsRequest value.member? id method params := by
  constructor
  · intro read
    obtain ⟨other, name, request, same⟩ | ⟨name, -, same⟩ | ⟨-, -, other, same⟩ :=
      ofValue_cases value
    · obtain ⟨rfl, rfl, rfl⟩ := Message.request.inj (Except.ok.inj (same.symm.trans read))
      exact request
    · exact absurd (same.symm.trans read) (by simp)
    · exact absurd (same.symm.trans read) (by simp)
  · intro request
    obtain rfl := areParams_iff.mp request.params
    obtain ⟨other, name, found, same⟩ | ⟨name, notification, -⟩ | ⟨none, -, -⟩ :=
      ofValue_cases value
    · have ids : id.toJson = other.toJson := Option.some.inj (request.id.symm.trans found.id)
      obtain rfl : id = other := by
        have known := RequestId.ofJson?_eq_some.mpr ids
        rw [RequestId.ofJson?_eq_some.mpr rfl] at known
        exact (Option.some.inj known).symm
      obtain rfl : name = method := by simpa [found.method] using request.method
      exact same
    · exact absurd (notification.id.symm.trans request.id) (by simp)
    · exact absurd request (none id method _)

/-- A value is a notification exactly if its keys say so. -/
theorem ofValue_eq_notification : ofValue value = .ok (.notification method params) ↔
    IsNotification value.member? method params := by
  constructor
  · intro read
    obtain ⟨id, name, -, same⟩ | ⟨name, notification, same⟩ | ⟨-, -, id, same⟩ :=
      ofValue_cases value
    · exact absurd (same.symm.trans read) (by simp)
    · obtain ⟨rfl, rfl⟩ := Message.notification.inj (Except.ok.inj (same.symm.trans read))
      exact notification
    · exact absurd (same.symm.trans read) (by simp)
  · intro notification
    obtain rfl := areParams_iff.mp notification.params
    obtain ⟨id, name, request, -⟩ | ⟨name, found, same⟩ | ⟨-, none, -⟩ := ofValue_cases value
    · exact absurd (notification.id.symm.trans request.id) (by simp)
    · obtain rfl : name = method := by simpa [found.method] using notification.method
      exact same
    · exact absurd notification (none method _)

/-- A value is a message or refused as none. -/
theorem message_or_refused (value : Value) :
    (∃ message, ofValue value = .ok message) ∨ ∃ id, ofValue value = .error (.notRequest id) := by
  obtain ⟨id, method, -, same⟩ | ⟨method, -, same⟩ | ⟨-, -, refused⟩ := ofValue_cases value
  · exact .inl ⟨_, same⟩
  · exact .inl ⟨_, same⟩
  · exact .inr refused

/-- Only an object is a message. -/
theorem exists_members (read : ofValue value = .ok message) :
    ∃ members, value = .object members := by
  have versioned : value.member? "jsonrpc" ≠ none := by
    cases message with
    | request id method params => simp [(ofValue_eq_request.mp read).version]
    | notification method params => simp [(ofValue_eq_notification.mp read).version]
  cases value with
  | object members => exact ⟨members, rfl⟩
  | _ => exact absurd rfl versioned

/-- A line that is JSON stands for what its value does. -/
theorem ofLine_of_isText (text : IsText line value) : ofLine line = ofValue value := by
  rw [ofLine, Json.parse_eq_ok_iff.mpr text]

/-- A line that is no JSON is refused as such. -/
theorem ofLine_of_not_isText (none : ¬∃ value, IsText line value) :
    ofLine line = .error .notJson := by
  rw [ofLine]
  cases parsed : Json.parse line with
  | error fault => rfl
  | ok value => exact absurd ⟨value, Json.parse_eq_ok_iff.mp parsed⟩ none

/-- A line is refused as no JSON exactly if it has no value. -/
theorem ofLine_eq_notJson : ofLine line = .error .notJson ↔ ¬∃ value, IsText line value := by
  refine ⟨?_, ofLine_of_not_isText⟩
  rintro refused ⟨value, text⟩
  rw [ofLine_of_isText text] at refused
  obtain ⟨message, same⟩ | ⟨id, same⟩ := message_or_refused value <;>
    exact absurd (same.symm.trans refused) (by simp)

/-- A line is refused as no message exactly if it has a value that is none. -/
theorem exists_ofLine_eq_notRequest : (∃ id, ofLine line = .error (.notRequest id)) ↔
    (∃ value, IsText line value) ∧ ∀ message, ofLine line ≠ .ok message := by
  constructor
  · rintro ⟨id, refused⟩
    refine ⟨?_, fun message read => absurd (refused.symm.trans read) (by simp)⟩
    by_contra none
    exact absurd ((ofLine_of_not_isText none).symm.trans refused) (by simp)
  · rintro ⟨⟨value, text⟩, unread⟩
    rw [ofLine_of_isText text] at unread ⊢
    obtain ⟨message, read⟩ | refused := message_or_refused value
    · exact absurd read (unread message)
    · exact refused

/-- A line that is an object stands for what the last values of its keys say. -/
theorem ofLine_of_isObjectText (text : IsObjectText line entries) :
    ofLine line = ofValue (.ofMembers entries) :=
  ofLine_of_isText (Json.isText_object.mpr ⟨entries, text, rfl⟩)

/-- A line is a message exactly if it is an object that is one. -/
theorem ofLine_eq_ok : ofLine line = .ok message ↔
    ∃ entries, IsObjectText line entries ∧ ofValue (.ofMembers entries) = .ok message := by
  constructor
  · intro read
    by_cases isText : ∃ value, IsText line value
    · obtain ⟨value, text⟩ := isText
      rw [ofLine_of_isText text] at read
      obtain ⟨members, rfl⟩ := exists_members read
      obtain ⟨entries, object, same⟩ := Json.isText_object.mp text
      exact ⟨entries, object, same ▸ read⟩
    · rw [ofLine_of_not_isText isText] at read
      cases read
  · rintro ⟨entries, text, read⟩
    rw [ofLine_of_isObjectText text, read]

/-- What the grammar says of a line: it is a request. -/
def SaysRequest (line : String) (id : RequestId) (method : String) (params : Option Value) : Prop :=
  ∃ entries, IsObjectText line entries ∧ IsRequest (lastOf entries) id method params

/-- What the grammar says of a line: it is a notification. -/
def SaysNotification (line : String) (method : String) (params : Option Value) : Prop :=
  ∃ entries, IsObjectText line entries ∧ IsNotification (lastOf entries) method params

/-- A line is a request exactly if the grammar says so. -/
theorem ofLine_eq_request :
    ofLine line = .ok (.request id method params) ↔ SaysRequest line id method params := by
  simp only [ofLine_eq_ok, ofValue_eq_request, SaysRequest, Value.member?_ofMembers]

/-- A line is a notification exactly if the grammar says so. -/
theorem ofLine_eq_notification :
    ofLine line = .ok (.notification method params) ↔ SaysNotification line method params := by
  simp only [ofLine_eq_ok, ofValue_eq_notification, SaysNotification, Value.member?_ofMembers]

/-- The line of a refusal for no JSON. -/
theorem isRefused_notJson : IsRefused line (-32700) ↔ ofLine line = .error .notJson := by
  constructor
  · rintro ⟨refusal, id, code, message, same, reply, number⟩
    cases refusal with
    | notJson => exact same
    | notRequest known =>
      obtain ⟨-, rfl, -⟩ := Reply.error.inj reply
      cases number
  · exact fun same => ⟨.notJson, none, .parseError, _, same, rfl, rfl⟩

/-- The line of a refusal for other JSON. -/
theorem isRefused_notRequest :
    IsRefused line (-32600) ↔ ∃ id, ofLine line = .error (.notRequest id) := by
  constructor
  · rintro ⟨refusal, id, code, message, same, reply, number⟩
    cases refusal with
    | notJson =>
      obtain ⟨-, rfl, -⟩ := Reply.error.inj reply
      cases number
    | notRequest known => exact ⟨known, same⟩
  · exact fun ⟨id, same⟩ => ⟨.notRequest id, id, .invalidRequest, _, same, rfl, rfl⟩

/-- What a value stands for depends on the values of four keys only. -/
theorem ofValue_congr {other : Value}
    (same : ∀ key ∈ ["jsonrpc", "id", "method", "params"], value.member? key = other.member? key) :
    ofValue value = ofValue other := by
  simp only [List.forall_mem_cons, List.not_mem_nil, false_implies, implies_true, and_true] at same
  obtain ⟨version, identified, called, given⟩ := same
  simp only [ofValue, textOf, paramsOf, version, identified, called, given]

/-- A value that is no id that can be read is the id of no request. -/
theorem ofJson?_of_unreadable (unreadable : ¬IsReadableId value) :
    RequestId.ofJson? value = none := by
  cases known : RequestId.ofJson? value with
  | none => rfl
  | some id =>
    refine absurd ?_ unreadable
    rw [← RequestId.ofJson?_eq_some.mp known]
    cases id with
    | integer number fits => simpa [RequestId.toJson, IsReadableId, isSigned] using fits
    | text text => trivial

/-- The messages of lines. A line is refused as no JSON exactly if the grammar has no value for it.
It is a request or a notification exactly if the last values of the keys of an object say so, and
all other JSON is refused as no message. Only the last values of four keys make a difference, so
neither the order of the members nor further ones do; an id that is neither a text nor an integer of
64 bits with a sign is refused. An integer is written without a point and an exponent, and every
number is in range that has no more than 308 digits before its point, counted with its power of
ten. -/
theorem ofLine_grammar (line : String) :
    (IsRefused line (-32700) ↔ ¬∃ value, IsText line value) ∧
    (∀ id method params, ofLine line = .ok (.request id method params) ↔
      SaysRequest line id method params) ∧
    (∀ method params, ofLine line = .ok (.notification method params) ↔
      SaysNotification line method params) ∧
    (IsRefused line (-32600) ↔ (∃ value, IsText line value) ∧
      (¬∃ id method params, SaysRequest line id method params) ∧
      ¬∃ method params, SaysNotification line method params) ∧
    (∀ other entries others, IsObjectText line entries → IsObjectText other others →
      (∀ key ∈ ["jsonrpc", "id", "method", "params"], lastOf entries key = lastOf others key) →
      ofLine line = ofLine other) ∧
    (∀ entries idValue, IsObjectText line entries → lastOf entries "id" = some idValue →
      ¬IsReadableId idValue → IsRefused line (-32600)) ∧
    (∀ room core value (wide : Json.isWide value = true),
      Json.Writes room core (.number (.integer value wide)) ↔ core = (toString value).toList) ∧
    (∀ decimal : Json.Decimal, decimal.whole.characters.length + decimal.exponent ≤ 308 →
      ∃ number, Json.WritesNumber decimal.characters number) := by
  refine ⟨?_, fun id method params => ofLine_eq_request,
    fun method params => ofLine_eq_notification, ?_, ?_, ?_,
    fun room core value wide => Json.writes_integer_iff wide,
    fun decimal few => (decimal.exists_gives few).imp fun number known => ⟨decimal, rfl, known⟩⟩
  · rw [isRefused_notJson, ofLine_eq_notJson]
  · rw [isRefused_notRequest, exists_ofLine_eq_notRequest]
    refine and_congr_right fun _ => ?_
    simp only [← ofLine_eq_request, ← ofLine_eq_notification]
    constructor
    · intro unread
      exact ⟨fun ⟨_, _, _, read⟩ => unread _ read, fun ⟨_, _, read⟩ => unread _ read⟩
    · rintro ⟨notRequest, notNotification⟩ message read
      cases message with
      | request id method params => exact notRequest ⟨id, method, params, read⟩
      | notification method params => exact notNotification ⟨method, params, read⟩
  · intro other entries others text otherText same
    rw [ofLine_of_isObjectText text, ofLine_of_isObjectText otherText]
    refine ofValue_congr fun key member => ?_
    rw [Value.member?_ofMembers, Value.member?_ofMembers, same key member]
  · intro entries idValue text identified unreadable
    rw [← Value.member?_ofMembers] at identified
    rw [isRefused_notRequest, ofLine_of_isObjectText text]
    exact ⟨none, ofValue_of_unreadable identified (ofJson?_of_unreadable unreadable)⟩

/-- The numbers `1.5`, `-0`, `1e3` and `2 ^ 64`. -/
def sampleNumbers : List Json.Decimal :=
  [⟨false, ⟨['1'], by simp, by simp⟩, by simp, some ⟨['5'], by simp, by simp⟩, none⟩,
    ⟨true, ⟨['0'], by simp, by simp⟩, by simp, none, none⟩,
    ⟨false, ⟨['1'], by simp, by simp⟩, by simp, none,
      some ⟨'e', by simp, [], by simp, ⟨['3'], by simp, by simp⟩⟩⟩,
    ⟨false, ⟨"18446744073709551616".toList, by simp, by simp⟩, by simp, none, none⟩]

/-- The members of a line with an id that is no integer, with white space between them. -/
def sampleMembers : List Json.Member :=
  [.tight ("jsonrpc", .string "2.0"),
    { Json.Member.tight ("id", .number (.double ⟨0x3FF8000000000000⟩)) with
      before := [' '], blankBefore := by decide },
    { Json.Member.tight ("method", .string "x") with
      before := ['\t'], blankBefore := by decide }]

/-- The members make up a line. -/
theorem isObjectText_sampleMembers :
    IsObjectText "\x7b\"jsonrpc\":\"2.0\", \"id\":1.5,\t\"method\":\"x\"\x7d"
      (sampleMembers.map Json.Member.entry) := by
  refine Json.isObjectText_joinWith (by decide +kernel) ?_
  have half : Json.WritesNumber ['1', '.', '5'] (.double ⟨0x3FF8000000000000⟩) :=
    ⟨sampleNumbers.head (by decide), rfl, Json.Decimal.gives_iff.mpr (by decide +kernel)⟩
  have shown : (Value.number (.double ⟨0x3FF8000000000000⟩)).characters = ['1', '.', '5'] := by
    decide +kernel
  have written := Json.Writes.number 126 half
  rw [← shown] at written
  simp only [sampleMembers, List.forall_mem_cons, List.not_mem_nil, false_implies, implies_true,
    and_true]
  exact ⟨(Value.IsTidy.string 126 _).writes, written, (Value.IsTidy.string 126 _).writes⟩

/-- The last of two ids counts, and a line whose only id is `null` or has a fraction is refused. The
fraction is a number, and so are minus zero, a thousand with an exponent and `2 ^ 64`. -/
theorem ofLine_grammar_sample :
    ofLine "\x7b\"id\":null,\"jsonrpc\":\"2.0\",\"id\":7,\"method\":\"ping\"\x7d" =
      .ok (.request (.integer 7 rfl) "ping" none) ∧
    IsRefused "\x7b\"jsonrpc\":\"2.0\",\"id\":null,\"method\":\"ping\"\x7d" (-32600) ∧
    IsRefused "\x7b\"jsonrpc\":\"2.0\", \"id\":1.5,\t\"method\":\"x\"\x7d" (-32600) ∧
    ¬IsRefused "\x7b\"jsonrpc\":\"2.0\", \"id\":1.5,\t\"method\":\"x\"\x7d" (-32700) ∧
    (sampleNumbers.map fun decimal => String.ofList decimal.characters) =
      ["1.5", "-0", "1e3", "18446744073709551616"] ∧
    ∀ decimal ∈ sampleNumbers, ∃ number, Json.WritesNumber decimal.characters number := by
  refine ⟨?_, ?_, ?_⟩
  · have text : IsObjectText "\x7b\"id\":null,\"jsonrpc\":\"2.0\",\"id\":7,\"method\":\"ping\"\x7d"
        [("id", .null), ("jsonrpc", .string "2.0"), ("id", .integer 7),
          ("method", .string "ping")] := by
      refine Json.isObjectText_members (by decide +kernel) ?_
      simp only [List.forall_mem_cons, List.not_mem_nil, false_implies, implies_true, and_true]
      exact ⟨.null _, .string _ _, .integer _ _ rfl, .string _ _⟩
    exact ((ofLine_grammar _).2.1 _ _ _).mpr
      ⟨_, text, rfl, rfl, by decide, rfl, by simp [AreParams, lastOf]⟩
  · have text : IsObjectText "\x7b\"jsonrpc\":\"2.0\",\"id\":null,\"method\":\"ping\"\x7d"
        [("jsonrpc", .string "2.0"), ("id", .null), ("method", .string "ping")] := by
      refine Json.isObjectText_members (by decide +kernel) ?_
      simp only [List.forall_mem_cons, List.not_mem_nil, false_implies, implies_true, and_true]
      exact ⟨.string _ _, .null _, .string _ _⟩
    exact (ofLine_grammar _).2.2.2.2.2.1 _ _ text rfl (by simp [IsReadableId])
  have text := isObjectText_sampleMembers
  have unreadable : ¬IsReadableId (.number (.double ⟨0x3FF8000000000000⟩)) := by
    simp [IsReadableId]
  refine ⟨(ofLine_grammar _).2.2.2.2.2.1 _ _ text rfl unreadable, ?_, by decide,
    fun decimal member => (ofLine_grammar "").2.2.2.2.2.2.2 decimal ?_⟩
  · rw [(ofLine_grammar _).1, not_not]
    exact ⟨_, Json.isText_object.mpr ⟨_, text, rfl⟩⟩
  · have few : ∀ decimal ∈ sampleNumbers,
        decimal.whole.characters.length + decimal.exponent ≤ 308 := by decide
    exact few decimal member

end Message

end DecompileServer.Rpc
