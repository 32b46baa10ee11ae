import DecompileServer.Text.Utf8

/-!
# Bytes of characters

Bytes are decoded from the front, so a byte that is a character by itself adds this character to the
text of those before it. The characters up to code 127 take one byte each, and no byte of any other
character could be taken for one of them. Every text is decoded from its bytes (`decode_encode`).
-/
namespace DecompileServer.Utf8

variable {bytes : List UInt8} {byte : UInt8} {value : Char}

/-- A byte that is a character adds it to the characters before. -/
theorem decodeFrom_append {characters : List Char} (single : leading byte = .character value)
    (done : List Char) (index : Nat) (pending : Option Pending)
    (decoded : decodeFrom done index pending bytes = .ok characters) :
    decodeFrom done index pending (bytes ++ [byte]) = .ok (characters ++ [value]) := by
  induction bytes generalizing done index pending with
  | nil =>
    cases pending with
    | none =>
      obtain rfl := Except.ok.inj decoded
      simp [decodeFrom, single]
    | some begun => cases decoded
  | cons first rest ih =>
    simp only [decodeFrom, List.cons_append] at decoded ⊢
    cases pending with
    | none =>
      cases step : leading first with
      | character read =>
        simp only [step] at decoded ⊢
        exact ih _ _ _ decoded
      | more begun =>
        simp only [step] at decoded ⊢
        exact ih _ _ _ decoded
      | refused => simp [step] at decoded
    | some begun =>
      cases step : begun.next first with
      | character read =>
        simp only [step] at decoded ⊢
        exact ih _ _ _ decoded
      | more further =>
        simp only [step] at decoded ⊢
        exact ih _ _ _ decoded
      | refused => simp [step] at decoded

/-- A byte that is a character adds it to the text before. -/
theorem decode_append {text : String} (single : leading byte = .character value)
    (decoded : decode bytes = .ok text) :
    decode (bytes ++ [byte]) = .ok (String.ofList (text.toList ++ [value])) := by
  unfold decode at decoded ⊢
  cases read : decodeFrom [] 0 none bytes with
  | error fault => simp [read, Except.map] at decoded
  | ok characters =>
    simp only [read, Except.map, Except.ok.injEq] at decoded
    rw [decodeFrom_append single _ _ _ read, ← decoded, String.toList_ofList]
    rfl

/-- The bytes of two texts are those of the first and those of the second. -/
theorem encode_append (first second : String) : encode (first ++ second) = encode first ++ encode second := by
  simp [encode]

/-- The bytes of a text with characters up to code 127 only. -/
theorem encode_of_ascii {text : String}
    (each : ∀ character ∈ text.toList, character.toNat ≤ 127) :
    encode text = text.toList.map fun character => UInt8.ofNat character.toNat := by
  unfold encode
  generalize text.toList = characters at each ⊢
  induction characters with
  | nil => rfl
  | cons first rest ih =>
    have single : String.utf8EncodeChar first = [UInt8.ofNat first.toNat] := by
      simp [String.utf8EncodeChar, each first List.mem_cons_self]
    rw [List.flatMap_cons, List.map_cons, single,
      ih fun character member => each character (List.mem_cons_of_mem _ member)]
    rfl

section Characters

variable {number : Nat}

/-- The number of a byte that is made of one. -/
theorem toNat_ofNat_of_lt (bound : number < 256) : (UInt8.ofNat number).toNat = number := by
  rw [UInt8.toNat_ofNat']
  omega

/-- A byte that is made of a number is below another one exactly if the number is. -/
theorem ofNat_lt_iff (bound : number < 256) {limit : UInt8} :
    UInt8.ofNat number < limit ↔ number < limit.toNat := by
  rw [UInt8.lt_iff_toNat_lt, toNat_ofNat_of_lt bound]

/-- A byte that is made of a number is another one exactly if the number is. -/
theorem ofNat_beq (bound : number < 256) {other : UInt8} :
    (UInt8.ofNat number == other) = decide (number = other.toNat) := by
  rw [Bool.beq_eq_decide_eq, decide_eq_decide, ← UInt8.toNat_inj, toNat_ofNat_of_lt bound]

/-- The first of two bytes. -/
theorem leading_of_two (low : 0xC2 ≤ number) (high : number < 0xE0) :
    leading (UInt8.ofNat number) = .more { value := number - 0xC0, length := 1, further := 0 } := by
  have bound : number < 256 := by omega
  simp only [leading, ofNat_lt_iff bound, UInt8.reduceToNat, toNat_ofNat_of_lt bound]
  rw [if_neg (by omega), if_neg (by omega), if_pos high]

/-- The first of three bytes. -/
theorem leading_of_three (low : 0xE0 ≤ number) (high : number < 0xF0) :
    leading (UInt8.ofNat number) = .more
      { value := number - 0xE0, length := 1, further := 1,
        low := if number = 0xE0 then 0xA0 else 0x80, high := if number = 0xED then 0x9F else 0xBF } := by
  have bound : number < 256 := by omega
  simp only [leading, ofNat_lt_iff bound, ofNat_beq bound, UInt8.reduceToNat,
    toNat_ofNat_of_lt bound, decide_eq_true_eq]
  rw [if_neg (by omega), if_neg (by omega), if_neg (by omega), if_pos high]

/-- The first of four bytes. -/
theorem leading_of_four (low : 0xF0 ≤ number) (high : number < 0xF5) :
    leading (UInt8.ofNat number) = .more
      { value := number - 0xF0, length := 1, further := 2,
        low := if number = 0xF0 then 0x90 else 0x80, high := if number = 0xF4 then 0x8F else 0xBF } := by
  have bound : number < 256 := by omega
  simp only [leading, ofNat_lt_iff bound, ofNat_beq bound, UInt8.reduceToNat,
    toNat_ofNat_of_lt bound, decide_eq_true_eq]
  rw [if_neg (by omega), if_neg (by omega), if_neg (by omega), if_neg (by omega), if_pos high]

/-- The value of a byte within the bounds of a character that has begun. -/
theorem next_of_bounds {pending : Pending} (low : pending.low.toNat ≤ number)
    (high : number ≤ pending.high.toNat) : pending.next (UInt8.ofNat number) =
      match pending.further with
      | 0 => .character (Char.ofNat (pending.value * 64 + (number - 0x80)))
      | further + 1 =>
        .more { value := pending.value * 64 + (number - 0x80), length := pending.length + 1, further } := by
  have bound : number < 256 := Nat.lt_of_le_of_lt high pending.high.toNat_lt
  have inside : pending.low ≤ UInt8.ofNat number ∧ UInt8.ofNat number ≤ pending.high := by
    simp only [UInt8.le_iff_toNat_le, toNat_ofNat_of_lt bound]
    exact ⟨low, high⟩
  rw [Pending.next, if_pos inside]
  cases pending.further with
  | zero =>
    dsimp only
    rw [toNat_ofNat_of_lt bound]
  | succ further =>
    dsimp only
    rw [toNat_ofNat_of_lt bound]

section Bytes

variable {value length further : Nat} {low high : UInt8} {code : Nat}

/-- A byte that is not the last one adds six bits to a character. -/
theorem decodeFrom_more (done : List Char) (index : Nat) (rest : List UInt8)
    (least : low.toNat ≤ code % 64 + 128) (greatest : code % 64 + 128 ≤ high.toNat) :
    decodeFrom done index (some ⟨value, length, further + 1, low, high⟩)
        (UInt8.ofNat (code % 64 + 128) :: rest) =
      decodeFrom done index
        (some { value := value * 64 + code % 64, length := length + 1, further }) rest := by
  rw [decodeFrom, next_of_bounds least greatest]
  dsimp only
  rw [Nat.add_sub_cancel]

/-- The last byte adds six bits to a character and completes it. -/
theorem decodeFrom_last (done : List Char) (index : Nat) (rest : List UInt8)
    (least : low.toNat ≤ code % 64 + 128) (greatest : code % 64 + 128 ≤ high.toNat) :
    decodeFrom done index (some ⟨value, length, 0, low, high⟩)
        (UInt8.ofNat (code % 64 + 128) :: rest) =
      decodeFrom (Char.ofNat (value * 64 + code % 64) :: done) (index + length + 1) none rest := by
  rw [decodeFrom, next_of_bounds least greatest]
  dsimp only
  rw [Nat.add_sub_cancel]

/-- Six bits with the mark of a further byte are within its bounds. -/
theorem further_bounds (code : Nat) :
    (0x80 : UInt8).toNat ≤ code % 64 + 128 ∧ code % 64 + 128 ≤ (0xBF : UInt8).toNat := by
  simp only [UInt8.reduceToNat]
  omega

/-- Two bytes are a character of at most eleven bits. -/
theorem decodeFrom_two (done : List Char) (index : Nat) (rest : List UInt8)
    (least : 0x80 ≤ code) (greatest : code < 0x800) :
    decodeFrom done index none
        (UInt8.ofNat (code / 64 % 32 + 192) :: UInt8.ofNat (code % 64 + 128) :: rest) =
      decodeFrom (Char.ofNat code :: done) (index + 2) none rest := by
  obtain ⟨low, high⟩ := further_bounds code
  have whole : (code / 64 % 32 + 192 - 192) * 64 + code % 64 = code := by omega
  rw [decodeFrom, leading_of_two (by omega) (by omega)]
  dsimp only
  rw [decodeFrom_last _ _ _ low high, whole]

/-- Three bytes are a character of at most sixteen bits that is not half of another one. -/
theorem decodeFrom_three (done : List Char) (index : Nat) (rest : List UInt8)
    (least : 0x800 ≤ code) (greatest : code < 0x10000) (valid : code < 0xD800 ∨ 0xDFFF < code) :
    decodeFrom done index none
        (UInt8.ofNat (code / 4096 % 16 + 224) :: UInt8.ofNat (code / 64 % 64 + 128) ::
          UInt8.ofNat (code % 64 + 128) :: rest) =
      decodeFrom (Char.ofNat code :: done) (index + 3) none rest := by
  obtain ⟨low, high⟩ := further_bounds code
  have whole : ((code / 4096 % 16 + 224 - 224) * 64 + code / 64 % 64) * 64 + code % 64 = code := by
    omega
  rw [decodeFrom, leading_of_three (by omega) (by omega)]
  dsimp only
  rw [decodeFrom_more _ _ _ (by split <;> simp only [UInt8.reduceToNat] <;> omega)
    (by split <;> simp only [UInt8.reduceToNat] <;> omega), decodeFrom_last _ _ _ low high, whole]

/-- Four bytes are a character of more bits. -/
theorem decodeFrom_four (done : List Char) (index : Nat) (rest : List UInt8)
    (least : 0x10000 ≤ code) (greatest : code < 0x110000) :
    decodeFrom done index none
        (UInt8.ofNat (code / 262144 % 8 + 240) :: UInt8.ofNat (code / 4096 % 64 + 128) ::
          UInt8.ofNat (code / 64 % 64 + 128) :: UInt8.ofNat (code % 64 + 128) :: rest) =
      decodeFrom (Char.ofNat code :: done) (index + 4) none rest := by
  obtain ⟨low, high⟩ := further_bounds code
  obtain ⟨middleLow, middleHigh⟩ := further_bounds (code / 64)
  have whole : (((code / 262144 % 8 + 240 - 240) * 64 + code / 4096 % 64) * 64 +
      code / 64 % 64) * 64 + code % 64 = code := by omega
  rw [decodeFrom, leading_of_four (by omega) (by omega)]
  dsimp only
  rw [decodeFrom_more _ _ _ (by split <;> simp only [UInt8.reduceToNat] <;> omega)
    (by split <;> simp only [UInt8.reduceToNat] <;> omega),
    decodeFrom_more _ _ _ middleLow middleHigh, decodeFrom_last _ _ _ low high, whole]

end Bytes

/-- The bytes of a character add it to the characters before. -/
theorem decodeFrom_character (done : List Char) (index : Nat) (character : Char) (rest : List UInt8) :
    ∃ further, decodeFrom done index none (String.utf8EncodeChar character ++ rest) =
      decodeFrom (character :: done) further none rest := by
  have valid : character.val.toNat < 0xD800 ∨
      0xDFFF < character.val.toNat ∧ character.val.toNat < 0x110000 := character.valid
  have same : Char.ofNat character.val.toNat = character := Char.ofNat_toNat character
  unfold String.utf8EncodeChar
  generalize character.val.toNat = code at valid same
  subst same
  dsimp only
  split
  · rename_i one
    have small : UInt8.ofNat code < 0x80 := by
      rw [ofNat_lt_iff (by omega)]
      exact Nat.lt_succ_of_le one
    have first : leading (UInt8.ofNat code) = .character (Char.ofNat code) := by
      rw [leading, if_pos small, toNat_ofNat_of_lt (by omega)]
    rw [List.singleton_append, decodeFrom, first]
    exact ⟨index + 1, rfl⟩
  · split
    · exact ⟨index + 2, decodeFrom_two done index rest (by omega) (by omega)⟩
    · split
      · exact ⟨index + 3, decodeFrom_three done index rest (by omega) (by omega) (by omega)⟩
      · exact ⟨index + 4, decodeFrom_four done index rest (by omega) (by omega)⟩

/-- The bytes of a text are decoded to the text. -/
theorem decode_encode (text : String) : decode (encode text) = .ok text := by
  have decoded : ∀ (characters done : List Char) (index : Nat),
      decodeFrom done index none (characters.flatMap String.utf8EncodeChar) =
        .ok (done.reverse ++ characters) := by
    intro characters
    induction characters with
    | nil => simp [decodeFrom]
    | cons first rest ih =>
      intro done index
      obtain ⟨further, read⟩ :=
        decodeFrom_character done index first (rest.flatMap String.utf8EncodeChar)
      rw [List.flatMap_cons, read, ih]
      simp
  rw [decode, encode, decoded]
  simp [Except.map]

/-- Nothing is replaced in what can be decoded. -/
theorem decodeLossyFrom_eq {characters done : List Char} {index : Nat} {pending : Option Pending}
    (decoded : decodeFrom done index pending bytes = .ok characters) :
    decodeLossyFrom done pending bytes = characters := by
  induction bytes generalizing done index pending with
  | nil =>
    cases pending with
    | none =>
      cases decoded
      rfl
    | some begun => cases decoded
  | cons first rest ih =>
    cases pending with
    | none =>
      simp only [decodeFrom, decodeLossyFrom] at decoded ⊢
      cases step : leading first with
      | character value =>
        rw [step] at decoded
        exact ih decoded
      | more begun =>
        rw [step] at decoded
        exact ih decoded
      | refused =>
        rw [step] at decoded
        cases decoded
    | some begun =>
      simp only [decodeFrom, decodeLossyFrom] at decoded ⊢
      cases step : begun.next first with
      | character value =>
        rw [step] at decoded
        exact ih decoded
      | more further =>
        rw [step] at decoded
        exact ih decoded
      | refused =>
        rw [step] at decoded
        cases decoded

/-- The bytes of a text are decoded to the text, with nothing replaced. -/
theorem decodeLossy_encode (text : String) : decodeLossy (encode text) = text := by
  have decoded := decode_encode text
  unfold decode at decoded
  cases read : decodeFrom [] 0 none (encode text) with
  | error fault =>
    rw [read] at decoded
    cases decoded
  | ok characters =>
    rw [read] at decoded
    cases decoded
    rw [decodeLossy, decodeLossyFrom_eq read]

/-- A byte below 128 among those of a character is the character. -/
theorem eq_of_mem_encodeChar {character : Char} (member : byte ∈ String.utf8EncodeChar character)
    (single : byte.toNat < 128) : byte.toNat = character.toNat := by
  unfold String.utf8EncodeChar at member
  change byte.toNat = character.val.toNat
  generalize character.val.toNat = code at member
  dsimp only at member
  split at member
  · obtain rfl := List.mem_singleton.mp member
    exact toNat_ofNat_of_lt (by omega)
  · -- Every byte of a longer character has its highest bit set.
    exfalso
    split at member
    · simp only [List.mem_cons, List.not_mem_nil, or_false] at member
      obtain rfl | rfl := member <;> rw [UInt8.toNat_ofNat'] at single <;> omega
    · split at member
      · simp only [List.mem_cons, List.not_mem_nil, or_false] at member
        obtain rfl | rfl | rfl := member <;> rw [UInt8.toNat_ofNat'] at single <;> omega
      · simp only [List.mem_cons, List.not_mem_nil, or_false] at member
        obtain rfl | rfl | rfl | rfl := member <;> rw [UInt8.toNat_ofNat'] at single <;> omega

/-- A byte below 128 among those of a text is one of its characters. -/
theorem exists_of_mem_encode {text : String} (member : byte ∈ encode text)
    (single : byte.toNat < 128) : ∃ character ∈ text.toList, byte.toNat = character.toNat := by
  obtain ⟨character, found, inside⟩ := List.mem_flatMap.mp member
  exact ⟨character, found, eq_of_mem_encodeChar inside single⟩

end Characters

end DecompileServer.Utf8
