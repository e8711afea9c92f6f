/-
**Run tags and identity names.**

A run tag is the last part of the name of everything that a trial makes, so it is written in the
alphabet of thing names and is at most as long as a thing name. Both are part of the type.

* `read_eq_ok_iff` — a text is a run tag when it is `IsTag`, and then it is the tag's text;
* `identityName_eq_ok_iff` — when a name can be made of a front part and a tag, and which one it is.
-/

import DeviceTrial.Error.Setting

namespace DeviceTrial

/-- The longest thing name, in bytes. -/
def longestIdentity : Nat := 128

/-- Whether a character may stand in a thing name: ASCII letters and digits, `_`, `-`, `:`. -/
def isIdentityChar (c : Char) : Bool :=
  c.isAlphanum || c == '_' || c == '-' || c == ':'

/-- Whether every character of a text may stand in a thing name. -/
def isIdentityText (text : String) : Bool := text.toList.all isIdentityChar

/-- Whether a text can be a run tag: not empty, not too long, and in the alphabet. -/
def IsTag (text : String) : Prop :=
  text.isEmpty = false ∧ text.utf8ByteSize ≤ longestIdentity ∧ isIdentityText text = true

instance (text : String) : Decidable (IsTag text) := by unfold IsTag; infer_instance

/-- One letter is a tag. -/
theorem isTag_a : IsTag "a" := by decide

/-- The tag of one run. -/
structure RunTag where
  /-- The text of the tag. -/
  text : String
  /-- The text is in the form of a tag. -/
  valid : IsTag text

namespace RunTag

instance : DecidableEq RunTag := fun left right =>
  decidable_of_iff (left.text = right.text)
    ⟨fun same => by cases left; cases right; cases same; rfl, fun same => same ▸ rfl⟩

/-- Reads a tag. An empty text is refused first, then one that is too long, and then one with
characters that are not allowed. -/
def read (text : String) : Except SettingError RunTag :=
  if empty : text.isEmpty = true then .error (.invalidValue "input_uuid" "must not be empty")
  else if size : longestIdentity < text.utf8ByteSize then
    .error (.invalidValue "input_uuid" s!"length {text.utf8ByteSize} exceeds {longestIdentity}")
  else if alphabet : isIdentityText text = true then
    .ok ⟨text, by simpa using empty, Nat.le_of_not_lt size, alphabet⟩
  else .error (.invalidValue "input_uuid"
    "may only contain ASCII letters, digits, '_', '-' and ':'")

theorem read_eq_ok_iff (text : String) (tag : RunTag) :
    read text = .ok tag ↔ IsTag text ∧ tag.text = text := by
  unfold read
  by_cases empty : text.isEmpty = true
  · simp only [empty, dif_pos]
    exact ⟨fun wrong => (by cases wrong), fun right => by simp [IsTag, empty] at right⟩
  · rw [dif_neg empty]
    by_cases size : longestIdentity < text.utf8ByteSize
    · rw [dif_pos size]
      refine ⟨fun wrong => (by cases wrong), fun right => ?_⟩
      exact absurd right.1.2.1 (Nat.not_le_of_lt size)
    · rw [dif_neg size]
      by_cases alphabet : isIdentityText text = true
      · rw [dif_pos alphabet]
        constructor
        · intro same
          cases same
          exact ⟨⟨by simpa using empty, Nat.le_of_not_lt size, alphabet⟩, rfl⟩
        · rintro ⟨_, same⟩
          cases tag
          cases same
          rfl
      · rw [dif_neg alphabet]
        exact ⟨fun wrong => (by cases wrong), fun right => absurd right.1.2.2 alphabet⟩

/-- The name of the identity of a run: `front` and then the tag. The characters of `front` are
looked at first, and then the length of the name. -/
def identityName (tag : RunTag) (front : String) : Except SettingError String :=
  if isIdentityText front then
    let name := front ++ tag.text
    if longestIdentity < name.utf8ByteSize then
      .error (.invalidValue "thing_name_prefix"
        s!"identity name '{name}' exceeds {longestIdentity} characters")
    else .ok name
  else .error (.invalidValue "thing_name_prefix"
    s!"'{front}' contains characters not allowed in thing names")

theorem identityName_eq_ok_iff (tag : RunTag) (front name : String) :
    tag.identityName front = .ok name ↔
      isIdentityText front = true ∧ (front ++ tag.text).utf8ByteSize ≤ longestIdentity ∧
        name = front ++ tag.text := by
  unfold identityName
  by_cases alphabet : isIdentityText front = true
  · by_cases size : longestIdentity < (front ++ tag.text).utf8ByteSize
    · simp only [alphabet, if_true, size]
      exact ⟨fun wrong => (by cases wrong), fun right => absurd right.2.1 (Nat.not_le_of_lt size)⟩
    · simp only [alphabet, if_true, size, if_false, Except.ok.injEq]
      exact ⟨fun same => ⟨trivial, Nat.le_of_not_lt size, same.symm⟩, fun right => right.2.2.symm⟩
  · simp only [alphabet]
    exact ⟨fun wrong => (by cases wrong), fun right => absurd right.1 (by simp)⟩

/-! ### The size of texts in the alphabet -/

/-- The letters of ASCII, by their codes. -/
theorem isAlpha_iff (c : Char) :
    c.isAlpha = true ↔ (65 ≤ c.val ∧ c.val ≤ 90) ∨ 97 ≤ c.val ∧ c.val ≤ 122 := by
  have ranges : c.isAlpha = (decide (65 ≤ c.val ∧ c.val ≤ 90) ||
      (decide (97 ≤ c.val) && decide (c.val ≤ 122))) := rfl
  rw [ranges, Bool.or_eq_true, Bool.and_eq_true]
  simp only [decide_eq_true_eq]

theorem utf8Size_of_isIdentityChar {c : Char} (allowed : isIdentityChar c = true) :
    c.utf8Size = 1 := by
  rw [Char.utf8Size_eq_one_iff]
  simp only [isIdentityChar, Char.isAlphanum, isAlpha_iff, Char.isDigit, Bool.or_eq_true,
    Bool.and_eq_true, decide_eq_true_eq, beq_iff_eq] at allowed
  rcases allowed with (((((letter | letter) | digit) | rfl) | rfl) | rfl)
  · exact UInt32.le_trans letter.2 (by decide)
  · exact UInt32.le_trans letter.2 (by decide)
  · exact UInt32.le_trans digit.2 (by decide)
  all_goals decide

theorem utf8ByteSize_ofList (cs : List Char) :
    (String.ofList cs).utf8ByteSize = cs.foldr (fun c size => c.utf8Size + size) 0 := by
  induction cs with
  | nil => rfl
  | cons c cs step =>
    have split : String.ofList (c :: cs) = String.singleton c ++ String.ofList cs := by
      rw [← String.ofList_toList (s := String.singleton c), ← String.ofList_append]
      simp
    rw [split, String.utf8ByteSize_append, String.utf8ByteSize_singleton, step]
    rfl

/-- In the alphabet of thing names a text has as many bytes as characters. -/
theorem utf8ByteSize_of_allowed {cs : List Char}
    (allowed : ∀ c ∈ cs, isIdentityChar c = true) :
    (String.ofList cs).utf8ByteSize = cs.length := by
  rw [utf8ByteSize_ofList]
  induction cs with
  | nil => rfl
  | cons c cs step =>
    have first := utf8Size_of_isIdentityChar (allowed c (by simp))
    have rest := step fun c' inside => allowed c' (by simp [inside])
    rw [List.foldr_cons, first, rest, List.length_cons, Nat.add_comm]

/-! ### Fresh tags -/

/-- The lower-case hexadecimal digit of a number below sixteen. -/
def hexDigit (n : Nat) : Char :=
  if n < 10 then Char.ofNat (48 + n) else Char.ofNat (87 + n)

/-- The two lower-case hexadecimal digits of a byte. -/
def hexByte (byte : Nat) : List Char := [hexDigit (byte / 16 % 16), hexDigit (byte % 16)]

/-- The byte at a position of a random tag: the high half of the seventh byte is 4, and the ninth
byte starts with the bits 10. -/
def stampedByte (bytes : Nat → Nat) (i : Nat) : Nat :=
  if i = 6 then 64 + bytes i % 16 else if i = 8 then 128 + bytes i % 64 else bytes i % 256

/-- The hexadecimal digits of `count` bytes from the position `first` on. -/
def hexGroup (bytes : Nat → Nat) (first count : Nat) : List Char :=
  (List.range count).flatMap fun i => hexByte (stampedByte bytes (first + i))

/-- The characters of a random tag: sixteen bytes in groups of 4, 2, 2, 2 and 6 bytes. -/
def randomChars (bytes : Nat → Nat) : List Char :=
  hexGroup bytes 0 4 ++ ['-'] ++ hexGroup bytes 4 2 ++ ['-'] ++ hexGroup bytes 6 2 ++ ['-']
    ++ hexGroup bytes 8 2 ++ ['-'] ++ hexGroup bytes 10 6

theorem hexDigit_allowed (n : Nat) (small : n < 16) : isIdentityChar (hexDigit n) = true := by
  revert n; decide

theorem hexGroup_allowed (bytes : Nat → Nat) (first count : Nat) :
    ∀ c ∈ hexGroup bytes first count, isIdentityChar c = true := by
  intro c inside
  simp only [hexGroup, List.mem_flatMap, hexByte, List.mem_cons, List.not_mem_nil,
    or_false] at inside
  obtain ⟨_, _, rfl | rfl⟩ := inside
  · exact hexDigit_allowed _ (Nat.mod_lt _ (by decide))
  · exact hexDigit_allowed _ (Nat.mod_lt _ (by decide))

theorem length_hexGroup (bytes : Nat → Nat) (first count : Nat) :
    (hexGroup bytes first count).length = 2 * count := by
  simp [hexGroup, hexByte, List.length_flatMap, List.map_const', Nat.mul_comm]

theorem randomChars_allowed (bytes : Nat → Nat) :
    ∀ c ∈ randomChars bytes, isIdentityChar c = true := by
  intro c inside
  have dash : isIdentityChar '-' = true := by decide
  simp only [randomChars, List.mem_append, List.mem_singleton] at inside
  rcases inside with (((((((h | rfl) | h) | rfl) | h) | rfl) | h) | rfl) | h
  all_goals first | exact hexGroup_allowed _ _ _ c h | exact dash

theorem length_randomChars (bytes : Nat → Nat) : (randomChars bytes).length = 36 := by
  simp [randomChars, length_hexGroup]

theorem isTag_randomChars (bytes : Nat → Nat) : IsTag (String.ofList (randomChars bytes)) := by
  have size : (String.ofList (randomChars bytes)).utf8ByteSize = 36 := by
    rw [utf8ByteSize_of_allowed (randomChars_allowed bytes), length_randomChars]
  refine ⟨?_, ?_, ?_⟩
  · rw [String.isEmpty_eq_utf8ByteSize_beq_zero, size]; rfl
  · rw [size]; decide
  · simpa [isIdentityText, String.toList_ofList] using randomChars_allowed bytes

/-- The random tag that sixteen random bytes give. -/
def random (bytes : Nat → Nat) : RunTag :=
  ⟨String.ofList (randomChars bytes), isTag_randomChars bytes⟩

instance : Inhabited RunTag := ⟨random fun _ => 0⟩

end RunTag

end DeviceTrial
