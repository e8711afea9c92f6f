/-
**Run tags and the names of identities.**

Things are named in a small alphabet and with a limited length. Tags are written in the same way, and
a name is a front part followed by the tag, so the names of two runs differ when their tags do.

* `isTag_iff` — the form of a tag, which is measured in bytes, is that of a name, measured in
  characters;
* `identityName_iff` — which names there are for a tag;
* `tags_name_runs` — **every way to make a tag takes the names and no other texts**, and the names of
  identities tell runs apart.
-/

import DeviceTrial.Json.Named
import DeviceTrial.Proofs.Json.Quoting
import DeviceTrial.Proofs.Settings.Precedence

namespace DeviceTrial

/-! ### Names -/

/-- That a character may stand in the name of a thing. -/
def IsNameChar (c : Char) : Prop :=
  ('A' ≤ c ∧ c ≤ 'Z') ∨ ('a' ≤ c ∧ c ≤ 'z') ∨ ('0' ≤ c ∧ c ≤ '9') ∨ c = '_' ∨ c = ':' ∨ c = '-'

/-- That a text may be the name of a thing. -/
structure IsName (text : String) : Prop where
  /-- It has a character. -/
  some : 1 ≤ text.length
  /-- It has no more than 128 of them. -/
  most : text.length ≤ 128
  /-- All of them are in the alphabet. -/
  alphabet : ∀ c ∈ text.toList, IsNameChar c

theorem isIdentityChar_iff (c : Char) : isIdentityChar c = true ↔ IsNameChar c := by
  simp only [isIdentityChar, Char.isAlphanum, RunTag.isAlpha_iff, Char.isDigit, Bool.or_eq_true,
    Bool.and_eq_true, decide_eq_true_eq, beq_iff_eq, IsNameChar]
  constructor
  · rintro (((((upper | lower) | digit) | rfl) | rfl) | rfl)
    · exact .inl upper
    · exact .inr (.inl lower)
    · exact .inr (.inr (.inl digit))
    all_goals simp
  · rintro (upper | lower | digit | rfl | rfl | rfl)
    · exact .inl (.inl (.inl (.inl (.inl upper))))
    · exact .inl (.inl (.inl (.inl (.inr lower))))
    · exact .inl (.inl (.inl (.inr digit)))
    all_goals simp

theorem isIdentityText_iff (text : String) :
    isIdentityText text = true ↔ ∀ c ∈ text.toList, IsNameChar c := by
  simp only [isIdentityText, List.all_eq_true, isIdentityChar_iff]

/-- A text in the alphabet has as many bytes as characters. -/
theorem utf8ByteSize_of_names {text : String} (alphabet : ∀ c ∈ text.toList, IsNameChar c) :
    text.utf8ByteSize = text.length := by
  have size := RunTag.utf8ByteSize_of_allowed fun c inside =>
    (isIdentityChar_iff c).mpr (alphabet c inside)
  rwa [String.ofList_toList, String.length_toList] at size

/-- **The form of a tag** is that of a name. -/
theorem isTag_iff (text : String) : IsTag text ↔ IsName text := by
  have filled : text.isEmpty = false ↔ 1 ≤ text.length := by
    rw [← String.length_toList, Nat.one_le_iff_ne_zero, ne_eq, List.length_eq_zero_iff,
      String.toList_eq_nil_iff, ← String.isEmpty_iff, Bool.not_eq_true]
  constructor
  · rintro ⟨some, most, alphabet⟩
    have allowed := (isIdentityText_iff text).mp alphabet
    exact ⟨filled.mp some, (utf8ByteSize_of_names allowed) ▸ most, allowed⟩
  · rintro ⟨some, most, alphabet⟩
    exact ⟨filled.mpr some, (utf8ByteSize_of_names alphabet).symm ▸ most,
      (isIdentityText_iff text).mpr alphabet⟩

/-! ### Making tags -/

/-- That a tag is made of a text exactly if the text is a name, and that it then has this text. -/
structure Makes (text : String) (made : RunTag → Prop) : Prop where
  /-- A tag is made of a name, and of nothing else. -/
  some : (∃ tag, made tag) ↔ IsName text
  /-- The tag has the text as it is. -/
  same : ∀ tag, made tag → tag.text = text

/-- What makes the tag that has a text makes a tag of names alone. -/
theorem Makes.of_iff {text : String} {made : RunTag → Prop}
    (when : ∀ tag, made tag ↔ IsTag text ∧ tag.text = text) : Makes text made where
  some := by
    rw [← isTag_iff]
    constructor
    · rintro ⟨tag, makes⟩
      exact ((when tag).mp makes).1
    · exact fun valid => ⟨⟨text, valid⟩, (when _).mpr ⟨valid, rfl⟩⟩
  same tag makes := ((when tag).mp makes).2

theorem makes_read (text : String) : Makes text (RunTag.read text = .ok ·) :=
  .of_iff (RunTag.read_eq_ok_iff text)

/-- A tag that was given is read. -/
theorem makes_tagOf {σ : Type} (host : Host σ) (world : World σ) (text : String) :
    Makes text fun tag => ((Preparation.tagOf (some text)).runIn host world).1 = .done tag :=
  .of_iff fun tag => (Preparation.runIn_tagOf_eq_done_iff host world (some text) tag).trans
    (RunTag.read_eq_ok_iff text tag)

/-- A document is a tag if its text is one. -/
theorem makes_readTag {document text : String} (stands : Json.readText? document = some text) :
    Makes text (Json.readTag? document = some ·) := by
  refine .of_iff fun tag => ?_
  rw [Json.readTag?_eq_some_iff, stands, Option.some.injEq]
  constructor
  · rintro rfl
    exact ⟨tag.valid, rfl⟩
  · exact fun same => same.2.symm

/-- Every text has a document. -/
theorem Json.readText?_quoted (text : String) : readText? (quoted text) = some text := by
  rw [readText?, Syntax.read?_quoted]
  exact textOf?_pieces text

/-! ### Names of identities -/

/-- **Which names there are for a tag**: the front part is in the alphabet, and the whole is not too
long. -/
theorem identityName_iff (tag : RunTag) (front name : String) :
    tag.identityName front = .ok name ↔ (∀ c ∈ front.toList, IsNameChar c) ∧
      (front ++ tag.text).utf8ByteSize ≤ 128 ∧ name = front ++ tag.text :=
  (tag.identityName_eq_ok_iff front name).trans
    (and_congr_left fun _ => isIdentityText_iff front)

/-- The name of an identity is a name. -/
theorem isName_of_identityName {tag : RunTag} {front name : String}
    (named : tag.identityName front = .ok name) : IsName name := by
  obtain ⟨alphabet, most, rfl⟩ := (identityName_iff tag front name).mp named
  have valid := (isTag_iff tag.text).mp tag.valid
  have allowed : ∀ c ∈ (front ++ tag.text).toList, IsNameChar c := by
    intro c inside
    rw [String.toList_append, List.mem_append] at inside
    exact inside.elim (alphabet c) (valid.alphabet c)
  refine ⟨?_, utf8ByteSize_of_names allowed ▸ most, allowed⟩
  rw [String.length_append]
  exact Nat.le_add_left_of_le valid.some

/-- A tag is known by its text. -/
theorem RunTag.text_injective : Function.Injective text := by
  intro left right same
  cases left
  cases right
  cases same
  rfl

namespace Plan

theorem isName_identity {seenFrom : Path} {settings : Settings} {request : TrialRequest}
    {plan : Plan} (built : build seenFrom settings request = .ok plan) : IsName plan.identity := by
  obtain ⟨_, _, _, -, -, named, rfl⟩ := exists_of_build built
  exact isName_of_identityName named

/-- The front part of a name comes from the settings, the family and the request alone. -/
theorem nameStart_congr (settings : Settings) {request other : TrialRequest}
    (family : request.family = other.family) (start : request.nameStart = other.nameStart) :
    nameStart settings request = nameStart settings other := by
  rw [nameStart, nameStart, family, start]

/-- **The names of two runs are equal** when their tags are. -/
theorem identity_eq_iff {seenFrom seenFrom' : Path} {settings : Settings}
    {request other : TrialRequest} {plan plan' : Plan}
    (built : build seenFrom settings request = .ok plan)
    (built' : build seenFrom' settings other = .ok plan') (family : request.family = other.family)
    (start : request.nameStart = other.nameStart) :
    plan.identity = plan'.identity ↔ request.tag = other.tag := by
  rw [identity_of_build built, identity_of_build built', nameStart_congr settings family start,
    String.append_right_inj]
  exact RunTag.text_injective.eq_iff

end Plan

/-- **Every way to make a tag takes the names and no other texts**, so there is no tag that is not a
name. With a front part a tag makes a name of an identity; that of a plan ends in the tag of the run,
and tells runs apart whose tags differ. -/
theorem tags_name_runs :
    (∀ text, Makes text (RunTag.read text = .ok ·) ∧
      (∀ {σ : Type} (host : Host σ) (world : World σ), Makes text fun tag =>
        ((Preparation.tagOf (some text)).runIn host world).1 = .done tag) ∧
      (∀ document, Json.readText? document = some text →
        Makes text (Json.readTag? document = some ·)) ∧
      Json.readText? (Json.quoted text) = some text) ∧
    (∀ tag : RunTag, IsName tag.text) ∧
    (∀ (tag : RunTag) (front name : String), tag.identityName front = .ok name ↔
      (∀ c ∈ front.toList, IsNameChar c) ∧ (front ++ tag.text).utf8ByteSize ≤ 128 ∧
        name = front ++ tag.text) ∧
    (∀ (seenFrom : Path) (settings : Settings) (request : TrialRequest) (plan : Plan),
      Plan.build seenFrom settings request = .ok plan →
        IsName plan.identity ∧ ∃ front, plan.identity = front ++ request.tag.text) ∧
    ∀ (seenFrom seenFrom' : Path) (settings : Settings) (request other : TrialRequest)
      (plan plan' : Plan), Plan.build seenFrom settings request = .ok plan →
        Plan.build seenFrom' settings other = .ok plan' → request.family = other.family →
        request.nameStart = other.nameStart →
          (plan.identity = plan'.identity ↔ request.tag = other.tag) :=
  ⟨fun text => ⟨makes_read text, fun host world => makes_tagOf host world text,
      fun _ => makes_readTag, Json.readText?_quoted text⟩,
    fun tag => (isTag_iff tag.text).mp tag.valid, identityName_iff,
    fun _ _ _ _ built => ⟨Plan.isName_identity built, _, Plan.identity_of_build built⟩,
    fun _ _ _ _ _ _ _ => Plan.identity_eq_iff⟩

/-- Two runs of the jobs family whose tags differ have different identities. -/
theorem tags_name_runs_apart :
    let request := Preparation.plainSelection.request .default
    ∃ plan plan', Plan.build .rootDirectory .default (request ⟨"r1", by decide⟩) = .ok plan ∧
      Plan.build .rootDirectory .default (request ⟨"r2", by decide⟩) = .ok plan' ∧
      plan.identity ≠ plan'.identity := by
  intro request
  have first : (Plan.build .rootDirectory .default (request ⟨"r1", by decide⟩)).isOk = true := by
    decide +kernel
  have second : (Plan.build .rootDirectory .default (request ⟨"r2", by decide⟩)).isOk = true := by
    decide +kernel
  obtain ⟨-, -, -, -, apart⟩ := tags_name_runs
  cases built : Plan.build .rootDirectory .default (request ⟨"r1", by decide⟩) with
  | error fault =>
    rw [built] at first
    cases first
  | ok plan =>
    cases built' : Plan.build .rootDirectory .default (request ⟨"r2", by decide⟩) with
    | error fault =>
      rw [built'] at second
      cases second
    | ok plan' =>
      refine ⟨plan, plan', rfl, rfl, fun same => ?_⟩
      have tags := (apart _ _ _ _ _ _ _ built built' rfl rfl).mp same
      exact absurd tags (by decide)

end DeviceTrial
