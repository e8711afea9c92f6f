/-
**What a shadow is judged to be.**

A property that a device reported is looked up by three keys. The judgement has four ends: the document
cannot be understood, a key is missing, the value is as expected, or it differs.

* `IsGap` — the shortest part of a path that leads nowhere, and why it does;
* `lookUp_eq_error_iff` — a look-up fails **with exactly this part**;
* `quoted_ne_render_of_differs` — a value that differs is shown differently from what was expected;
* `judgeShadow_decides` — **what a shadow is judged to be**, for every document.
-/

import DeviceTrial.Expectation
import DeviceTrial.Proofs.Json.Quoting

namespace DeviceTrial

open Json (Value)

/-! ### Following keys -/

/-- A value has no member for a key when it is no object, or an object without the key. -/
theorem Json.Value.member?_eq_none_iff {value : Value} {key : String} :
    value.member? key = none ↔ (∀ members, value ≠ .object members) ∨
      ∃ members, value = .object members ∧ key ∉ members.map Prod.fst := by
  cases value with
  | object members =>
    rw [member?_object, Option.map_eq_none_iff, List.find?_eq_none]
    constructor
    · refine fun absent => .inr ⟨members, rfl, fun inside => ?_⟩
      obtain ⟨member, known, rfl⟩ := List.mem_map.mp inside
      exact absent member known (beq_self_eq_true _)
    · rintro (other | ⟨_, same, absent⟩) member known
      · exact absurd rfl (other members)
      · cases same
        exact fun same => absent (List.mem_map.mpr ⟨member, known, eq_of_beq same⟩)
  | null | bool | whole | float | text | array =>
    exact ⟨fun _ => .inl nofun, fun _ => rfl⟩

theorem leads_cons_iff {key : String} {keys : List String} {start last : Value} :
    Leads (key :: keys) start last ↔
      ∃ member, start.member? key = some member ∧ Leads keys member last := by
  constructor
  · rintro (_ | ⟨found, rest⟩)
    exact ⟨_, found, rest⟩
  · rintro ⟨member, found, rest⟩
    exact .step found rest

/-- That some keys are the shortest part of a path that leads nowhere. -/
structure IsGap (start : Value) (path gap : List String) : Prop where
  /-- The keys are a part of the path from its start. -/
  isPart : gap <+: path
  /-- The shorter parts lead to values, and no others do. -/
  shortest : ∀ part, part <+: path → ((∃ value, Leads part start value) ↔ part.length < gap.length)
  /-- The last key has no value, or no object to be looked up in. -/
  broken : ∃ before key parent, gap = before ++ [key] ∧ Leads before start parent ∧
    ((∀ members, parent ≠ .object members) ∨
      ∃ members, parent = .object members ∧ key ∉ members.map Prod.fst)

namespace IsGap

variable {start member : Value} {path gap : List String} {key : String}

/-- The first key is missing. -/
theorem here (absent : start.member? key = none) : IsGap start (key :: path) [key] where
  isPart := List.cons_prefix_cons.mpr ⟨rfl, List.nil_prefix⟩
  shortest part isPart := by
    cases part with
    | nil => exact iff_of_true ⟨start, .here start⟩ Nat.zero_lt_one
    | cons other part =>
      obtain ⟨rfl, -⟩ := List.cons_prefix_cons.mp isPart
      refine iff_of_false ?_ (Nat.not_lt.mpr (Nat.le_add_left _ _))
      rintro ⟨value, leads⟩
      obtain ⟨member, found, -⟩ := leads_cons_iff.mp leads
      cases absent.symm.trans found
  broken := ⟨[], key, start, rfl, .here start, Value.member?_eq_none_iff.mp absent⟩

/-- A later key is missing. -/
theorem step (found : start.member? key = some member) (later : IsGap member path gap) :
    IsGap start (key :: path) (key :: gap) where
  isPart := List.cons_prefix_cons.mpr ⟨rfl, later.isPart⟩
  shortest part isPart := by
    cases part with
    | nil => exact iff_of_true ⟨start, .here start⟩ (Nat.succ_pos _)
    | cons other part =>
      obtain ⟨rfl, rest⟩ := List.cons_prefix_cons.mp isPart
      rw [List.length_cons, List.length_cons, Nat.add_lt_add_iff_right, ← later.shortest part rest]
      simp [leads_cons_iff, found]
  broken := by
    obtain ⟨before, last, parent, rfl, leads, reason⟩ := later.broken
    exact ⟨key :: before, last, parent, rfl, .step found leads, reason⟩

/-- The whole path leads nowhere. -/
theorem not_leads (isGap : IsGap start path gap) (value : Value) : ¬ Leads path start value :=
  fun leads => absurd ((isGap.shortest path (List.prefix_refl path)).mp ⟨value, leads⟩)
    (Nat.not_lt.mpr isGap.isPart.length_le)

/-- There is only one. -/
theorem unique {other : List String} (isGap : IsGap start path gap)
    (also : IsGap start path other) : gap = other := by
  have bounds : ∀ {one two : List String}, IsGap start path one → IsGap start path two →
      one.length ≤ two.length := by
    intro one two isGap also
    refine Nat.not_lt.mp fun shorter => ?_
    exact Nat.lt_irrefl _ ((also.shortest two also.isPart).mp
      ((isGap.shortest two also.isPart).mpr shorter))
  have length := Nat.le_antisymm (bounds isGap also) (bounds also isGap)
  exact (List.prefix_of_prefix_length_le isGap.isPart also.isPart (Nat.le_of_eq length)).eq_of_length
    length

end IsGap

/-- **A look-up fails with the shortest part of the path that leads nowhere.** -/
theorem lookUp_eq_error_iff (passed path : List String) (start : Value) (lost : List String) :
    lookUp passed path start = .error lost ↔ ∃ gap, IsGap start path gap ∧ lost = passed ++ gap := by
  have fails : ∀ {passed path : List String} {start : Value} {lost : List String},
      lookUp passed path start = .error lost → ∃ gap, IsGap start path gap ∧ lost = passed ++ gap := by
    intro passed path
    induction path generalizing passed with
    | nil => nofun
    | cons key path step =>
      intro start lost failed
      cases found : start.member? key with
      | none =>
        rw [lookUp, found] at failed
        cases failed
        exact ⟨[key], .here found, rfl⟩
      | some member =>
        rw [lookUp, found] at failed
        obtain ⟨gap, isGap, rfl⟩ := step failed
        exact ⟨key :: gap, .step found isGap, List.append_assoc _ _ _⟩
  refine ⟨fails, ?_⟩
  rintro ⟨gap, isGap, rfl⟩
  cases outcome : lookUp passed path start with
  | ok value => exact absurd ((lookUp_eq_ok_iff _ _ _ _).mp outcome) (isGap.not_leads value)
  | error lost =>
    obtain ⟨other, also, rfl⟩ := fails outcome
    rw [isGap.unique also]

/-! ### Comparing values -/

/-- That a value is as expected: it is the expected text, or it is no text and its compact text is the
expected one. -/
def IsExpected (expected : String) (value : Value) : Prop :=
  value = .text expected ∨ (∀ text, value ≠ .text text) ∧ value.render = expected

theorem agrees_eq_true_iff {expected : String} {value : Value} :
    agrees expected value = true ↔ IsExpected expected value := by
  cases value <;> simp [agrees, IsExpected]

/-- **A value that differs is shown differently from what was expected.** -/
theorem quoted_ne_render_of_differs {expected : String} {value : Value}
    (differs : ¬ IsExpected expected value) : Json.quoted expected ≠ value.render := by
  by_cases isText : ∃ text, value = .text text
  · obtain ⟨text, rfl⟩ := isText
    intro same
    rw [Value.render] at same
    exact differs (.inl (congrArg Value.text (Json.quoted_injective same).symm))
  · exact Value.quoted_ne_render (fun text same => isText ⟨text, same⟩) expected

/-! ### Shadows -/

/-- A document is refused for the gap on the way to the property, or for a value that differs. -/
theorem judgeDocument_eq_error_iff (property expected : String) (document : Value)
    (fault : Discrepancy) :
    judgeDocument property expected document = .error fault ↔
      (∃ gap, IsGap document (reportedPath property) gap ∧ fault = .missingField (dotted gap)) ∨
      ∃ value, Leads (reportedPath property) document value ∧ ¬ IsExpected expected value ∧
        fault = .differs (dotted (reportedPath property)) (Json.quoted expected) value.render := by
  simp only [← lookUp_eq_ok_iff [], ← agrees_eq_true_iff]
  unfold judgeDocument
  cases found : lookUp [] (reportedPath property) document with
  | error lost =>
    obtain ⟨gap, isGap, same⟩ := (lookUp_eq_error_iff _ _ _ _).mp found
    rw [List.nil_append] at same
    constructor
    · intro failed
      exact .inl ⟨gap, isGap, same ▸ (Except.error.inj failed).symm⟩
    · rintro (⟨other, also, rfl⟩ | ⟨value, leads, -⟩)
      · rw [same, isGap.unique also]
      · cases leads
  | ok value =>
    have leads := (lookUp_eq_ok_iff _ _ _ _).mp found
    constructor
    · intro failed
      dsimp only at failed
      split at failed
      · cases failed
      · rename_i differs
        exact .inr ⟨value, rfl, differs, (Except.error.inj failed).symm⟩
    · rintro (⟨gap, isGap, -⟩ | ⟨other, same, differs, rfl⟩)
      · exact absurd leads (isGap.not_leads value)
      · cases same
        exact if_neg differs

/-- **What a shadow is judged to be.** A payload that cannot be understood is a failed question. Of a
document, the reported property is as expected, or a key on the way is missing, or the value differs
and is shown differently. -/
theorem judgeShadow_decides (payload : ByteArray) (property expected : String) :
    match decodeDocument? payload with
    | none => ∃ reason,
        judgeShadow payload property expected = .error (.queryFailed (undecodable ++ reason))
    | some document =>
      (judgeShadow payload property expected = .ok () ↔
        ∃ value, Leads (reportedPath property) document value ∧ IsExpected expected value) ∧
      ((¬ ∃ value, Leads (reportedPath property) document value) ↔
        ∃ gap, IsGap document (reportedPath property) gap ∧
          judgeShadow payload property expected = .error (.missingField (dotted gap))) ∧
      ∀ path wanted actual,
        judgeShadow payload property expected = .error (.differs path wanted actual) →
        path = dotted (reportedPath property) ∧ wanted = Json.quoted expected ∧
          (∃ value, Leads (reportedPath property) document value ∧ actual = value.render) ∧
          wanted ≠ actual := by
  unfold judgeShadow
  cases decodeDocument? payload with
  | none => exact ⟨_, rfl⟩
  | some document =>
    dsimp only
    refine ⟨?_, ⟨fun none => ?_, ?_⟩, fun path wanted actual failed => ?_⟩
    · rw [judgeDocument_eq_ok_iff]
      simp only [agrees_eq_true_iff]
    · cases found : lookUp [] (reportedPath property) document with
      | ok value => exact absurd ⟨value, (lookUp_eq_ok_iff _ _ _ _).mp found⟩ none
      | error lost =>
        obtain ⟨gap, isGap, -⟩ := (lookUp_eq_error_iff _ _ _ _).mp found
        exact ⟨gap, isGap, (judgeDocument_eq_error_iff _ _ _ _).mpr (.inl ⟨gap, isGap, rfl⟩)⟩
    · rintro ⟨gap, isGap, -⟩ ⟨value, leads⟩
      exact isGap.not_leads value leads
    · rcases (judgeDocument_eq_error_iff _ _ _ _).mp failed with
        ⟨gap, -, wrong⟩ | ⟨value, leads, differs, same⟩
      · cases wrong
      · cases same
        exact ⟨rfl, rfl, ⟨value, leads, rfl⟩, quoted_ne_render_of_differs differs⟩

end DeviceTrial
