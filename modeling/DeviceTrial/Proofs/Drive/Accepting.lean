/-
**Acceptable descriptors.**

A descriptor is acceptable when it passed its check and gives each variable one value. The variables
are read into a list that is kept sorted by name, so what is read from a text is acceptable.

* `IsSorted.insertVariable` — giving a variable its value keeps the list sorted;
* `isAccepted_of_read` — **every descriptor that is read from a text** is acceptable.
-/

import DeviceTrial.Descriptor
import Mathlib.Data.String.Basic

namespace DeviceTrial

namespace Descriptor

/-- That a descriptor passed its check and gives each variable one value. -/
structure IsAccepted (descriptor : Descriptor) : Prop where
  /-- The descriptor passed its check. -/
  checked : descriptor.check = .ok ()
  /-- No variable has two values. -/
  single : (descriptor.environment.map Prod.fst).Nodup

/-- That variables are sorted by name, so that none has two values. -/
def IsSorted (entries : List (String × String)) : Prop :=
  (entries.map Prod.fst).Pairwise (· < ·)

theorem IsSorted.nodup {entries : List (String × String)} (sorted : IsSorted entries) :
    (entries.map Prod.fst).Nodup :=
  List.Pairwise.imp ne_of_lt sorted

theorem mem_names_insertVariable {name value other : String} {entries : List (String × String)}
    (inside : other ∈ (insertVariable name value entries).map Prod.fst) :
    other = name ∨ other ∈ entries.map Prod.fst := by
  induction entries with
  | nil => exact .inl (List.mem_singleton.mp inside)
  | cons entry rest step =>
    obtain ⟨first, old⟩ := entry
    unfold insertVariable at inside
    split at inside
    · rename_i same
      subst same
      exact .inr inside
    · split at inside
      · exact List.mem_cons.mp inside
      · rcases List.mem_cons.mp inside with rfl | deeper
        · exact .inr List.mem_cons_self
        · exact (step deeper).imp_right (List.mem_cons_of_mem _)

/-- **Giving a variable its value** keeps the entries sorted. -/
theorem IsSorted.insertVariable {entries : List (String × String)} (sorted : IsSorted entries)
    (name value : String) : IsSorted (insertVariable name value entries) := by
  induction entries with
  | nil => exact List.pairwise_singleton _ _
  | cons entry rest step =>
    obtain ⟨first, old⟩ := entry
    obtain ⟨before, others⟩ := List.pairwise_cons.mp sorted
    unfold Descriptor.insertVariable
    split
    · rename_i same
      subst same
      exact sorted
    · rename_i other
      split
      · rename_i smaller
        refine List.pairwise_cons.mpr ⟨fun later inside => ?_, sorted⟩
        rcases List.mem_cons.mp inside with rfl | deeper
        · exact smaller
        · exact smaller.trans (before later deeper)
      · rename_i notSmaller
        have larger : first < name := lt_of_le_of_ne (not_lt.mp notSmaller) (Ne.symm other)
        refine List.pairwise_cons.mpr ⟨fun later inside => ?_, step others⟩
        rcases mem_names_insertVariable inside with rfl | deeper
        · exact larger
        · exact before later deeper

/-- The variables of a descriptor are read one after the other. -/
theorem isSorted_of_environment? {written : Json.Syntax} {entries : List (String × String)}
    (reads : environment? written = some entries) : IsSorted entries := by
  have general : ∀ (members : List (List Json.Piece × Json.Syntax))
      (known : List (String × String)), IsSorted known →
      members.foldlM (fun known member => do
        return Descriptor.insertVariable (← Json.textOf? member.1) (← text? member.2) known) known =
        some entries → IsSorted entries := by
    intro members
    induction members with
    | nil =>
      intro known sorted same
      cases same
      exact sorted
    | cons member members step =>
      intro known sorted same
      simp only [List.foldlM_cons, Option.bind_eq_bind, Option.bind_eq_some_iff] at same
      obtain ⟨_, ⟨name, -, value, -, made⟩, rest⟩ := same
      cases made
      exact step _ (sorted.insertVariable name value) rest
  cases written with
  | object members => exact general members [] List.Pairwise.nil reads
  | _ => cases reads

/-- **What is read from a text** is an acceptable descriptor. -/
theorem isAccepted_of_read {text : String} {descriptor : Descriptor}
    (reads : read text = .ok descriptor) : descriptor.IsAccepted := by
  have sorted : ∀ written, ofSyntax? written = some descriptor →
      IsSorted descriptor.environment := by
    intro written same
    unfold ofSyntax? at same
    obtain ⟨fields, -, same⟩ := Option.bind_eq_some_iff.mp same
    split at same
    · simp only [Option.bind_eq_bind, Option.bind_eq_some_iff] at same
      obtain ⟨_, -, _, -, _, -, _, -, entries, given, _, -, made⟩ := same
      cases made
      unfold withDefault? at given
      split at given
      · exact isSorted_of_environment? given
      · cases given
        exact List.Pairwise.nil
    · cases same
  unfold read at reads
  split at reads
  · cases reads
  · rename_i found parsed
    obtain ⟨written, -, known⟩ := Option.bind_eq_some_iff.mp parsed
    cases checked : found.check with
    | error reason =>
      rw [checked] at reads
      cases reads
    | ok done =>
      rw [checked] at reads
      cases reads
      exact ⟨checked, (sorted written known).nodup⟩

end Descriptor

end DeviceTrial
