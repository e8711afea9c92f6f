/-
**When placeholders are replaced in one scan.**

The five placeholders of a run are replaced one after the other, so a value that was put in early is
read again for those that come later. A tag or a name without a mark can only complete the end of a
later placeholder, and a path can have one inside; an absent path is empty, and then what stood around
it can close up to one.

* `Bindings.scans_expandOnce` — the one scan that replaces every placeholder;
* `Plan.firm_placeholders` — what the values of a plan are made of;
* `Plan.expand_iff` — a plan replaces placeholders in one scan, for all templates with some of them,
  **exactly when their values spare the placeholders after them**;
* `Plan.expand_rereads` — a plan that reads a path again.
-/

import DeviceTrial.Proofs.Drive.Rereading
import DeviceTrial.Proofs.Settings.Separation
import Mathlib.Data.List.Nodup

namespace DeviceTrial

namespace Bindings

open Text

variable (bindings : Bindings)

theorem toList_expand (template : String) :
    (bindings.expand template).toList = replaceEach bindings.placeholders template.toList := by
  unfold expand replaceEach
  generalize bindings.placeholders = entries
  induction entries generalizing template with
  | nil => rfl
  | cons entry entries step =>
    rw [List.foldl_cons, List.foldl_cons, step, Text.replaceAll, String.toList_ofList]

/-- Every placeholder is a name, and none has a separator of paths. -/
theorem isName_placeholders :
    ∀ entry ∈ bindings.placeholders, IsName entry.1.toList ∧ '/' ∉ entry.1.toList := by
  have marked : ∀ entry ∈ bindings.placeholders,
      entry.1.toList.head? = some nameMark ∧ nameMark ∉ entry.1.toList.tail ∧ '/' ∉ entry.1.toList := by
    simp only [placeholders, List.forall_mem_cons, List.not_mem_nil, false_implies, implies_true,
      and_true]
    decide
  intro entry inside
  obtain ⟨head, tail, separator⟩ := marked entry inside
  exact ⟨⟨_, (List.cons_head?_tail head).symm, tail⟩, separator⟩

theorem nodup_names : (bindings.placeholders.map Prod.fst).Nodup := by
  simp only [placeholders, List.map_cons, List.map_nil]
  decide

/-- No placeholder is the beginning of another. -/
theorem apart_placeholders : ∀ entry ∈ bindings.placeholders, ∀ other ∈ bindings.placeholders,
    entry.1.toList <+: other.1.toList → entry = other := by
  have named : ∀ name ∈ bindings.placeholders.map Prod.fst,
      ∀ name' ∈ bindings.placeholders.map Prod.fst, name.toList <+: name'.toList → name = name' := by
    simp only [placeholders, List.map_cons, List.map_nil]
    decide
  intro entry inside other known starts
  have same := named _ (List.mem_map_of_mem inside) _ (List.mem_map_of_mem known) starts
  exact List.inj_on_of_nodup_map bindings.nodup_names inside known same

/-- The placeholder at the start of a text, with its value. -/
theorem placeholderAt?_cases (cs : List Char) :
    (∃ entry ∈ bindings.placeholders, ∃ rest, cs = entry.1.toList ++ rest ∧
      bindings.placeholderAt? cs = some (entry.2.toList, rest)) ∨
    (∀ entry ∈ bindings.placeholders, ¬ entry.1.toList <+: cs) ∧
      bindings.placeholderAt? cs = none := by
  unfold placeholderAt?
  generalize found : (bindings.placeholders.findSome? fun entry =>
    (strip? entry.1.toList cs).map fun rest => (entry.2.toList, rest)) = outcome
  cases outcome with
  | none =>
    rw [List.findSome?_eq_none_iff] at found
    refine .inr ⟨fun entry inside => strip?_eq_none_iff.mp ?_, rfl⟩
    exact Option.map_eq_none_iff.mp (found entry inside)
  | some parts =>
    obtain ⟨entry, inside, mapped⟩ := List.exists_of_findSome?_eq_some found
    obtain ⟨rest, stripped, rfl⟩ := Option.map_eq_some_iff.mp mapped
    exact .inl ⟨entry, inside, rest, strip?_eq_some stripped, rfl⟩

theorem scans_expandChars {fuel : Nat} {cs : List Char} (enough : cs.length ≤ fuel) :
    Scans bindings.placeholders cs (bindings.expandChars fuel cs) := by
  induction fuel generalizing cs with
  | zero =>
    obtain rfl := List.eq_nil_of_length_eq_zero (Nat.le_zero.mp enough)
    exact .done
  | succ fuel step =>
    cases cs with
    | nil => exact .done
    | cons c cs =>
      rcases bindings.placeholderAt?_cases (c :: cs) with
        ⟨entry, inside, rest, whole, found⟩ | ⟨absent, found⟩
      · have shorter : rest.length ≤ fuel := by
          have some := List.length_pos_of_ne_nil (bindings.isName_placeholders entry inside).1.ne_nil
          rw [whole, List.length_append] at enough
          omega
        rw [expandChars, found]
        dsimp only
        rw [whole]
        exact .put inside (step shorter)
      · rw [expandChars, found]
        exact .keep absent (step (Nat.le_of_succ_le_succ enough))

/-- **The one scan that replaces every placeholder.** -/
theorem scans_expandOnce (template : String) :
    Scans bindings.placeholders template.toList (bindings.expandOnce template).toList := by
  rw [expandOnce, String.toList_ofList]
  exact bindings.scans_expandChars (Nat.le_of_eq String.length_toList)

/-- Placeholders are replaced in one scan, for all templates with no placeholders but the used ones,
exactly when the values of the used ones spare those after them. -/
theorem expand_eq_expandOnce_iff
    (firm : (bindings.placeholders.take 4).Pairwise fun entry other =>
      '/' ∈ other.2.toList ∨ nameMark ∉ other.2.toList ∧ nameMark ∉ entry.2.toList)
    (used : String → Prop) :
    (∀ template, (∀ entry ∈ bindings.placeholders,
        entry.1.toList <:+: template.toList → used entry.1) →
      bindings.expand template = bindings.expandOnce template) ↔
      bindings.placeholders.Pairwise fun entry other => used entry.1 → Spares entry.2 other := by
  have general := @replaceEach_eq_iff (bindings.placeholders.take 4) ("$REGION", bindings.region) '/'
    bindings.isName_placeholders bindings.apart_placeholders
    (List.Nodup.of_map _ bindings.nodup_names) firm used
  refine Iff.trans ⟨fun same cs out scans all => ?_, fun same template all => ?_⟩ general
  · have once := bindings.scans_expandOnce (String.ofList cs)
    rw [String.toList_ofList] at once
    have equal := congrArg String.toList (same (String.ofList cs) (by rwa [String.toList_ofList]))
    rw [toList_expand, String.toList_ofList] at equal
    exact equal.trans (once.unique scans (fun entry inside =>
      (bindings.isName_placeholders entry inside).1) bindings.apart_placeholders)
  · rw [← String.toList_inj, toList_expand]
    exact same _ _ (bindings.scans_expandOnce template) all

end Bindings

/-! ### The values of a plan -/

namespace Plan

open Text Bindings

variable {seenFrom : Path} {settings : Settings} {request : TrialRequest} {plan : Plan}

/-- A text in the alphabet of thing names has no mark. -/
theorem unmarked_of_isIdentityText {text : String} (allowed : isIdentityText text = true) :
    nameMark ∉ text.toList := fun marked =>
  absurd (List.all_eq_true.mp allowed nameMark marked) (by decide)

theorem separator_of_isAbsolute {path : Path} (rooted : path.isAbsolute = true) :
    '/' ∈ path.text.toList :=
  (String.startsWith_string_iff.mp rooted).subset List.mem_cons_self

/-- The tag and the name of a plan have no marks. -/
theorem unmarked_of_build (built : build seenFrom settings request = .ok plan) :
    nameMark ∉ plan.tag.text.toList ∧ nameMark ∉ plan.identity.toList := by
  obtain ⟨_, _, identity, -, -, named, rfl⟩ := exists_of_build built
  obtain ⟨allowed, -, rfl⟩ := (RunTag.identityName_eq_ok_iff _ _ _).mp named
  have tag := unmarked_of_isIdentityText request.tag.valid.2.2
  refine ⟨tag, ?_⟩
  rw [String.toList_append, List.mem_append]
  exact not_or.mpr ⟨unmarked_of_isIdentityText allowed, tag⟩

/-- The paths of a plan start at the root, or there are none. -/
theorem paths_rooted_of_build (rooted : seenFrom.isAbsolute = true)
    (built : build seenFrom settings request = .ok plan) :
    plan.provisioning = none ∨ ∃ provisioning, plan.provisioning = some provisioning ∧
      provisioning.paths.certificate.isAbsolute = true ∧
      provisioning.paths.key.isAbsolute = true := by
  cases configured : settings.credentialPaths? request.family with
  | none =>
    refine .inl ?_
    obtain ⟨_, _, _, -, provided, -, rfl⟩ := exists_of_build built
    unfold provisioningFor at provided
    cases family : request.family with
    | fleetProvisioning =>
      rw [family] at provided
      cases provided
      rfl
    | jobs | shadow =>
      rw [family] at configured
      cases configured
  | some paths =>
    obtain ⟨provisioning, planned, certificate, key⟩ := paths_of_build built configured
    exact .inr ⟨provisioning, planned, (Path.parts_absolute certificate rooted).1,
      (Path.parts_absolute key rooted).1⟩

/-- **What the values of a plan are made of**: every value but the region either has a separator, or
has no mark and stands behind values without marks. -/
theorem firm_placeholders (rooted : seenFrom.isAbsolute = true)
    (built : build seenFrom settings request = .ok plan) :
    (plan.bindings.placeholders.take 4).Pairwise fun entry other =>
      '/' ∈ other.2.toList ∨ nameMark ∉ other.2.toList ∧ nameMark ∉ entry.2.toList := by
  obtain ⟨tag, identity⟩ := unmarked_of_build built
  have paths : ('/' ∈ (pathText plan.bindings.certificate).toList ∧
        '/' ∈ (pathText plan.bindings.key).toList) ∨
      pathText plan.bindings.certificate = "" ∧ pathText plan.bindings.key = "" := by
    rcases paths_rooted_of_build rooted built with none | ⟨provisioning, planned, first, second⟩
    · exact .inr (by simp [bindings, none, pathText])
    · refine .inl ?_
      simp only [bindings, planned, pathText, Option.map_some, Option.getD_some]
      exact ⟨separator_of_isAbsolute first, separator_of_isAbsolute second⟩
  have listed : plan.bindings.placeholders.take 4 =
      [("$INPUT_UUID", plan.tag.text), ("$THING_NAME", plan.identity),
        ("$CERT_PATH", pathText plan.bindings.certificate),
        ("$KEY_PATH", pathText plan.bindings.key)] := rfl
  rw [listed]
  rcases paths with ⟨certificate, key⟩ | ⟨certificate, key⟩
  · simp [tag, identity, certificate, key]
  · simp [tag, identity, certificate, key]

/-! ### When a plan replaces placeholders in one scan -/

/-- **A plan replaces placeholders in one scan**, for all templates with no placeholders but the used
ones, exactly when the values of the used ones spare the placeholders after them. -/
theorem expand_iff (seenFrom : Path) (settings : Settings) (request : TrialRequest) (plan : Plan)
    (rooted : seenFrom.isAbsolute = true) (built : build seenFrom settings request = .ok plan)
    (used : String → Prop) :
    (∀ template, (∀ entry ∈ plan.bindings.placeholders,
        entry.1.toList <:+: template.toList → used entry.1) →
      plan.bindings.expand template = plan.bindings.expandOnce template) ↔
      plan.bindings.placeholders.Pairwise fun entry other =>
        used entry.1 → Spares entry.2 other :=
  plan.bindings.expand_eq_expandOnce_iff (firm_placeholders rooted built) used

theorem exists_of_toOption_map {ε α β : Type} {outcome : Except ε α} {look : α → β} {value : β}
    (same : outcome.toOption.map look = some value) :
    ∃ made, outcome = .ok made ∧ look made = value := by
  cases outcome with
  | error fault => cases same
  | ok made => exact ⟨made, rfl, Option.some.inj same⟩

/-- A plan of default settings replaces placeholders in one scan, whatever the template. -/
theorem expand_iff_default : ∃ plan, build .rootDirectory .default jobsRequest = .ok plan ∧
    ∀ template, plan.bindings.expand template = plan.bindings.expandOnce template := by
  have spared : (build .rootDirectory .default jobsRequest).toOption.map (fun plan =>
      decide (plan.bindings.placeholders.Pairwise fun entry other => Spares entry.2 other)) =
        some true := by
    decide +kernel
  obtain ⟨plan, built, spares⟩ := exists_of_toOption_map spared
  have all := (expand_iff .rootDirectory .default jobsRequest plan (by decide +kernel) built
    (fun _ => True)).mpr ((of_decide_eq_true spares).imp fun spares _ => spares)
  exact ⟨plan, built, fun template => all template fun _ _ _ => trivial⟩

/-- Settings with a certificate in a directory that is called like a placeholder. -/
def regionDirectory : Settings :=
  .overlay (Layer.empty.set .jobsCertificate ⟨"/srv/$REGION/a.pem"⟩) .default

/-- **A plan that reads a path again**: the directory of the certificate becomes the region. -/
theorem expand_rereads :
    regionDirectory.check = .ok () ∧
      ∃ plan, build .rootDirectory regionDirectory jobsRequest = .ok plan ∧
        plan.bindings.expand "$CERT_PATH" = "/srv/us-east-1/a.pem" ∧
        plan.bindings.expandOnce "$CERT_PATH" = "/srv/$REGION/a.pem" := by
  refine ⟨(firstFailure_eq_ok_iff _).mpr (by decide +kernel), ?_⟩
  have expanded : (build .rootDirectory regionDirectory jobsRequest).toOption.map (fun plan =>
      (plan.bindings.expand "$CERT_PATH", plan.bindings.expandOnce "$CERT_PATH")) =
        some ("/srv/us-east-1/a.pem", "/srv/$REGION/a.pem") := by
    decide +kernel
  obtain ⟨plan, built, same⟩ := exists_of_toOption_map expanded
  exact ⟨plan, built, Prod.mk.inj same⟩

end Plan

end DeviceTrial
