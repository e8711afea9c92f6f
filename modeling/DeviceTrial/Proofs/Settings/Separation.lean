/-
**Where certificate and key are kept apart.**

Acceptable settings have two paths of different parts, and the plan has their absolute forms. Making a
path absolute takes a `.` in front away and puts the working directory in front, so two paths that are
written differently can be the same afterwards:

* `Text.splitOn_append` — a text is split before and after a mark;
* `Path.parts_absolute` — **the parts of the absolute form**;
* `Path.parts_absolute_eq_iff` — two paths of different parts meet when one is the other with a `.` in
  front, or when one is absolute and spells the other out from the working directory;
* `Plan.build_separates` — the plan keeps certificate and key apart **unless they meet so**;
* `Plan.build_joins` — settings that pass the check and make a plan with one path for both.
-/

import DeviceTrial.Plan
import DeviceTrial.Settings.Check

namespace DeviceTrial

/-! ### Splitting a text -/

namespace Text

variable {isMark : Char → Bool}

theorem splitChars_ne_nil (isMark : Char → Bool) (cs : List Char) : splitChars isMark cs ≠ [] := by
  cases cs with
  | nil => nofun
  | cons c cs =>
    unfold splitChars
    split
    · nofun
    · split <;> nofun

/-- Characters are split before and after a mark. -/
theorem splitChars_append {mark : Char} (marks : isMark mark = true) (front rest : List Char) :
    splitChars isMark (front ++ mark :: rest) = splitChars isMark front ++ splitChars isMark rest := by
  induction front with
  | nil => simp [splitChars, marks]
  | cons c front step =>
    rw [List.cons_append, splitChars, splitChars, step]
    split
    · rfl
    · -- the first part of what follows goes on with the character
      cases parts : splitChars isMark front with
      | nil => exact absurd parts (splitChars_ne_nil isMark front)
      | cons part parts => rfl

theorem splitChars_of_unmarked {cs : List Char} (unmarked : ∀ c ∈ cs, isMark c = false) :
    splitChars isMark cs = [cs] := by
  induction cs with
  | nil => rfl
  | cons c cs step =>
    obtain ⟨here, others⟩ := List.forall_mem_cons.mp unmarked
    rw [splitChars, if_neg (by simp [here]), step others]

/-- No part has a mark. -/
theorem unmarked_of_mem_splitChars {cs part : List Char} (inside : part ∈ splitChars isMark cs) :
    ∀ c ∈ part, isMark c = false := by
  induction cs generalizing part with
  | nil =>
    rw [List.mem_singleton.mp inside]
    nofun
  | cons c cs step =>
    unfold splitChars at inside
    split at inside
    · rcases List.mem_cons.mp inside with rfl | later
      · nofun
      · exact step later
    · rename_i unmarked
      cases parts : splitChars isMark cs with
      | nil => exact absurd parts (splitChars_ne_nil isMark cs)
      | cons first parts' =>
        rw [parts] at inside step
        rcases List.mem_cons.mp inside with rfl | later
        · exact List.forall_mem_cons.mpr
            ⟨Bool.eq_false_iff.mpr unmarked, step List.mem_cons_self⟩
        · exact step (List.mem_cons_of_mem _ later)

/-- **A text is split before and after a separator.** -/
theorem splitOn_append (front rest : String) :
    splitOn '/' (front ++ "/" ++ rest) = splitOn '/' front ++ splitOn '/' rest := by
  unfold splitOn
  rw [String.toList_append, String.toList_append, List.append_assoc, show "/".toList = ['/'] from rfl,
    List.singleton_append, splitChars_append (by rfl), List.map_append]

theorem splitOn_of_unmarked {text : String} (unmarked : '/' ∉ text.toList) :
    splitOn '/' text = [text] := by
  have plain : ∀ c ∈ text.toList, (c == '/') = false := by
    intro c inside
    rw [beq_eq_false_iff_ne]
    rintro rfl
    exact unmarked inside
  rw [splitOn, splitChars_of_unmarked plain, List.map_singleton, String.ofList_toList]

theorem unmarked_of_mem_splitOn {text piece : String} (inside : piece ∈ splitOn '/' text) :
    '/' ∉ piece.toList := by
  obtain ⟨part, split, rfl⟩ := List.mem_map.mp inside
  rw [String.toList_ofList]
  intro marked
  cases unmarked_of_mem_splitChars split '/' marked

end Text

namespace Path

/-! ### The steps of a text -/

/-- The steps of a text, without the one that an absolute path starts with and without a `.` in
front. -/
def steps (text : String) : List Part := (Text.splitOn '/' text).filterMap Part.ofPiece

theorem parts_eq (path : Path) : path.parts =
    if path.isAbsolute then .root :: steps path.text
    else if path.pieces.head? = some "." then .here :: steps path.text
    else steps path.text := rfl

theorem parts_of_isAbsolute {path : Path} (rooted : path.isAbsolute = true) :
    path.parts = .root :: steps path.text := by
  rw [parts_eq, if_pos rooted]

/-- The parts of a relative path are its steps, with or without a `.` in front. -/
theorem parts_of_relative {path : Path} (relative : path.isAbsolute = false) :
    path.parts = .here :: steps path.text ∨ path.parts = steps path.text := by
  rw [parts_eq, if_neg (by simp [relative])]
  split
  · exact .inl rfl
  · exact .inr rfl

/-- Every step is written as a piece without separators. -/
theorem written_of_mem_steps {text : String} {part : Part} (inside : part ∈ steps text) :
    '/' ∉ part.text.toList ∧ Part.ofPiece part.text = some part := by
  obtain ⟨piece, split, made⟩ := List.mem_filterMap.mp inside
  have unmarked := Text.unmarked_of_mem_splitOn split
  have same : part.text = piece := by
    unfold Part.ofPiece at made
    split at made <;> cases made <;> rfl
  rw [same]
  exact ⟨unmarked, made⟩

theorem root_not_mem_steps (text : String) : .root ∉ steps text := by
  intro inside
  exact (written_of_mem_steps inside).1 (by decide)

theorem here_not_mem_steps (text : String) : .here ∉ steps text := by
  intro inside
  cases (written_of_mem_steps inside).2

theorem steps_append (front rest : String) :
    steps (front ++ "/" ++ rest) = steps front ++ steps rest := by
  rw [steps, Text.splitOn_append, List.filterMap_append]
  rfl

/-- A separator at the end makes no step. -/
theorem steps_of_endsWith {text : String} (ends : text.endsWith "/" = true) :
    ∃ front, text = front ++ "/" ∧ steps text = steps front := by
  obtain ⟨front, same⟩ := String.Slice.endsWith_string_iff.mp ends
  rw [String.copy_toSlice] at same
  have split : text = String.ofList front ++ "/" := by
    rw [← String.toList_inj, String.toList_append, String.toList_ofList, same]
  refine ⟨String.ofList front, split, ?_⟩
  have added := steps_append (String.ofList front) ""
  rw [String.append_empty, ← split] at added
  rw [added]
  exact List.append_nil _

/-- What is joined to a text adds its steps. -/
theorem steps_joinText (base : String) {name : String} (unmarked : '/' ∉ name.toList) :
    steps (joinText base name) = steps base ++ steps name := by
  have relative : name.startsWith "/" = false := by
    rw [String.startsWith_string_eq_false_iff]
    rintro ⟨rest, same⟩
    exact unmarked (same ▸ List.mem_append_left _ List.mem_cons_self)
  unfold joinText
  rw [if_neg (by simp [relative])]
  split
  · rename_i joins
    rcases Bool.or_eq_true_iff.mp joins with empty | ends
    · rw [String.isEmpty_iff.mp empty, String.empty_append]
      rfl
    · obtain ⟨front, rfl, same⟩ := steps_of_endsWith ends
      rw [steps_append, same]
  · exact steps_append base name

/-- **What is written below a text adds its steps.** -/
theorem steps_extend (base : String) {more : List Part} {text : String}
    (inner : ∀ part ∈ more, part ∈ steps text) : steps (extend base more) = steps base ++ more := by
  induction more generalizing base with
  | nil => exact (List.append_nil _).symm
  | cons part more step =>
    obtain ⟨here, others⟩ := List.forall_mem_cons.mp inner
    obtain ⟨unmarked, made⟩ := written_of_mem_steps here
    have single : steps part.text = [part] := by
      rw [steps, Text.splitOn_of_unmarked unmarked, List.filterMap_cons_some made]
      rfl
    rw [show extend base (part :: more) = extend (joinText base part.text) more from rfl,
      step _ others, steps_joinText base unmarked, single, List.append_assoc]
    rfl

/-- What is joined to a text that starts at the root does so too. -/
theorem rooted_joinText {base : String} (rooted : base.startsWith "/" = true) (name : String) :
    (joinText base name).startsWith "/" = true := by
  unfold joinText
  split
  · assumption
  · rw [String.startsWith_string_iff] at rooted ⊢
    split
    · rw [String.toList_append]
      exact rooted.trans (List.prefix_append _ _)
    · rw [String.toList_append, String.toList_append, List.append_assoc]
      exact rooted.trans (List.prefix_append _ _)

theorem rooted_extend {base : String} (rooted : base.startsWith "/" = true) (more : List Part) :
    (extend base more).startsWith "/" = true := by
  induction more generalizing base with
  | nil => exact rooted
  | cons part more step => exact step (rooted_joinText rooted part.text)

/-! ### Absolute forms -/

variable {path seenFrom absolute' : Path}

theorem isAbsolute_of_hasDoubleRoot (double : path.hasDoubleRoot = true) : path.isAbsolute = true := by
  have starts := (Bool.and_eq_true_iff.mp double).1
  rw [isAbsolute, String.startsWith_string_iff]
  exact List.IsPrefix.trans (by decide) (String.startsWith_string_iff.mp starts)

/-- The text that an absolute form starts with. -/
theorem base_of_absolute (path : Path) (rooted : seenFrom.isAbsolute = true) :
    let base := if path.hasDoubleRoot then "//" else if path.isAbsolute then "/" else seenFrom.text
    base.startsWith "/" = true ∧
      steps base = if path.isAbsolute then [] else steps seenFrom.text := by
  dsimp only
  split
  · rename_i double
    rw [if_pos (isAbsolute_of_hasDoubleRoot double), String.startsWith_string_iff]
    exact ⟨by decide, by decide⟩
  · split
    · rw [String.startsWith_string_iff]
      exact ⟨by decide, by decide⟩
    · exact ⟨rooted, rfl⟩

/-- A separator that is put at the end makes no difference. -/
theorem close_text {text : String} (rooted : text.startsWith "/" = true) (closes : Bool) :
    (if closes then text ++ "/" else text).startsWith "/" = true ∧
      steps (if closes then text ++ "/" else text) = steps text := by
  cases closes with
  | false => exact ⟨rooted, rfl⟩
  | true =>
    have added := steps_append text ""
    rw [String.append_empty] at added
    rw [String.startsWith_string_iff] at rooted
    rw [if_pos rfl, added, String.startsWith_string_iff, String.toList_append]
    exact ⟨rooted.trans (List.prefix_append _ _), List.append_nil _⟩

/-- **The parts of the absolute form**: those of the path, if it is absolute itself, and else those of
the directory followed by the steps of the path. -/
theorem parts_absolute (made : path.absolute seenFrom = .ok absolute')
    (rooted : seenFrom.isAbsolute = true) :
    absolute'.isAbsolute = true ∧ absolute'.parts =
      if path.isAbsolute then path.parts else seenFrom.parts ++ steps path.text := by
  obtain ⟨starts, based⟩ := base_of_absolute path rooted
  unfold absolute at made
  split at made
  · cases made
  · have text := congrArg Path.text (Except.ok.inj made)
    rw [show path.pieces.filterMap Part.ofPiece = steps path.text from rfl] at text
    dsimp only at text
    generalize (if path.hasDoubleRoot = true then "//"
      else if path.isAbsolute = true then "/" else seenFrom.text) = base at starts based text
    have below : (extend base (steps path.text)).startsWith "/" = true := rooted_extend starts _
    have written : steps (extend base (steps path.text)) = steps base ++ steps path.text :=
      steps_extend base fun _ inside => inside
    obtain ⟨absolute, same⟩ := close_text below (path.text.endsWith "/" &&
      !(extend base (steps path.text)).endsWith "/")
    rw [text] at absolute same
    refine ⟨absolute, ?_⟩
    rw [parts_of_isAbsolute absolute, same, written, based]
    split
    · rename_i own
      rw [parts_of_isAbsolute own]
      rfl
    · rw [parts_of_isAbsolute rooted]
      rfl

/-! ### Paths that meet -/

/-- That a path which is written differently leads along the steps of another: it has a `.` in front
that the other lacks, or it spells out the way to the directory from which the other is seen. -/
inductive Meets (seenFrom left right : Path) : Prop where
  /-- It has a `.` in front. -/
  | dotted (same : left.parts = .here :: right.parts)
  /-- It is absolute, and the other is not. -/
  | spelled (absolute : left.isAbsolute = true) (relative : right.isAbsolute = false)
      (same : left.parts = seenFrom.parts ++ right.parts.filter (· ≠ .here))

variable {left right : Path}

/-- The parts of a relative path without a `.` in front are its steps. -/
theorem filter_parts_of_relative (relative : path.isAbsolute = false) :
    path.parts.filter (· ≠ .here) = steps path.text := by
  have inner : (steps path.text).filter (· ≠ .here) = steps path.text := by
    refine List.filter_eq_self.mpr fun part inside => decide_eq_true ?_
    rintro rfl
    exact here_not_mem_steps path.text inside
  rcases parts_of_relative relative with same | same
  · rw [same, List.filter_cons_of_neg (by simp), inner]
  · rw [same, inner]

/-- A `.` stands in front of relative paths only. -/
theorem relative_of_dotted (same : left.parts = .here :: right.parts) :
    left.isAbsolute = false ∧ right.isAbsolute = false := by
  cases first : left.isAbsolute with
  | true =>
    rw [parts_of_isAbsolute first] at same
    cases same
  | false =>
    cases second : right.isAbsolute with
    | false => exact ⟨rfl, rfl⟩
    | true =>
      -- the root would be a step of the path with the dot
      rw [parts_of_isAbsolute second] at same
      refine absurd ?_ (root_not_mem_steps left.text)
      rw [← filter_parts_of_relative first, same]
      simp

/-- Relative paths of different parts have the same steps when one has a `.` in front. -/
theorem steps_eq_iff (different : left.parts ≠ right.parts) (first : left.isAbsolute = false)
    (second : right.isAbsolute = false) :
    steps left.text = steps right.text ↔
      left.parts = .here :: right.parts ∨ right.parts = .here :: left.parts := by
  rw [← filter_parts_of_relative first, ← filter_parts_of_relative second]
  constructor
  · intro same
    rw [filter_parts_of_relative first, filter_parts_of_relative second] at same
    rcases parts_of_relative first with dotted | plain <;>
      rcases parts_of_relative second with dotted' | plain'
    · exact absurd (dotted.trans (same ▸ dotted'.symm)) different
    · exact .inl (by rw [dotted, plain', same])
    · exact .inr (by rw [dotted', plain, same])
    · exact absurd (plain.trans (same ▸ plain'.symm)) different
  · rintro (same | same) <;> rw [same, List.filter_cons_of_neg (by simp)]

/-- **When paths of different parts have absolute forms of the same parts.** -/
theorem parts_absolute_eq_iff {left' right' : Path} (rooted : seenFrom.isAbsolute = true)
    (different : left.parts ≠ right.parts) (first : left.absolute seenFrom = .ok left')
    (second : right.absolute seenFrom = .ok right') :
    left'.parts = right'.parts ↔ Meets seenFrom left right ∨ Meets seenFrom right left := by
  rw [(parts_absolute first rooted).2, (parts_absolute second rooted).2]
  have undotted : ∀ {one other : Path}, one.isAbsolute = true ∨ other.isAbsolute = true →
      one.parts ≠ .here :: other.parts := by
    intro one other absolute same
    obtain ⟨relative, relative'⟩ := relative_of_dotted same
    rcases absolute with absolute | absolute
    · cases absolute.symm.trans relative
    · cases absolute.symm.trans relative'
  cases one : left.isAbsolute <;> cases two : right.isAbsolute
  · -- both are seen from the directory, so only a `.` can make the difference
    rw [if_neg nofun, if_neg nofun, List.append_right_inj, steps_eq_iff different one two]
    constructor
    · rintro (same | same)
      · exact .inl (.dotted same)
      · exact .inr (.dotted same)
    · rintro ((same | ⟨absolute, -, -⟩) | (same | ⟨absolute, -, -⟩))
      · exact .inl same
      · cases one.symm.trans absolute
      · exact .inr same
      · cases two.symm.trans absolute
  · rw [if_neg nofun, if_pos rfl, ← filter_parts_of_relative one]
    constructor
    · exact fun same => .inr (.spelled two one same.symm)
    · rintro ((same | ⟨absolute, -, -⟩) | (same | ⟨-, -, same⟩))
      · exact absurd same (undotted (.inr two))
      · cases one.symm.trans absolute
      · exact absurd same (undotted (.inl two))
      · exact same.symm
  · rw [if_pos rfl, if_neg nofun, ← filter_parts_of_relative two]
    constructor
    · exact fun same => .inl (.spelled one two same)
    · rintro ((same | ⟨-, -, same⟩) | (same | ⟨absolute, -, -⟩))
      · exact absurd same (undotted (.inl one))
      · exact same
      · exact absurd same (undotted (.inr one))
      · cases two.symm.trans absolute
  · rw [if_pos rfl, if_pos rfl]
    refine iff_of_false different ?_
    rintro ((same | ⟨-, relative, -⟩) | (same | ⟨-, relative, -⟩))
    · exact absurd same (undotted (.inl one))
    · cases two.symm.trans relative
    · exact absurd same (undotted (.inl two))
    · cases one.symm.trans relative

end Path

/-! ### Plans -/

/-- The configured paths of certificate and key, for a family that has them. -/
def Settings.credentialPaths? (settings : Settings) : Family → Option (Path × Path)
  | .fleetProvisioning => none
  | .jobs => some (settings.get .jobsCertificate, settings.get .jobsKey)
  | .shadow => some (settings.get .shadowCertificate, settings.get .shadowKey)

/-- Acceptable settings have different parts for certificate and key, whatever the family. -/
theorem Settings.parts_ne_of_check {settings : Settings} (good : settings.check = .ok ())
    {family : Family} {certificate key : Path}
    (configured : settings.credentialPaths? family = some (certificate, key)) :
    certificate.parts ≠ key.parts := by
  obtain ⟨jobs, shadow⟩ := paths_differ_of_check good
  cases family with
  | fleetProvisioning => cases configured
  | jobs =>
    cases configured
    exact fun same => Bool.false_ne_true (jobs.symm.trans ((Path.sameAs_iff _ _).mpr same))
  | shadow =>
    cases configured
    exact fun same => Bool.false_ne_true (shadow.symm.trans ((Path.sameAs_iff _ _).mpr same))

namespace Plan

variable {seenFrom : Path} {settings : Settings} {request : TrialRequest} {plan : Plan}

theorem exists_of_map_eq_ok {ε α β : Type} {outcome : Except ε α} {change : α → β} {value : β}
    (done : outcome.map change = .ok value) : ∃ made, outcome = .ok made ∧ change made = value := by
  cases outcome with
  | error fault => cases done
  | ok made =>
    cases done
    exact ⟨made, rfl, rfl⟩

theorem absolute_of_absolutePath {field : Field} {path absolute : Path}
    (made : absolutePath seenFrom field path = .ok absolute) :
    path.absolute seenFrom = .ok absolute := by
  unfold absolutePath at made
  split at made
  · cases made
    assumption
  · cases made

theorem paths_of_provisioningWith {secret : String} {certificateField keyField : Field}
    {certificate key : Path} {group : Option String} {provisioning : Provisioning}
    (made : provisioningWith seenFrom secret certificateField keyField certificate key group =
      .ok provisioning) :
    certificate.absolute seenFrom = .ok provisioning.paths.certificate ∧
      key.absolute seenFrom = .ok provisioning.paths.key := by
  unfold provisioningWith at made
  cases first : absolutePath seenFrom certificateField certificate with
  | error fault =>
    rw [first] at made
    cases made
  | ok one =>
    cases second : absolutePath seenFrom keyField key with
    | error fault =>
      rw [first, second] at made
      cases made
    | ok two =>
      rw [first, second] at made
      cases made
      exact ⟨absolute_of_absolutePath first, absolute_of_absolutePath second⟩

/-- The paths of a plan are the absolute forms of those that are configured. -/
theorem paths_of_build (built : build seenFrom settings request = .ok plan) {certificate key : Path}
    (configured : settings.credentialPaths? request.family = some (certificate, key)) :
    ∃ provisioning, plan.provisioning = some provisioning ∧
      certificate.absolute seenFrom = .ok provisioning.paths.certificate ∧
      key.absolute seenFrom = .ok provisioning.paths.key := by
  obtain ⟨_, _, _, -, provided, -, rfl⟩ := exists_of_build built
  unfold provisioningFor at provided
  cases family : request.family with
  | fleetProvisioning =>
    rw [family] at configured
    cases configured
  | jobs | shadow =>
    rw [family] at configured provided
    cases configured
    dsimp only at provided
    obtain ⟨made, own, rfl⟩ := exists_of_map_eq_ok provided
    exact ⟨made, rfl, paths_of_provisioningWith own⟩

/-- **The paths of a plan made of acceptable settings.** Both are absolute, and they are different
unless the configured ones meet. -/
theorem build_separates (seenFrom : Path) (settings : Settings) (request : TrialRequest) (plan : Plan)
    (certificate key : Path) (rooted : seenFrom.isAbsolute = true) (good : settings.check = .ok ())
    (configured : settings.credentialPaths? request.family = some (certificate, key))
    (built : build seenFrom settings request = .ok plan) :
    ∃ provisioning, plan.provisioning = some provisioning ∧
      provisioning.paths.certificate.isAbsolute = true ∧
      provisioning.paths.key.isAbsolute = true ∧
      (provisioning.paths.certificate.parts = provisioning.paths.key.parts ↔
        Path.Meets seenFrom certificate key ∨ Path.Meets seenFrom key certificate) := by
  obtain ⟨provisioning, planned, first, second⟩ := paths_of_build built configured
  exact ⟨provisioning, planned, (Path.parts_absolute first rooted).1,
    (Path.parts_absolute second rooted).1, Path.parts_absolute_eq_iff rooted
      (Settings.parts_ne_of_check good configured) first second⟩

/-- Settings with two spellings of one path. -/
def twoSpellings : Settings :=
  .overlay ((Layer.empty.set .jobsCertificate ⟨"./a.pem"⟩).set .jobsKey ⟨"a.pem"⟩) .default

/-- A request for the jobs family. -/
def jobsRequest : TrialRequest :=
  ⟨.jobs, .five, .standard, ⟨"a", isTag_a⟩, "us-east-1", none, none⟩

/-- **Acceptable settings that make a plan with one path for certificate and key.** -/
theorem build_joins :
    twoSpellings.check = .ok () ∧
      ∃ plan, build .rootDirectory twoSpellings jobsRequest = .ok plan ∧
        plan.provisioning.map (·.paths) = some ⟨⟨"/a.pem"⟩, ⟨"/a.pem"⟩⟩ := by
  refine ⟨(firstFailure_eq_ok_iff _).mpr (by decide +kernel), ?_⟩
  have planned : (build .rootDirectory twoSpellings jobsRequest).toOption.map
      (fun plan => plan.provisioning.map (·.paths)) = some (some ⟨⟨"/a.pem"⟩, ⟨"/a.pem"⟩⟩) := by
    decide +kernel
  cases built : build .rootDirectory twoSpellings jobsRequest with
  | error fault =>
    rw [built] at planned
    cases planned
  | ok plan =>
    rw [built] at planned
    exact ⟨plan, rfl, Option.some.inj planned⟩

/-- Settings with a certificate in the working directory that is spelled out, and a key beside it. -/
def besideEachOther : Settings :=
  .overlay ((Layer.empty.set .shadowCertificate ⟨"/work//a.pem"⟩).set .shadowKey ⟨"./b.pem/"⟩) .default

/-- A certificate that is spelled out and a key that is not, which the plan keeps apart. -/
theorem build_separates_beside :
    ∃ provisioning : Provisioning,
      (build ⟨"/work"⟩ besideEachOther { jobsRequest with family := .shadow }).toOption.bind
        (·.provisioning) = some provisioning ∧
      provisioning.paths.certificate.isAbsolute = true ∧
      provisioning.paths.key.isAbsolute = true ∧
      provisioning.paths.certificate.parts ≠ provisioning.paths.key.parts := by
  have good : besideEachOther.check = .ok () := (firstFailure_eq_ok_iff _).mpr (by decide +kernel)
  have makes : (build ⟨"/work"⟩ besideEachOther
      { jobsRequest with family := .shadow }).toOption.isSome = true := by
    decide +kernel
  cases built : build ⟨"/work"⟩ besideEachOther { jobsRequest with family := .shadow } with
  | error fault =>
    rw [built] at makes
    cases makes
  | ok plan =>
    obtain ⟨provisioning, planned, first, second, joins⟩ := build_separates ⟨"/work"⟩ besideEachOther
      { jobsRequest with family := .shadow } plan ⟨"/work//a.pem"⟩ ⟨"./b.pem/"⟩ (by decide +kernel)
      good rfl built
    refine ⟨provisioning, planned, first, second, fun same => ?_⟩
    rcases joins.mp same with (same | ⟨-, -, same⟩) | (same | ⟨absolute, -, -⟩)
    · exact absurd same (by decide +kernel)
    · exact absurd same (by decide +kernel)
    · exact absurd same (by decide +kernel)
    · exact absurd absolute (by decide +kernel)

end Plan

end DeviceTrial
