/-
**Replacing names one after the other, and in one scan.**

Names start with a mark that occurs nowhere else in them. Replacing them one after the other looks at
values that were put in before; a scan does not.

* `Scans entries cs out` — one scan from the left over `cs` that replaces the names of `entries`;
* `TakesPart name value` — that a name can come to stand where a value is put in: in it, or across one
  of its ends;
* `Scans.replace` — replacing one more name after a scan is a scan for one name more, **unless a value
  takes part in the name**;
* `Scans.each` — so replacing names one after the other is one scan, **when every value spares the
  replacements after it**;
* `Scans.occurrences` — what a scan for one name does to the number of characters of a kind.
-/

import DeviceTrial.Text.Scan
import Mathlib.Data.List.Infix
import Mathlib.Tactic.Common

namespace DeviceTrial.Text

/-! ### Replacing one name -/

section Replacing

variable {mark value cs rest : List Char} {c : Char}

theorem strip?_eq_none_iff : strip? mark cs = none ↔ ¬ mark <+: cs := by
  constructor
  · rintro absent ⟨rest, rfl⟩
    rw [strip?_append] at absent
    cases absent
  · intro absent
    cases found : strip? mark cs with
    | none => rfl
    | some rest => exact absurd ⟨rest, (strip?_eq_some found).symm⟩ absent

theorem cut?_append (filled : mark ≠ []) : cut? mark (mark ++ rest) = some ([], rest) := by
  cases mark with
  | nil => exact absurd rfl filled
  | cons m mark =>
    rw [List.cons_append, cut?, ← List.cons_append, strip?_append]

theorem cut?_cons (absent : ¬ mark <+: c :: cs) :
    cut? mark (c :: cs) = (cut? mark cs).map fun parts => (c :: parts.1, parts.2) := by
  rw [cut?, strip?_eq_none_iff.mpr absent]

/-- There is less behind an occurrence than in the whole. -/
theorem length_lt_of_cut? {before after : List Char} (filled : mark ≠ [])
    (found : cut? mark cs = some (before, after)) : after.length < cs.length := by
  have whole := congrArg List.length (cut?_eq_some found)
  have some := List.length_pos_of_ne_nil filled
  simp only [List.length_append] at whole
  omega

/-- As many rounds as there are characters are enough. -/
theorem replaceUpTo_of_le (filled : mark ≠ []) {fuel : Nat} (enough : cs.length ≤ fuel) :
    replaceUpTo mark value fuel cs = replaceAllChars mark value cs := by
  have any : ∀ {fuel other : Nat} {cs : List Char}, cs.length ≤ fuel → cs.length ≤ other →
      replaceUpTo mark value fuel cs = replaceUpTo mark value other cs := by
    intro fuel
    induction fuel with
    | zero =>
      intro other cs enough _
      obtain rfl := List.eq_nil_of_length_eq_zero (Nat.le_zero.mp enough)
      cases mark with
      | nil => exact absurd rfl filled
      | cons m mark => cases other <;> rfl
    | succ fuel step =>
      intro other cs enough also
      cases found : cut? mark cs with
      | none => cases other <;> simp [replaceUpTo, found]
      | some parts =>
        obtain ⟨before, after⟩ := parts
        have fewer := length_lt_of_cut? filled found
        cases other with
        | zero => exact absurd (Nat.lt_of_lt_of_le fewer also) (Nat.not_lt_zero _)
        | succ other =>
          simp only [replaceUpTo, found]
          have same : replaceUpTo mark value fuel after = replaceUpTo mark value other after :=
            step (by omega) (by omega)
          rw [same]
  exact any enough (Nat.le_refl _)

theorem replaceAllChars_nil (filled : mark ≠ []) : replaceAllChars mark value [] = [] := by
  cases mark with
  | nil => exact absurd rfl filled
  | cons m mark => rfl

/-- A name at the start is replaced. -/
theorem replaceAllChars_append (filled : mark ≠ []) :
    replaceAllChars mark value (mark ++ rest) = value ++ replaceAllChars mark value rest := by
  obtain ⟨fuel, length⟩ : ∃ fuel, (mark ++ rest).length = fuel + 1 := by
    refine Nat.exists_eq_succ_of_ne_zero fun none => filled ?_
    exact (List.append_eq_nil_iff.mp (List.eq_nil_of_length_eq_zero none)).1
  have some := List.length_pos_of_ne_nil filled
  rw [replaceAllChars, length, replaceUpTo, cut?_append filled]
  dsimp only
  rw [List.nil_append, replaceUpTo_of_le filled]
  rw [List.length_append] at length
  omega

/-- A character at which no name starts stays. -/
theorem replaceAllChars_cons (filled : mark ≠ []) (absent : ¬ mark <+: c :: cs) :
    replaceAllChars mark value (c :: cs) = c :: replaceAllChars mark value cs := by
  rw [replaceAllChars, List.length_cons, replaceUpTo, cut?_cons absent]
  cases found : cut? mark cs with
  | none =>
    have same : replaceAllChars mark value cs = cs :=
      replaceAllChars_of_not_occurs value (by simp [occursIn, found])
    rw [same]
    rfl
  | some parts =>
    obtain ⟨before, after⟩ := parts
    have fewer := length_lt_of_cut? filled found
    obtain ⟨fuel, length⟩ : ∃ fuel, cs.length = fuel + 1 :=
      Nat.exists_eq_succ_of_ne_zero fun none => by omega
    rw [replaceAllChars, length, replaceUpTo, found]
    simp only [Option.map_some, List.cons_append]
    rw [replaceUpTo_of_le filled (by omega), replaceUpTo_of_le filled (by omega)]

end Replacing

/-! ### Names -/

/-- The character that a name starts with. -/
def nameMark : Char := '$'

/-- That a text starts with the mark of a name and has no other. -/
def IsName (name : List Char) : Prop := ∃ tail, name = nameMark :: tail ∧ nameMark ∉ tail

/-- That a name can come to stand where a value is put in: the value has it inside, or ends with a
beginning of it, or goes on with it behind a beginning, as far as value and name both reach. -/
def TakesPart (name value : List Char) : Prop :=
  name <:+: value ∨ ∃ n < name.length, 0 < n ∧
    (name.take n <:+ value ∨ name.drop n <+: value ∨ value <+: name.drop n)

instance (name value : List Char) : Decidable (TakesPart name value) := by
  unfold TakesPart
  infer_instance

/-- That a value which is put in leaves a later replacement alone: it takes no part in the name, or the
name is replaced by itself. -/
def Spares (value : String) (entry : String × String) : Prop :=
  entry.2 = entry.1 ∨ ¬ TakesPart entry.1.toList value.toList

instance (value : String) (entry : String × String) : Decidable (Spares value entry) := by
  unfold Spares
  infer_instance

section Names

variable {name value cs : List Char}

theorem IsName.ne_nil (isName : IsName name) : name ≠ [] := by
  obtain ⟨tail, rfl, -⟩ := isName
  exact List.cons_ne_nil _ _

/-- A name starts only where a mark is. -/
theorem IsName.not_isPrefix (isName : IsName name) (unmarked : nameMark ∉ cs) : ¬ name <+: cs := by
  obtain ⟨tail, rfl, -⟩ := isName
  rintro ⟨rest, rfl⟩
  exact unmarked List.mem_cons_self

/-- What a concatenation starts with is in its first part or reaches into the second. -/
theorem isPrefix_append_cases {whole front back : List Char} (starts : whole <+: front ++ back) :
    whole <+: front ∨ ∃ more, more ≠ [] ∧ whole = front ++ more ∧ more <+: back := by
  rcases List.prefix_or_prefix_of_prefix starts (List.prefix_append front back) with
    inside | ⟨more, rfl⟩
  · exact .inl inside
  · cases more with
    | nil => exact .inl (by rw [List.append_nil])
    | cons c more =>
      exact .inr ⟨_, List.cons_ne_nil _ _, rfl, (List.prefix_append_right_inj front).mp starts⟩

theorem takesPart_of_split {front back : List Char} (split : name = front ++ back)
    (first : front ≠ []) (last : back ≠ [])
    (meets : front <:+ value ∨ back <+: value ∨ value <+: back) : TakesPart name value := by
  subst split
  have some := List.length_pos_of_ne_nil first
  have more := List.length_pos_of_ne_nil last
  refine .inr ⟨front.length, by rw [List.length_append]; omega, some, ?_⟩
  rwa [List.take_left, List.drop_left]

/-- A name does not start inside a value that takes no part in it, whatever comes behind. -/
theorem not_isPrefix_of_spared (spared : ¬ TakesPart name value) {inner rest : List Char}
    (suffix : inner <:+ value) (filled : inner ≠ []) : ¬ name <+: inner ++ rest := by
  intro starts
  rcases isPrefix_append_cases starts with inside | ⟨back, more, split, -⟩
  · exact spared (.inl (inside.isInfix.trans suffix.isInfix))
  · exact spared (takesPart_of_split split filled more (.inl suffix))

/-- Characters stay as long as no name starts at one of them. -/
theorem replaceAllChars_skip (filled : name ≠ []) {front rest : List Char}
    (absent : ∀ inner, inner <:+ front → inner ≠ [] → ¬ name <+: inner ++ rest) :
    replaceAllChars name value (front ++ rest) = front ++ replaceAllChars name value rest := by
  induction front with
  | nil => rfl
  | cons c front step =>
    have here : ¬ name <+: c :: (front ++ rest) :=
      absent (c :: front) List.suffix_rfl (List.cons_ne_nil _ _)
    rw [List.cons_append, replaceAllChars_cons filled here, step, List.cons_append]
    exact fun inner suffix => absent inner (suffix.trans (List.suffix_cons c front))

/-- Characters without marks stay. -/
theorem replaceAllChars_of_unmarked (isName : IsName name) {front : List Char}
    (unmarked : nameMark ∉ front) (rest : List Char) :
    replaceAllChars name value (front ++ rest) = front ++ replaceAllChars name value rest := by
  refine replaceAllChars_skip isName.ne_nil fun inner suffix some starts => ?_
  obtain ⟨tail, rfl, -⟩ := isName
  cases inner with
  | nil => exact some rfl
  | cons c inner =>
    obtain ⟨rfl, -⟩ := List.cons_prefix_cons.mp starts
    exact unmarked (suffix.subset List.mem_cons_self)

/-- A text in which a name does not occur stays. -/
theorem replaceAllChars_of_not_isInfix (filled : name ≠ []) (absent : ¬ name <:+: cs) :
    replaceAllChars name value cs = cs := by
  have skips : replaceAllChars name value (cs ++ []) = cs ++ replaceAllChars name value [] := by
    refine replaceAllChars_skip filled fun inner suffix _ starts => absent ?_
    rw [List.append_nil] at starts
    exact starts.isInfix.trans suffix.isInfix
  rwa [List.append_nil, replaceAllChars_nil filled, List.append_nil] at skips

/-- A name that is replaced by itself stays. -/
theorem replaceAllChars_self (filled : name ≠ []) : replaceAllChars name name cs = cs := by
  induction length : cs.length using Nat.strong_induction_on generalizing cs with
  | _ length step =>
    subst length
    by_cases here : name <+: cs
    · obtain ⟨rest, rfl⟩ := here
      have some := List.length_pos_of_ne_nil filled
      rw [replaceAllChars_append filled, step rest.length (by rw [List.length_append]; omega) rfl]
    · cases cs with
      | nil => exact replaceAllChars_nil filled
      | cons c cs => rw [replaceAllChars_cons filled here, step cs.length (Nat.lt_succ_self _) rfl]

/-- A value that spares a replacement stays. -/
theorem replaceAllChars_of_spares {value : String} {entry : String × String}
    (spares : Spares value entry) (isName : IsName entry.1.toList) (rest : List Char) :
    replaceAllChars entry.1.toList entry.2.toList (value.toList ++ rest) =
      value.toList ++ replaceAllChars entry.1.toList entry.2.toList rest := by
  rcases spares with same | spared
  · rw [same, replaceAllChars_self isName.ne_nil, replaceAllChars_self isName.ne_nil]
  · exact replaceAllChars_skip isName.ne_nil fun _ suffix some =>
      not_isPrefix_of_spared spared suffix some

end Names

/-! ### One scan -/

/-- Replaces names one after the other. -/
def replaceEach (entries : List (String × String)) (cs : List Char) : List Char :=
  entries.foldl (fun cs entry => replaceAllChars entry.1.toList entry.2.toList cs) cs

theorem replaceEach_append (first rest : List (String × String)) (cs : List Char) :
    replaceEach (first ++ rest) cs = replaceEach rest (replaceEach first cs) :=
  List.foldl_append

/-- One scan from the left: a name at the start is replaced by its value, which is not looked at, and
a character at which no name starts stays. -/
inductive Scans (entries : List (String × String)) : List Char → List Char → Prop where
  /-- Nothing is left. -/
  | done : Scans entries [] []
  /-- A name is replaced. -/
  | put {entry : String × String} {rest out : List Char} (inside : entry ∈ entries)
      (more : Scans entries rest out) :
    Scans entries (entry.1.toList ++ rest) (entry.2.toList ++ out)
  /-- A character stays. -/
  | keep {c : Char} {cs out : List Char}
      (none : ∀ entry ∈ entries, ¬ entry.1.toList <+: c :: cs) (more : Scans entries cs out) :
    Scans entries (c :: cs) (c :: out)

namespace Scans

variable {entries : List (String × String)} {cs out : List Char}

/-- Without names nothing is replaced. -/
theorem refl (cs : List Char) : Scans [] cs cs := by
  induction cs with
  | nil => exact .done
  | cons c cs step => exact .keep nofun step

/-- Characters stay as long as no name starts at one of them. -/
theorem skip {front rest : List Char} (more : Scans entries rest out)
    (none : ∀ inner, inner <:+ front → inner ≠ [] →
      ∀ entry ∈ entries, ¬ entry.1.toList <+: inner ++ rest) :
    Scans entries (front ++ rest) (front ++ out) := by
  induction front with
  | nil => exact more
  | cons c front step =>
    refine .keep (none (c :: front) List.suffix_rfl (List.cons_ne_nil _ _)) (step ?_)
    exact fun inner suffix => none inner (suffix.trans (List.suffix_cons c front))

variable (names : ∀ entry ∈ entries, IsName entry.1.toList)

include names

/-- What a scan leaves of characters without marks. -/
theorem of_unmarked {front rest : List Char} (scans : Scans entries (front ++ rest) out)
    (unmarked : nameMark ∉ front) : ∃ more, out = front ++ more ∧ Scans entries rest more := by
  induction front generalizing out with
  | nil => exact ⟨out, rfl, scans⟩
  | cons c front step =>
    obtain ⟨plain, others⟩ := not_or.mp (fun marked => unmarked (List.mem_cons.mpr marked))
    generalize whole : (c :: front) ++ rest = cs at scans
    cases scans with
    | done => cases whole
    | @put entry _ _ inside more =>
      obtain ⟨tail, name, -⟩ := names entry inside
      rw [name] at whole
      exact absurd (List.cons.inj whole).1.symm plain
    | keep none more =>
      cases whole
      obtain ⟨left, rfl, scans⟩ := step more others
      exact ⟨left, rfl, scans⟩

omit names

/-- What goes on with a name in the output of a scan goes on with it in the text, unless a value takes
part in it. -/
theorem isPrefix_of_out {name : List Char} (scans : Scans entries cs out)
    (spared : ∀ entry ∈ entries, entry.1.toList <:+: cs → ¬ TakesPart name entry.2.toList)
    {front back : List Char} (split : name = front ++ back) (begun : front ≠ [])
    (starts : back <+: out) : back <+: cs := by
  induction scans generalizing front back with
  | done => exact starts
  | @put entry rest out inside more step =>
    cases back with
    | nil => exact List.nil_prefix
    | cons c back =>
      refine absurd ?_ (spared entry inside (List.prefix_append _ _).isInfix)
      rcases isPrefix_append_cases starts with inner | ⟨left, -, same, -⟩
      · exact takesPart_of_split split begun (List.cons_ne_nil _ _) (.inr (.inl inner))
      · exact takesPart_of_split split begun (List.cons_ne_nil _ _)
          (.inr (.inr (same ▸ List.prefix_append _ _)))
  | @keep c cs out none more step =>
    cases back with
    | nil => exact List.nil_prefix
    | cons d back =>
      obtain ⟨rfl, goes⟩ := List.cons_prefix_cons.mp starts
      have shifted : name = (front ++ [d]) ++ back := by
        rw [split, List.append_assoc, List.singleton_append]
      have longer : front ++ [d] ≠ [] := List.append_ne_nil_of_right_ne_nil _ (List.cons_ne_nil _ _)
      refine List.cons_prefix_cons.mpr ⟨rfl, step (fun entry inside occurs => ?_) shifted longer goes⟩
      exact spared entry inside (occurs.trans (List.suffix_cons _ _).isInfix)

section Replace

variable {entry : String × String} {c : Char}
  (marked : ∀ entry' ∈ entry :: entries, IsName entry'.1.toList)

include marked

/-- The name stands at the start: no name was replaced inside of it, for it has no further mark. -/
theorem replace_here (more : Scans entries cs out)
    (deeper : Scans (entries ++ [entry]) cs (replaceAllChars entry.1.toList entry.2.toList out))
    (here : entry.1.toList <+: c :: cs) :
    Scans (entries ++ [entry]) (c :: cs)
      (replaceAllChars entry.1.toList entry.2.toList (c :: out)) := by
  obtain ⟨isName, others⟩ := List.forall_mem_cons.mp marked
  have grown : ∀ entry' ∈ entries ++ [entry], IsName entry'.1.toList := fun entry' inside =>
    marked entry' (by simpa [or_comm] using inside)
  obtain ⟨rest, whole⟩ := here
  have ⟨tail, name, unmarked⟩ := isName
  rw [name, List.cons_append, List.cons_eq_cons] at whole
  obtain ⟨rfl, rfl⟩ := whole
  obtain ⟨left, rfl, -⟩ := of_unmarked others more unmarked
  rw [replaceAllChars_of_unmarked isName unmarked] at deeper
  obtain ⟨last, same, ends⟩ := of_unmarked grown deeper unmarked
  have put := Scans.put (List.mem_append_right entries (List.mem_singleton_self entry)) ends
  rw [name] at put
  rw [← List.cons_append, ← List.cons_append, ← name, replaceAllChars_append isName.ne_nil,
    List.append_cancel_left same]
  rwa [name]

/-- The name does not stand at the start, and it does not come to stand there. -/
theorem replace_elsewhere (more : Scans entries cs out)
    (spared : ∀ entry' ∈ entries, entry'.1.toList <:+: cs → Spares entry'.2 entry)
    (elsewhere : ¬ entry.1.toList <+: c :: cs) :
    replaceAllChars entry.1.toList entry.2.toList (c :: out) =
      c :: replaceAllChars entry.1.toList entry.2.toList out := by
  obtain ⟨isName, -⟩ := List.forall_mem_cons.mp marked
  by_cases same : entry.2 = entry.1
  · rw [same, replaceAllChars_self isName.ne_nil, replaceAllChars_self isName.ne_nil]
  · refine replaceAllChars_cons isName.ne_nil fun starts => elsewhere ?_
    obtain ⟨tail, name, -⟩ := isName
    rw [name] at starts ⊢
    obtain ⟨rfl, goes⟩ := List.cons_prefix_cons.mp starts
    refine List.cons_prefix_cons.mpr ⟨rfl, ?_⟩
    exact isPrefix_of_out more (fun entry' inside occurs =>
      (spared entry' inside occurs).resolve_left same) (name.trans List.singleton_append.symm)
      (List.cons_ne_nil _ _) goes

/-- **Replacing one more name after a scan** is a scan for one name more, unless a value that was put in
takes part in the name. -/
theorem replace (scans : Scans entries cs out)
    (spared : ∀ entry' ∈ entries, entry'.1.toList <:+: cs → Spares entry'.2 entry) :
    Scans (entries ++ [entry]) cs (replaceAllChars entry.1.toList entry.2.toList out) := by
  have isName := marked entry List.mem_cons_self
  induction scans with
  | done =>
    rw [replaceAllChars_nil isName.ne_nil]
    exact .done
  | @put old rest out inside more step =>
    have deeper := step fun entry' inside occurs =>
      spared entry' inside (occurs.trans (List.suffix_append _ _).isInfix)
    rw [replaceAllChars_of_spares (spared old inside (List.prefix_append _ _).isInfix) isName]
    exact .put (List.mem_append_left _ inside) deeper
  | @keep c cs out none more step =>
    have later : ∀ entry' ∈ entries, entry'.1.toList <:+: cs → Spares entry'.2 entry :=
      fun entry' inside occurs => spared entry' inside (occurs.trans (List.suffix_cons _ _).isInfix)
    by_cases here : entry.1.toList <+: c :: cs
    · exact replace_here marked more (step later) here
    · rw [replace_elsewhere marked more later here]
      refine .keep (fun entry' inside => ?_) (step later)
      rcases List.mem_append.mp inside with old | new
      · exact none entry' old
      · rw [List.mem_singleton.mp new]
        exact here

end Replace

/-- **Replacing names one after the other is one scan**, when every value that is put in spares the
replacements after it. -/
theorem each {later : List (String × String)} (scans : Scans entries cs out)
    (names : ∀ entry ∈ entries ++ later, IsName entry.1.toList)
    (spared : (entries ++ later).Pairwise fun entry other =>
      entry.1.toList <:+: cs → Spares entry.2 other) :
    Scans (entries ++ later) cs (replaceEach later out) := by
  induction later generalizing entries out with
  | nil => rwa [List.append_nil]
  | cons entry later step =>
    have split : entries ++ entry :: later = (entries ++ [entry]) ++ later :=
      (List.append_cons entries entry later)
    rw [split] at names spared ⊢
    refine step (scans.replace (fun entry' inside => ?_) fun entry' inside => ?_) names spared
    · exact names entry' (by simp only [List.mem_append, List.mem_cons] at inside ⊢; tauto)
    · exact (List.pairwise_append.mp (List.pairwise_append.mp spared).1).2.2 entry' inside entry
        (List.mem_singleton_self entry)

/-- One scan has one output, when no name is the beginning of another. -/
theorem unique {other : List Char} (scans : Scans entries cs out) (also : Scans entries cs other)
    (names : ∀ entry ∈ entries, IsName entry.1.toList)
    (apart : ∀ entry ∈ entries, ∀ entry' ∈ entries,
      entry.1.toList <+: entry'.1.toList → entry = entry') : out = other := by
  induction scans generalizing other with
  | done =>
    generalize whole : ([] : List Char) = cs at also
    cases also with
    | done => rfl
    | put inside more =>
      exact absurd (List.append_eq_nil_iff.mp whole.symm).1 (names _ inside).ne_nil
    | keep none more => cases whole
  | @put entry rest out inside more step =>
    generalize whole : entry.1.toList ++ rest = cs at also
    cases also with
    | done => exact absurd (List.append_eq_nil_iff.mp whole).1 (names _ inside).ne_nil
    | @put entry' rest' out' inside' more' =>
      have same : entry = entry' := by
        have starts : entry.1.toList <+: entry'.1.toList ++ rest' := whole ▸ List.prefix_append _ _
        rcases List.prefix_or_prefix_of_prefix starts (List.prefix_append _ _) with first | second
        · exact apart entry inside entry' inside' first
        · exact (apart entry' inside' entry inside second).symm
      subst same
      rw [step (List.append_cancel_left whole ▸ more')]
    | keep none more' => exact absurd (whole ▸ List.prefix_append _ _) (none entry inside)
  | @keep c cs out none more step =>
    generalize whole : c :: cs = cs' at also
    cases also with
    | done => cases whole
    | put inside more' => exact absurd (whole ▸ List.prefix_append _ _) (none _ inside)
    | keep none' more' =>
      cases whole
      rw [step more']

/-! ### One name -/

section One

variable {entry : String × String} (isName : IsName entry.1.toList)

include isName

/-- Replacing one name is a scan for it. -/
theorem replaceAllChars (cs : List Char) :
    Scans [entry] cs (Text.replaceAllChars entry.1.toList entry.2.toList cs) :=
  replace (by simpa using isName) (refl cs) nofun

/-- **What a scan for one name does to the number of characters of a kind**: for every name that was
replaced, those of the name go and those of the value come. -/
theorem occurrences (scans : Scans [entry] cs out) :
    ∃ n, (entry.1.toList <:+: cs → 0 < n) ∧ ∀ kind : Char → Bool,
      out.countP kind + n * entry.1.toList.countP kind =
        cs.countP kind + n * entry.2.toList.countP kind := by
  induction scans with
  | done =>
    refine ⟨0, fun occurs => ?_, fun kind => by simp⟩
    exact absurd (List.infix_nil.mp occurs) isName.ne_nil
  | put inside more step =>
    obtain ⟨n, -, balance⟩ := step
    cases List.mem_singleton.mp inside
    refine ⟨n + 1, fun _ => Nat.succ_pos n, fun kind => ?_⟩
    have before := balance kind
    rw [List.countP_append, List.countP_append, Nat.succ_mul, Nat.succ_mul]
    omega
  | @keep c cs out none more step =>
    obtain ⟨n, some, balance⟩ := step
    refine ⟨n, fun occurs => some ?_, fun kind => ?_⟩
    · exact (List.infix_cons_iff.mp occurs).resolve_left (none entry (List.mem_singleton_self entry))
    · have before := balance kind
      rw [List.countP_cons, List.countP_cons]
      omega

/-- A scan that changes nothing has replaced the name by itself, if it has replaced it at all. -/
theorem eq_of_unchanged (scans : Scans [entry] cs cs) (occurs : entry.1.toList <:+: cs) :
    entry.2 = entry.1 := by
  obtain ⟨n, some, balance⟩ := occurrences isName scans
  have alike : entry.2.toList.length = entry.1.toList.length := by
    have whole := Nat.add_left_cancel (balance fun _ => true)
    simpa using (Nat.eq_of_mul_eq_mul_left (some occurs) whole).symm
  have same : ∀ {cs out : List Char}, Scans [entry] cs out → out = cs → entry.1.toList <:+: cs →
      entry.2.toList = entry.1.toList := by
    intro cs out scans
    induction scans with
    | done => exact fun _ occurs => absurd (List.infix_nil.mp occurs) isName.ne_nil
    | put inside more step =>
      cases List.mem_singleton.mp inside
      exact fun unchanged _ => (List.append_inj unchanged alike).1
    | keep none more step =>
      intro unchanged occurs
      exact step (List.cons.inj unchanged).2
        ((List.infix_cons_iff.mp occurs).resolve_left (none entry (List.mem_singleton_self entry)))
  exact String.toList_inj.mp (same scans rfl occurs)

end One

end Scans

end DeviceTrial.Text
