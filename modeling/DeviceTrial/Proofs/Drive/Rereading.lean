/-
**When a value that was put in is read again.**

A value that takes part in a name which is replaced later gives a text away: there is a template with
no name but that of the value in which the later name comes to stand. What is replaced then can not be
taken back by the replacements after it.

* `replaceEach_ne` — **replacing names that occur changes a text for good**;
* `TakesPart.exists_frame` — what has to stand around a value;
* `replaceEach_eq_iff` — replacing names one after the other is one scan, for all templates with some
  of the names, **exactly when their values spare the replacements after them**.
-/

import DeviceTrial.Proofs.Drive.Scanning

namespace DeviceTrial.Text

/-! ### Changes that stay -/

section Changes

variable {entry : String × String} {cs : List Char} {c : Char}

/-- Characters that a name does not have do not become fewer, and they become more when the value has
them and the name occurs. -/
theorem count_le_replaceAllChars (isName : IsName entry.1.toList) (lacks : c ∉ entry.1.toList) :
    cs.count c ≤ (replaceAllChars entry.1.toList entry.2.toList cs).count c ∧
      (entry.1.toList <:+: cs → c ∈ entry.2.toList →
        cs.count c < (replaceAllChars entry.1.toList entry.2.toList cs).count c) := by
  obtain ⟨n, some, balance⟩ := Scans.occurrences isName (Scans.replaceAllChars isName cs)
  have whole := balance (· == c)
  simp only [← List.count_eq_countP, List.count_eq_zero.mpr lacks] at whole
  refine ⟨by omega, fun occurs has => ?_⟩
  have gain : 0 < n * entry.2.toList.count c := Nat.mul_pos (some occurs) (List.count_pos_iff.mpr has)
  omega

/-- A value without marks leaves none where the only mark was that of a name. -/
theorem nameMark_not_mem_replaceAllChars (isName : IsName entry.1.toList)
    (plain : nameMark ∉ entry.2.toList) (occurs : entry.1.toList <:+: cs)
    (single : cs.count nameMark ≤ 1) :
    nameMark ∉ replaceAllChars entry.1.toList entry.2.toList cs := by
  obtain ⟨n, some, balance⟩ := Scans.occurrences isName (Scans.replaceAllChars isName cs)
  have whole := balance (· == nameMark)
  have marked : 0 < entry.1.toList.count nameMark := by
    obtain ⟨tail, name, -⟩ := isName
    exact List.count_pos_iff.mpr (name ▸ List.mem_cons_self)
  have lost : 0 < n * entry.1.toList.count nameMark := Nat.mul_pos (some occurs) marked
  simp only [← List.count_eq_countP, List.count_eq_zero.mpr plain] at whole
  rw [← List.count_eq_zero]
  omega

variable {entries : List (String × String)}

theorem count_le_replaceEach
    (names : ∀ entry ∈ entries, IsName entry.1.toList ∧ c ∉ entry.1.toList) :
    cs.count c ≤ (replaceEach entries cs).count c := by
  induction entries generalizing cs with
  | nil => exact Nat.le_refl _
  | cons entry entries step =>
    obtain ⟨⟨isName, lacks⟩, others⟩ := List.forall_mem_cons.mp names
    exact (count_le_replaceAllChars isName lacks).1.trans (step others)

/-- A text without marks stays. -/
theorem replaceEach_of_unmarked (names : ∀ entry ∈ entries, IsName entry.1.toList)
    (unmarked : nameMark ∉ cs) : replaceEach entries cs = cs := by
  induction entries with
  | nil => rfl
  | cons entry entries step =>
    obtain ⟨isName, others⟩ := List.forall_mem_cons.mp names
    have absent : ¬ entry.1.toList <:+: cs := by
      obtain ⟨tail, name, -⟩ := isName
      exact fun occurs => unmarked (occurs.subset (name ▸ List.mem_cons_self))
    show replaceEach entries (replaceAllChars _ _ cs) = cs
    rw [replaceAllChars_of_not_isInfix isName.ne_nil absent, step others]

/-- **Replacing names that occur changes a text for good**, when every value but the last one either
has a character that no name has, or has no mark and replaces the only name. -/
theorem replaceEach_ne {inner : List (String × String)} {last other : String × String}
    (names : ∀ entry ∈ inner ++ [last], IsName entry.1.toList ∧ c ∉ entry.1.toList)
    (firm : ∀ entry ∈ inner, c ∈ entry.2.toList ∨
      nameMark ∉ entry.2.toList ∧ cs.count nameMark ≤ 1)
    (inside : other ∈ inner ++ [last]) (alters : other.2 ≠ other.1)
    (occurs : other.1.toList <:+: cs) : replaceEach (inner ++ [last]) cs ≠ cs := by
  induction inner with
  | nil =>
    obtain rfl := List.mem_singleton.mp inside
    obtain ⟨isName, -⟩ := names other inside
    intro unchanged
    have scans := Scans.replaceAllChars isName cs
    rw [show replaceAllChars other.1.toList other.2.toList cs = cs from unchanged] at scans
    exact alters (Scans.eq_of_unchanged isName scans occurs)
  | cons entry inner step =>
    rw [List.cons_append] at names inside ⊢
    obtain ⟨⟨isName, lacks⟩, others⟩ := List.forall_mem_cons.mp names
    obtain ⟨first, firms⟩ := List.forall_mem_cons.mp firm
    show replaceEach (inner ++ [last]) (replaceAllChars _ _ cs) ≠ cs
    by_cases here : entry.1.toList <:+: cs ∧ entry.2 ≠ entry.1
    · rcases first with has | ⟨plain, single⟩
      · -- there are more such characters now, and there never are fewer again
        intro unchanged
        have more := (count_le_replaceAllChars isName lacks).2 here.1 has
        refine Nat.not_le_of_lt more ((count_le_replaceEach others).trans ?_)
        rw [unchanged]
      · have unmarked := nameMark_not_mem_replaceAllChars isName plain here.1 single
        rw [replaceEach_of_unmarked (fun entry inside => (others entry inside).1) unmarked]
        intro unchanged
        rw [unchanged] at unmarked
        obtain ⟨tail, name, -⟩ := isName
        exact unmarked (here.1.subset (name ▸ List.mem_cons_self))
    · have stays : replaceAllChars entry.1.toList entry.2.toList cs = cs := by
        rcases not_and_or.mp here with absent | same
        · exact replaceAllChars_of_not_isInfix isName.ne_nil absent
        · rw [not_not.mp same, replaceAllChars_self isName.ne_nil]
      have later : other ∈ inner ++ [last] := by
        rcases List.mem_cons.mp inside with rfl | later
        · exact absurd ⟨occurs, alters⟩ here
        · exact later
      rw [stays]
      exact step others firms later

end Changes

/-! ### Templates around a value -/

/-- What has to stand around a value that takes part in a name: a beginning of the name, and behind
the value a text without marks. -/
theorem TakesPart.exists_frame {name value : List Char} (isName : IsName name)
    (takes : TakesPart name value) :
    ∃ front back, front <+: name ∧ front ≠ name ∧ nameMark ∉ back ∧
      name <:+: front ++ (value ++ back) := by
  rcases takes with inside | ⟨n, short, some, meets⟩
  · refine ⟨[], [], List.nil_prefix, isName.ne_nil.symm, nofun, ?_⟩
    rwa [List.nil_append, List.append_nil]
  · have unmarked : nameMark ∉ name.drop n := by
      obtain ⟨tail, rfl, plain⟩ := isName
      obtain ⟨m, rfl⟩ := Nat.exists_eq_succ_of_ne_zero (Nat.ne_of_gt some)
      exact fun marked => plain (List.mem_of_mem_drop marked)
    have proper : name.take n ≠ name := by
      intro same
      have length := congrArg List.length same
      rw [List.length_take] at length
      omega
    rcases meets with ⟨more, ends⟩ | ⟨more, starts⟩ | ⟨more, reaches⟩
    · refine ⟨[], name.drop n, List.nil_prefix, isName.ne_nil.symm, unmarked, more, [], ?_⟩
      rw [← ends, List.nil_append, List.append_nil, List.append_assoc, List.take_append_drop]
    · refine ⟨name.take n, [], List.take_prefix n name, proper, nofun, [], more, ?_⟩
      rw [List.nil_append, List.append_nil, ← starts, ← List.append_assoc, List.take_append_drop]
    · refine ⟨name.take n, more, List.take_prefix n name, proper, ?_, ?_⟩
      · exact fun marked => unmarked (reaches ▸ List.mem_append_right _ marked)
      · rw [reaches, List.take_append_drop]

section Frames

variable {entries : List (String × String)}
  (names : ∀ entry ∈ entries, IsName entry.1.toList)
  (apart : ∀ entry ∈ entries, ∀ entry' ∈ entries,
    entry.1.toList <+: entry'.1.toList → entry = entry')
  {entry other : String × String} (inside : entry ∈ entries) (known : other ∈ entries)
  {front back : List Char} (begins : front <+: other.1.toList) (proper : front ≠ other.1.toList)
  (unmarked : nameMark ∉ back)

include names apart inside known begins proper

/-- No name starts in front of the name in a template. -/
theorem not_isPrefix_front {inner : List Char} (suffix : inner <:+ front) (some : inner ≠ [])
    {entry' : String × String} (one : entry' ∈ entries) :
    ¬ entry'.1.toList <+: inner ++ (entry.1.toList ++ back) := by
  intro starts
  obtain ⟨tail, name, plain⟩ := names entry' one
  obtain ⟨tail', name', plain'⟩ := names other known
  -- what is in front has its only mark at its start, so the name starts there
  have whole : inner = front := by
    obtain ⟨before, split⟩ := suffix
    cases before with
    | nil => exact split
    | cons d before =>
      cases inner with
      | nil => exact absurd rfl some
      | cons e inner =>
        rw [name] at starts
        obtain ⟨rfl, -⟩ := List.cons_prefix_cons.mp starts
        rw [← split, name'] at begins
        obtain ⟨-, within⟩ := List.cons_prefix_cons.mp begins
        exact absurd (within.subset (List.mem_append_right _ List.mem_cons_self)) plain'
  subst whole
  rcases isPrefix_append_cases starts with shorter | ⟨more, filled, split, goes⟩
  · obtain rfl := apart entry' one other known (shorter.trans begins)
    exact proper (begins.eq_of_length_le shorter.length_le)
  · -- the name would have a second mark, that of the name behind
    obtain ⟨tail'', name'', -⟩ := names entry inside
    cases more with
    | nil => exact filled rfl
    | cons d more =>
      rw [name'', List.cons_append] at goes
      obtain ⟨rfl, -⟩ := List.cons_prefix_cons.mp goes
      cases inner with
      | nil => exact some rfl
      | cons e inner =>
        rw [name] at split
        obtain ⟨-, same⟩ := List.cons.inj split
        exact plain (same ▸ List.mem_append_right _ List.mem_cons_self)

include unmarked

/-- The name of the value is the only one in a template. -/
theorem eq_of_isInfix_frame {entry' : String × String} (one : entry' ∈ entries)
    (occurs : entry'.1.toList <:+: front ++ (entry.1.toList ++ back)) : entry' = entry := by
  have behind : entry'.1.toList <:+: entry.1.toList ++ back := by
    have none : ∀ inner, inner <:+ front → inner ≠ [] →
        ¬ entry'.1.toList <+: inner ++ (entry.1.toList ++ back) := fun inner suffix some =>
      not_isPrefix_front names apart inside known begins proper suffix some one
    clear begins proper
    induction front with
    | nil => exact occurs
    | cons c front step =>
      refine step ?_ fun inner suffix => none inner (suffix.trans (List.suffix_cons c front))
      exact (List.infix_cons_iff.mp occurs).resolve_left
        (none (c :: front) List.suffix_rfl (List.cons_ne_nil _ _))
  obtain ⟨tail, name, plain⟩ := names entry inside
  rw [name, List.cons_append] at behind
  rcases List.infix_cons_iff.mp behind with starts | later
  · rw [← List.cons_append, ← name] at starts
    rcases List.prefix_or_prefix_of_prefix starts (List.prefix_append _ _) with first | second
    · exact apart entry' one entry inside first
    · exact (apart entry inside entry' one second).symm
  · obtain ⟨tail', name', -⟩ := names entry' one
    have marked := later.subset (name' ▸ List.mem_cons_self : nameMark ∈ entry'.1.toList)
    rcases List.mem_append.mp marked with early | late
    · exact absurd early plain
    · exact absurd late unmarked

/-- A scan of a template puts the value in, for the name of the value and any others. -/
theorem scans_frame {few : List (String × String)} (within : few ⊆ entries) (one : entry ∈ few) :
    Scans few (front ++ (entry.1.toList ++ back)) (front ++ (entry.2.toList ++ back)) := by
  have rest : Scans few (back ++ []) (back ++ []) :=
    Scans.done.skip fun inner suffix _ entry' also =>
      (names entry' (within also)).not_isPrefix fun marked => by
        rw [List.append_nil] at marked
        exact unmarked (suffix.subset marked)
  rw [List.append_nil] at rest
  exact (Scans.put one rest).skip fun inner suffix some entry' also =>
    not_isPrefix_front names apart inside known begins proper suffix some (within also)

end Frames

/-! ### All templates -/

/-- A relation between the elements of a list and those behind them. -/
theorem pairwise_concat_of_split {α : Type} {related : α → α → Prop} {inner : List α} {last : α}
    (all : ∀ before item later, inner = before ++ item :: later →
      ∀ other ∈ later ++ [last], related item other) : (inner ++ [last]).Pairwise related := by
  induction inner with
  | nil => exact List.pairwise_singleton related last
  | cons item inner step =>
    refine List.pairwise_cons.mpr ⟨all [] item inner rfl, step fun before item' later split => ?_⟩
    exact all (item :: before) item' later (by rw [split, List.cons_append])

theorem count_nameMark_le {name front : List Char} (isName : IsName name) (begins : front <+: name) :
    front.count nameMark ≤ 1 := by
  obtain ⟨tail, rfl, plain⟩ := isName
  have whole := begins.sublist.count_le nameMark
  rwa [List.count_cons_self, List.count_eq_zero.mpr plain] at whole

section Templates

variable {inner : List (String × String)} {last : String × String} {c : Char}
  (names : ∀ entry ∈ inner ++ [last], IsName entry.1.toList ∧ c ∉ entry.1.toList)
  (apart : ∀ entry ∈ inner ++ [last], ∀ entry' ∈ inner ++ [last],
    entry.1.toList <+: entry'.1.toList → entry = entry')
  (distinct : (inner ++ [last]).Nodup)
  (firm : inner.Pairwise fun entry other =>
    c ∈ other.2.toList ∨ nameMark ∉ other.2.toList ∧ nameMark ∉ entry.2.toList)

include names apart distinct firm

/-- A value that takes part in a later name has a template with no other name that is not replaced as
in one scan. -/
theorem exists_template {before later : List (String × String)} {entry other : String × String}
    (split : inner = before ++ entry :: later) (behind : other ∈ later ++ [last])
    (alters : other.2 ≠ other.1) (takes : TakesPart other.1.toList entry.2.toList) :
    ∃ cs out, Scans (inner ++ [last]) cs out ∧
      (∀ entry' ∈ inner ++ [last], entry'.1.toList <:+: cs → entry' = entry) ∧
      replaceEach (inner ++ [last]) cs ≠ out := by
  have marked : ∀ entry ∈ inner ++ [last], IsName entry.1.toList := fun entry inside =>
    (names entry inside).1
  have whole : inner ++ [last] = (before ++ [entry]) ++ (later ++ [last]) := by simp [split]
  have within : before ++ [entry] ⊆ inner ++ [last] := whole ▸ List.subset_append_left _ _
  have inside : entry ∈ inner ++ [last] := by simp [split]
  have known : other ∈ inner ++ [last] := whole ▸ List.mem_append_right _ behind
  obtain ⟨front, back, begins, proper, unmarked, occurs⟩ :=
    TakesPart.exists_frame (marked other known) takes
  have only : ∀ entry' ∈ inner ++ [last],
      entry'.1.toList <:+: front ++ (entry.1.toList ++ back) → entry' = entry :=
    fun _ => eq_of_isInfix_frame marked apart inside known begins proper unmarked
  refine ⟨_, _, scans_frame marked apart inside known begins proper unmarked
    (List.Subset.refl _) inside, only, ?_⟩
  -- the replacements up to the value put it in, as the scan does
  have fresh : entry ∉ before := by
    rw [split, List.append_assoc, List.nodup_append] at distinct
    exact fun early => distinct.2.2 entry early entry (by simp) rfl
  have put : replaceEach (before ++ [entry]) (front ++ (entry.1.toList ++ back)) =
      front ++ (entry.2.toList ++ back) := by
    have scans := (Scans.refl (front ++ (entry.1.toList ++ back))).each
      (fun entry' one => marked entry' (within one))
      (pairwise_concat_of_split fun first item rest early _ _ happens => ?_)
    · exact scans.unique (scans_frame marked apart inside known begins proper unmarked within
        (by simp)) (fun entry' one => marked entry' (within one))
        fun _ one _ two => apart _ (within one) _ (within two)
    · have isEarly : item ∈ before := by simp [early]
      exact absurd (only item (within (List.mem_append_left _ isEarly)) happens ▸ isEarly) fresh
  -- and those after it change it for good
  rw [whole, replaceEach_append, put]
  have named : ∀ entry' ∈ later ++ [last], IsName entry'.1.toList ∧ c ∉ entry'.1.toList :=
    fun entry' one => names entry' (whole ▸ List.mem_append_right _ one)
  refine replaceEach_ne named (fun entry' one => ?_) behind alters occurs
  rw [split, List.pairwise_append, List.pairwise_cons] at firm
  refine (firm.2.1.1 entry' one).imp_right fun plain => ⟨plain.1, ?_⟩
  rw [List.count_append, List.count_append, List.count_eq_zero.mpr plain.2,
    List.count_eq_zero.mpr unmarked]
  exact count_nameMark_le (marked other known) begins

/-- **Replacing names one after the other is one scan**, for all templates with no names but the used
ones, exactly when the values of the used names spare the replacements after them. This is so when
every value but the last one either has a character that no name has, or has no mark and stands behind
values without marks. -/
theorem replaceEach_eq_iff (used : String → Prop) :
    (∀ cs out, Scans (inner ++ [last]) cs out →
      (∀ entry ∈ inner ++ [last], entry.1.toList <:+: cs → used entry.1) →
        replaceEach (inner ++ [last]) cs = out) ↔
      (inner ++ [last]).Pairwise fun entry other => used entry.1 → Spares entry.2 other := by
  constructor
  · intro same
    refine pairwise_concat_of_split fun before entry later split other behind isUsed => ?_
    by_contra affected
    obtain ⟨alters, takes⟩ := not_or.mp affected
    obtain ⟨cs, out, scans, only, changed⟩ :=
      exists_template names apart distinct firm split behind alters (not_not.mp takes)
    exact changed (same cs out scans fun entry' inside occurs =>
      only entry' inside occurs ▸ isUsed)
  · intro spared cs out scans all
    have marked := fun entry inside => (names entry inside).1
    have also := (Scans.refl cs).each marked
      (spared.imp_of_mem fun inside _ spares occurs => spares (all _ inside occurs))
    exact also.unique scans marked apart

end Templates

end DeviceTrial.Text
