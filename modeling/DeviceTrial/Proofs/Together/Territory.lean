/-
**What a trial heeds of the files, and what it does to them.**

Two trials that share their files come across each other where one of them makes something and the
other one would notice. Where a trial makes something is all along the paths of its credentials. It
would notice what is done on the way of its descriptor and to the credentials themselves; directories
that others make on the way of its credentials it does not notice, unless the way leads up again.

* `Plan.makes`, `Plan.heeds` — these places, and `Plan.Clears` — that a directory stands where they meet;
* `Plan.clears_of_apart` — so it is when no credential of one is at or below one of the other;
* `Trial.keepsTo_conduct` — **a trial works on no files but its credentials**;
* `Host.disturbs_handle` — what an effect of a trial does to what stands at a place;
* `Plan.Disturbs.unnoticed` — **another trial does not notice it**.
-/

import DeviceTrial.Proofs.Together.Files

namespace DeviceTrial

namespace Plan

/-- The paths of the files that a trial makes itself. -/
def credentials (plan : Plan) : List Path :=
  match plan.provisioning with
  | some provisioning => [provisioning.paths.certificate, provisioning.paths.key]
  | none => []

/-- The places at which a trial makes something: all that the paths of its credentials lead through. -/
def makes (plan : Plan) : List Place := plan.credentials.flatMap Path.stops

/-- The places at which a trial would notice whatever others do: those on the way of its descriptor, those
of its credentials, and those on the way of a credential if that leads up again. -/
def heeds (plan : Plan) : List Place :=
  plan.descriptor.stops ++ plan.credentials.map Path.place ++
    (plan.credentials.filter fun path => path.pieces.contains "..").flatMap Path.stops

/-- That a directory stands wherever another trial makes something that a trial would notice. -/
def Clears (plan other : Plan) (files : FileSystem) : Prop :=
  ∀ place ∈ plan.heeds, place ∈ other.makes → files.found? place = some .directory

/-- The ground of a trial that knows directories at some places. -/
def ground (plan : Plan) (paved : List Place) : Ground := ⟨plan.heeds, plan.makes, paved⟩

variable {plan : Plan} {path parent : Path} {place : Place} {paved : List Place}
  {provisioning : Provisioning}

theorem mem_credentials_of_has (wanted : plan.provisioning = some provisioning)
    (has : provisioning.paths.Has path) : path ∈ plan.credentials := by
  unfold credentials
  rw [wanted]
  rcases has with rfl | rfl
  · exact List.mem_cons_self
  · exact List.mem_cons_of_mem _ List.mem_cons_self

theorem mem_makes (own : path ∈ plan.credentials) (inside : place ∈ path.stops) :
    place ∈ plan.makes :=
  List.mem_flatMap.mpr ⟨path, own, inside⟩

theorem place_mem_heeds (own : path ∈ plan.credentials) : path.place ∈ plan.heeds :=
  List.mem_append_left _ (List.mem_append_right _ (List.mem_map.mpr ⟨path, own, rfl⟩))

/-- A trial owns its credentials. -/
theorem owns (own : path ∈ plan.credentials) (paved : List Place) : (plan.ground paved).Owns path where
  ends := place_mem_heeds own
  within _ inside := mem_makes own inside
  climbs up _ inside := List.mem_append_right _ (List.mem_flatMap.mpr
    ⟨path, List.mem_filter.mpr ⟨own, List.contains_iff_mem.mpr up⟩, inside⟩)

/-- A trial knows the ground on the way of its descriptor. -/
theorem knows_descriptor (plan : Plan) (paved : List Place) :
    ∀ place ∈ plan.descriptor.stops, (plan.ground paved).Knows place :=
  fun _ inside => .inr (.inl (List.mem_append_left _ (List.mem_append_left _ inside)))

/-- **Trials keep clear of each other's files** when the descriptor is there, no path leads up, and
neither the descriptor nor a credential of one is at a credential of the other or above it. -/
theorem clears_of_apart {other : Plan} {files : FileSystem} (tree : files.IsTree) {entry : Entry}
    (known : files.found? plan.descriptor.place = some entry)
    (down : ∀ path ∈ plan.descriptor :: (plan.credentials ++ other.credentials), ".." ∉ path.pieces)
    (apart : ∀ path ∈ plan.descriptor :: plan.credentials, ∀ credential ∈ other.credentials,
      ¬ path.place <+: credential.place) :
    plan.Clears other files := by
  intro place heeds makes
  obtain ⟨credential, own, inside⟩ := List.mem_flatMap.mp makes
  have above : place <+: credential.place := Path.prefix_of_mem_stops
    (down _ (List.mem_cons_of_mem _ (List.mem_append_right _ own))) inside
  rcases List.mem_append.mp heeds with heeded | climbing
  · rcases List.mem_append.mp heeded with reading | writing
    · have leads := Path.prefix_of_mem_stops (down _ List.mem_cons_self) reading
      refine tree.found?_above known leads ?_
      rintro rfl
      exact apart _ List.mem_cons_self credential own above
    · obtain ⟨path, mine, rfl⟩ := List.mem_map.mp writing
      exact absurd above (apart path (List.mem_cons_of_mem _ mine) credential own)
  · obtain ⟨path, climbs, -⟩ := List.mem_flatMap.mp climbing
    obtain ⟨mine, up⟩ := List.mem_filter.mp climbs
    exact absurd (List.contains_iff_mem.mp up)
      (down path (List.mem_cons_of_mem _ (List.mem_append_left _ mine)))

end Plan

/-! ### What a trial works on -/

/-- That an effect works on no files but the credentials of a plan. -/
def Effect.KeepsTo (plan : Plan) : Effect → Prop
  | .file (.makeDirectories parent) => ∃ path ∈ plan.credentials, path.parent? = some parent
  | .file (.write path _) | .file (.restrict path) | .file (.remove path) => path ∈ plan.credentials
  | .file (.rename _ _) => False
  | _ => True

/-- **A trial works on no files but its credentials.** -/
theorem Trial.keepsTo_conduct (plan : Plan) (limits : Limits) :
    (conduct plan limits).Within (Effect.KeepsTo plan) := by
  have allows : Effect.AllowsWork (Effect.KeepsTo plan) :=
    ⟨⟨fun _ _ _ => trivial, fun _ _ => trivial⟩, fun _ => trivial, fun _ => trivial, fun _ => trivial⟩
  have tells : AllowsTelling (Effect.KeepsTo plan) :=
    ⟨fun _ => trivial, fun _ _ _ => trivial, fun _ _ => trivial, fun _ _ => trivial⟩
  have files : Effect.AllowsFilesOf (Effect.KeepsTo plan) plan := by
    intro provisioning wanted
    exact ⟨fun path _ has known => ⟨path, Plan.mem_credentials_of_has wanted has, known⟩,
      fun _ _ => Plan.mem_credentials_of_has wanted, fun _ => Plan.mem_credentials_of_has wanted,
      fun _ => Plan.mem_credentials_of_has wanted⟩
  exact within_conduct tells allows files (fun _ => trivial) trivial trivial limits

/-- What a trial may do to what stands at a place. -/
inductive Plan.Disturbs (plan : Plan) (place : Place) : Option Entry → Option Entry → Prop where
  /-- It stays what it is. -/
  | kept (entry : Option Entry) : Disturbs plan place entry entry
  /-- A directory that was missing is made. -/
  | made (makes : place ∈ plan.makes) : Disturbs plan place none (some .directory)
  /-- It is no directory, and at the place of a credential. -/
  | changed {path : Path} (own : path ∈ plan.credentials) (here : place = path.place)
      {before after : Option Entry} (file : before ≠ some .directory) : Disturbs plan place before after

namespace Plan.Disturbs

variable {plan other : Plan} {files : FileSystem} {place : Place} {entry : Option Entry}

/-- A directory stays one. -/
theorem directory (disturbs : plan.Disturbs place (some .directory) entry) :
    entry = some .directory := by
  cases disturbs with
  | kept => rfl
  | changed own here file => exact absurd rfl file

/-- **Another trial does not notice it.** -/
theorem unnoticed (disturbs : plan.Disturbs place (files.found? place) entry)
    (clears : plan.Clears other files) (back : other.Clears plan files)
    (minds : place ∈ other.heeds ∨ place ∈ other.makes) :
    Unnoticed (place ∈ other.heeds) (files.found? place) entry := by
  generalize known : files.found? place = before at disturbs ⊢
  cases disturbs with
  | kept => exact .inl rfl
  | made makes =>
    refine .inr ⟨fun heeds => ?_, rfl, rfl⟩
    cases known.symm.trans (back place heeds makes)
  | @changed path own here _ _ file =>
    -- its credential belongs to what the other one heeds or makes
    refine absurd (known.symm.trans ?_) file
    subst here
    exact minds.elim
      (fun heeds => back _ heeds (mem_makes own (Path.place_mem_stops path)))
      (fun makes => clears _ (place_mem_heeds own) makes)

end Plan.Disturbs

/-- Directories that stand where two trials meet stay there. -/
theorem Plan.Clears.of_disturbs {plan other trial : Plan} {files after : FileSystem}
    (clears : plan.Clears other files)
    (disturbs : ∀ place, place ∈ plan.heeds → place ∈ other.makes →
      trial.Disturbs place (files.found? place) (after.found? place)) : plan.Clears other after := by
  intro place heeds makes
  have changed := disturbs place heeds makes
  rw [clears place heeds makes] at changed
  exact changed.directory

namespace FileSystem

variable {plan : Plan} {files : FileSystem} {path : Path} {place target : Place}

/-- Putting something where a credential belongs. -/
theorem disturbs_put (own : path ∈ plan.credentials) (leads : files.locate path = .ok target)
    (file : files.found? target ≠ some .directory) (entry : Entry) (place : Place) :
    plan.Disturbs place (files.found? place) ((files.put target entry).found? place) := by
  rw [found?_put files target place entry (ne_root file)]
  by_cases here : place = target
  · rw [if_pos here]
    exact .changed own (here.trans (locate_eq leads)) (here ▸ file)
  · rw [if_neg here]
    exact .kept _

/-- **What work on the credentials does to what stands at a place.** -/
theorem disturbs_answer {request : FileRequest} (keeps : Effect.KeepsTo plan (.file request))
    (files : FileSystem) (place : Place) :
    plan.Disturbs place (files.found? place) ((files.answer request).2.found? place) := by
  cases request with
  | read path => exact .kept _
  | rename source target => cases keeps
  | makeDirectories parent =>
    obtain ⟨path, own, known⟩ := keeps
    rw [answer_makeDirectories]
    rcases found?_attemptDirectories files parent place with same | ⟨inside, missing, there⟩
    · rw [same]
      exact .kept _
    · rw [missing, there]
      exact .made (Plan.mem_makes own (Path.mem_stops_of_parent known inside))
  | write path text =>
    show plan.Disturbs place _ ((files.commit (files.write path text.toUTF8)).2.found? place)
    cases written : files.write path text.toUTF8 with
    | error fault => exact .kept _
    | ok after =>
      obtain ⟨target, ownerOnly, leads, file, rfl⟩ := write_cases written
      exact disturbs_put keeps leads file _ place
  | restrict path =>
    show plan.Disturbs place _ ((files.commit (files.restrict path)).2.found? place)
    unfold restrict
    cases leads : files.locate path with
    | error fault => exact .kept _
    | ok target =>
      dsimp only [bind, Except.bind]
      cases found : files.found? target with
      | none => exact .kept _
      | some entry =>
        cases entry with
        | directory => exact .kept _
        | file content ownerOnly => exact disturbs_put keeps leads (by rw [found]; nofun) _ place
  | remove path =>
    show plan.Disturbs place _ ((files.without path).found? place)
    rcases without_cases files path with ⟨same, -⟩ | ⟨target, leads, file, same, -⟩
    · rw [same]
      exact .kept _
    · rw [same, found?_erase files (ne_root file)]
      by_cases here : place = target
      · exact .changed keeps (here.trans (locate_eq leads)) (here ▸ file)
      · rw [if_neg here]
        exact .kept _

end FileSystem

/-- **What an effect of a trial does to what stands at a place**, when its processes do nothing there. -/
theorem Host.disturbs_handle {σ : Type} {plan : Plan} {effect : Effect} (host : Host σ)
    (keeps : effect.KeepsTo plan) {place : Place}
    (spares : ∀ launch files, (host.launch launch files).2.found? place = files.found? place)
    (world : World σ) :
    plan.Disturbs place (world.files.found? place)
      ((host.handle effect world).2.files.found? place) := by
  cases effect with
  | file request => exact FileSystem.disturbs_answer keeps world.files place
  | launch launch =>
    show plan.Disturbs place _ ((host.launch launch world.files).2.found? place)
    rw [spares]
    exact .kept _
  | _ => exact .kept _

end DeviceTrial
