/-
**Two trials at the same time.**

Two trials share the files of a machine and a control plane in memory, on which operations can be made
to fail that take nothing away. Whatever the order of their turns, each goes as it would go alone, unless
they come across each other's files:

* `Accompanied.advance`, `Isolated.turn` — **the invariant and its step**: beside each run its own
  run alone can be led so that they stay alike, and all that the two change is their own;
* `contest_isolated` — each trial ends with the report that it ends with alone, none takes anything
  away from the other, and in the end things and certificates are those of before;
* `contest_of_crossing` — trials that come across each other's files are not isolated.
-/

import DeviceTrial.Proofs.Together.Trials
import DeviceTrial.Proofs.Together.Turns
import DeviceTrial.Proofs.Together.Worlds
import DeviceTrial.Proofs.Trial.Compensation
import Mathlib.Logic.Function.Basic

namespace DeviceTrial

open Registry

/-- The world in which nothing has happened yet. -/
def Registry.world (registry : Registry) (files : FileSystem) : World (Interrupted Registry) :=
  .start (.start registry []) files

/-- A trial with all that it does not share with another one. -/
structure Contender where
  /-- The plan of the trial. -/
  plan : Plan
  /-- The limits of the trial. -/
  limits : Limits
  /-- Connecting to the control plane of a region. -/
  connect : String → Reply String
  /-- How a process ends. -/
  process : Launch → Except String Finish
  /-- What a process does to the files. -/
  touch : Launch → FileSystem → FileSystem
  /-- The random tags. -/
  tag : Nat → RunTag

namespace Contender

/-- The host of a trial. -/
abbrev host (contender : Contender) : Host (Interrupted Registry) :=
  .settled contender.connect contender.process contender.touch contender.tag

/-- That the processes of a trial do nothing where another one heeds or makes something. -/
def Spares (contender : Contender) (other : Plan) : Prop :=
  ∀ place, place ∈ other.heeds ∨ place ∈ other.makes → ∀ launch files,
    (contender.touch launch files).found? place = files.found? place

/-- The program of a trial. -/
def program (contender : Contender) : Program (Fate Empty Report) :=
  (Trial.conduct contender.plan contender.limits).program

/-- The run of a trial alone. -/
def alone (contender : Contender) (registry : Registry) (files : FileSystem) :
    Fate Empty Report × World (Interrupted Registry) :=
  contender.program.runIn contender.host (registry.world files)

end Contender

/-- Two trials before their first turns. -/
def contest (contenders : Side → Contender) (registry : Registry) (files : FileSystem) :
    Together (Interrupted Registry) (Fate Empty Report) :=
  ⟨.start registry [], files, fun side =>
    .start (contenders side).program (registry.world files)⟩

/-- How far a run alone has come. -/
structure Companion where
  /-- What is known of it and the run beside which it goes. -/
  situation : Situation
  /-- What is still to be done. -/
  left : Program (Fate Empty Report)
  /-- What it works on. -/
  world : World (Interrupted Registry)

/-- The number of the certificate of the run beside which a companion goes. -/
def Companion.number (companion : Companion) : Option Nat := companion.situation.number

/-- The number of the certificate of a run after a turn: it is what it was, or it was given out just
now. -/
inductive Renumbers (issued : Nat) : Option Nat → Option Nat → Prop where
  | kept (number : Option Nat) : Renumbers issued number number
  | given {n : Nat} (fresh : issued < n) : Renumbers issued none (some n)

namespace Renumbers

variable {issued n : Nat} {number later : Option Nat}

theorem known (renumbers : Renumbers issued number later) (known : number = some n) :
    later = some n := by
  cases renumbers with
  | kept => exact known
  | given fresh => cases known

/-- A number that is that of others stays theirs. -/
theorem ne (renumbers : Renumbers issued number later) (small : n ≤ issued)
    (apart : number ≠ some n) : later ≠ some n := by
  cases renumbers with
  | kept => exact apart
  | given fresh =>
    intro same
    cases same
    exact absurd small (Nat.not_le_of_lt fresh)

/-- Hiding a certificate that is given out just now hides nothing. -/
theorem hide_eq {registry : Registry} (sound : registry.IsSound)
    (renumbers : Renumbers registry.issued number later) :
    hide later registry.certificates = hide number registry.certificates := by
  cases renumbers with
  | kept => rfl
  | given fresh =>
    refine hide_of_absent fun m same => ?_
    cases same
    exact sound.unissued fresh

end Renumbers

/-- **That a trial goes on as its companion does**, which is the same trial alone. -/
structure Accompanied (contender : Contender) (registry : Registry) (files : FileSystem)
    (companion : Companion) (running : Running (Interrupted Registry) (Fate Empty Report)) :
    Prop where
  run : companion.left.runIn contender.host companion.world = contender.alone registry files
  alike : Program.Alike contender.plan.identity (Agree Situation.Same) companion.situation
    companion.left running.left
  fits : Fits contender.plan.identity companion.situation companion.world running.world
  own : ∀ errand ∈ Errand.view.seen running.past,
    errand.IsOwn contender.plan.identity companion.number
  issued : registry.issued ≤ companion.world.plane.state.issued
  /-- The certificate of the companion is none of before. -/
  beyond : ∀ m n, companion.situation.stage.made? = some (m, n) → registry.issued < m
  /-- The trial works on no files but its credentials. -/
  within : running.left.Within (Effect.KeepsTo contender.plan)
  /-- What is known of the files is known from the ground of the trial. -/
  ground : ∀ ground, companion.situation.ground = some ground →
    ∃ paved, ground = contender.plan.ground paved

namespace Accompanied

variable {contender : Contender} {registry : Registry} {files : FileSystem} {companion : Companion}
  {running : Running (Interrupted Registry) (Fate Empty Report)}

/-- Before the first turn. -/
theorem start (sound : registry.IsSound) (unbroken : registry.panicking = [])
    (spared : ∀ operation ∈ registry.failing, operation.isTeardown = false)
    (unknown : registry.things.get? contender.plan.identity = none) (tree : files.IsTree) :
    Accompanied contender registry files
      ⟨⟨.unmade, some (contender.plan.ground [])⟩, contender.program, registry.world files⟩
      (.start contender.program (registry.world files)) where
  run := rfl
  alike := Trial.alike_conduct contender.plan contender.limits
  fits :=
    { planes :=
        { sound := sound
          soundShared := sound
          secrets := rfl
          jobs := rfl
          shadows := rfl
          failing := rfl
          unbroken := unbroken
          unbrokenShared := unbroken
          spared := spared
          things := by
            show ThingAlike none (registry.things.get? _) (registry.things.get? _)
            rw [unknown]
            exact .absent
          certificates := .unmade }
      free := rfl
      freeShared := rfl
      files := by
        rintro _ ⟨⟩
        exact .refl tree contender.plan.heeds contender.plan.makes }
  own := nofun
  issued := Nat.le_refl _
  beyond := nofun
  within := Trial.keepsTo_conduct contender.plan contender.limits
  ground := by
    rintro _ ⟨⟩
    exact ⟨[], rfl⟩

/-- **The trial does what comes next**, and its companion comes to do the same. -/
theorem advance (accompanied : Accompanied contender registry files companion running) :
    ∃ later, Accompanied contender registry files later (running.advance contender.host) ∧
      running.world.plane.state.Keeps contender.plan.identity later.number
        (running.advance contender.host).world.plane.state ∧
      Renumbers running.world.plane.state.issued companion.number later.number := by
  cases left : running.left with
  | done value =>
    rw [Running.advance_of_done left]
    exact ⟨companion, accompanied, .refl _ _ _, .kept _⟩
  | perform effect next =>
    obtain ⟨after, rest, world, alike, fits, run, issued, grows, paves, own⟩ :=
      accompanied.alike.advance accompanied.fits left
    rw [Running.advance_of_perform left]
    have renumbers : Renumbers running.world.plane.state.issued companion.number after.number := by
      unfold Companion.number Situation.number
      rcases grows with same | ⟨unmade, m, n, made, -, large⟩
      · rw [same]
        exact .kept _
      · rw [unmade, made]
        exact .given large
    refine ⟨⟨after, rest, world⟩, ⟨run.trans accompanied.run, alike, fits, ?_,
      Nat.le_trans accompanied.issued issued, ?_, ?_, ?_⟩, ?_, renumbers⟩
    · intro errand inside
      rw [View.seen_append, View.seen_cons] at inside
      rcases List.mem_append.mp inside with before | now
      · exact (accompanied.own errand before).mono fun n => renumbers.known
      · exact own errand (by simpa [View.seen] using now)
    · intro m n made
      rcases grows with same | ⟨-, m', n', made', large, -⟩
      · exact accompanied.beyond m n (same.symm.trans made)
      · cases made'.symm.trans made
        exact Nat.lt_of_le_of_lt accompanied.issued large
    · exact (accompanied.within.of_perform left).2 _
    · intro ground known
      obtain ⟨before, places, same, rfl⟩ := paves ground known
      obtain ⟨paved, rfl⟩ := accompanied.ground before same
      exact ⟨places ++ paved, rfl⟩
    · exact keeps_handle accompanied.fits.planes.soundShared accompanied.fits.freeShared own

/-- What the trial does to the files. -/
theorem disturbs (accompanied : Accompanied contender registry files companion running)
    {other : Plan} (spares : contender.Spares other) {place : Place}
    (minds : place ∈ other.heeds ∨ place ∈ other.makes) :
    contender.plan.Disturbs place (running.world.files.found? place)
      ((running.advance contender.host).world.files.found? place) := by
  cases left : running.left with
  | done value =>
    rw [Running.advance_of_done left]
    exact .kept _
  | perform effect next =>
    rw [Running.advance_of_perform left]
    exact contender.host.disturbs_handle (accompanied.within.of_perform left).1
      (spares place minds) running.world

/-- What the other run does to its own makes no difference. -/
theorem meet (accompanied : Accompanied contender registry files companion running)
    {plane : Interrupted Registry} (free : plane.injections = [])
    (planes : Matches contender.plan.identity companion.situation.stage companion.world.plane.state
      plane.state) {after : FileSystem}
    (unnoticed : ∀ place, place ∈ contender.plan.heeds ∨ place ∈ contender.plan.makes →
      Unnoticed (place ∈ contender.plan.heeds) (running.world.files.found? place)
        (after.found? place)) :
    Accompanied contender registry files companion (running.meet plane after) :=
  { accompanied with
    fits := { accompanied.fits with
      planes := planes
      freeShared := free
      files := fun ground known => by
        obtain ⟨paved, rfl⟩ := accompanied.ground ground known
        exact (accompanied.fits.files _ known).of_unnoticed unnoticed } }

end Accompanied

/-! ### Two trials -/

/-- **That two trials are isolated from each other.** -/
structure Isolated (contenders : Side → Contender) (registry : Registry) (files : FileSystem)
    (companions : Side → Companion)
    (together : Together (Interrupted Registry) (Fate Empty Report)) : Prop where
  accompanied : ∀ side, Accompanied (contenders side) registry files (companions side)
    (together.running side)
  /-- The certificates of the two are not the same. -/
  apart : ∀ side n, (companions side).number = some n → (companions side.other).number ≠ some n
  things : ∀ side, (together.plane.state.things.erase (contenders side).plan.identity).erase
    (contenders side.other).plan.identity = registry.things
  certificates : ∀ side, hide (companions side.other).number
    (hide (companions side).number together.plane.state.certificates) = registry.certificates
  /-- A directory stands wherever they would come across each other. -/
  clears : ∀ side, (contenders side).plan.Clears (contenders side.other).plan together.files

section Contest

variable {contenders : Side → Contender} {registry : Registry} {files : FileSystem}
  {companions : Side → Companion} {together : Together (Interrupted Registry) (Fate Empty Report)}

theorem Isolated.start (sound : registry.IsSound) (unbroken : registry.panicking = [])
    (spared : ∀ operation ∈ registry.failing, operation.isTeardown = false)
    (unknown : ∀ side, registry.things.get? (contenders side).plan.identity = none)
    (tree : files.IsTree)
    (clears : ∀ side, (contenders side).plan.Clears (contenders side.other).plan files) :
    Isolated contenders registry files
      (fun side => ⟨⟨.unmade, some ((contenders side).plan.ground [])⟩, (contenders side).program,
        registry.world files⟩)
      (contest contenders registry files) where
  accompanied side := .start sound unbroken spared (unknown side) tree
  apart := nofun
  things side := by
    show (registry.things.erase _).erase _ = registry.things
    rw [Table.erase_of_get?_eq_none (unknown side),
      Table.erase_of_get?_eq_none (unknown side.other)]
  certificates _ := rfl
  clears := clears

/-- What a trial does to its own keeps the trials isolated. -/
theorem Isolated.work (isolated : Isolated contenders registry files companions together)
    (different : ∀ side, (contenders side).plan.identity ≠ (contenders side.other).plan.identity)
    {side : Side} {later : Companion}
    {change : Running (Interrupted Registry) (Fate Empty Report) →
      Running (Interrupted Registry) (Fate Empty Report)}
    (accompanied : Accompanied (contenders side) registry files later
      (change (together.running side)))
    (keeps : together.plane.state.Keeps (contenders side).plan.identity later.number
      (together.work change side).plane.state)
    (renumbers : Renumbers together.plane.state.issued (companions side).number later.number)
    (disturbs : ∀ place, place ∈ (contenders side.other).plan.heeds ∨
        place ∈ (contenders side.other).plan.makes →
      (contenders side).plan.Disturbs place (together.files.found? place)
        ((together.work change side).files.found? place)) :
    Isolated contenders registry files (Function.update companions side later)
      (together.work change side) := by
  have here := isolated.accompanied side
  have there := isolated.accompanied side.other
  have clears := isolated.clears side
  have back := isolated.clears side.other
  have own : Function.update companions side later side = later := Function.update_self _ _ _
  have others : Function.update companions side later side.other = companions side.other :=
    Function.update_of_ne side.other_ne _ _
  -- a certificate that is issued now has a number beyond that of the other run
  have apart : ∀ n, (companions side.other).number = some n → later.number ≠ some n := by
    intro n known
    obtain ⟨⟨_, _⟩, own, rfl⟩ := Option.map_eq_some_iff.mp known
    exact renumbers.ne (there.fits.planes.certificates.known own).1
      fun also => isolated.apart side _ also known
  have hidden : hide later.number together.plane.state.certificates =
      hide (companions side).number together.plane.state.certificates :=
    renumbers.hide_eq here.fits.planes.soundShared
  have things := isolated.things side
  rw [← keeps.things] at things
  have certificates := isolated.certificates side
  rw [← hidden, ← keeps.certificates] at certificates
  rw [Side.other_other] at back
  refine ⟨fun known => ?_, fun known => ?_, fun known => ?_, fun known => ?_, fun known => ?_⟩
  · rcases known.eq_or_eq_other side with rfl | rfl
    · rw [own, Together.running_work]
      exact accompanied
    · rw [others, Together.running, Together.runs_work_of_ne _ side.other_ne]
      exact there.meet accompanied.fits.freeShared
        (there.fits.planes.of_keeps accompanied.fits.planes.soundShared keeps
          (different side).symm apart)
        fun place minds => (disturbs place minds).unnoticed clears back minds
  · rcases known.eq_or_eq_other side with rfl | rfl
    · rw [own, others]
      exact fun n mine known => apart n known mine
    · rw [Side.other_other, own, others]
      exact apart
  · rcases known.eq_or_eq_other side with rfl | rfl
    · exact things
    · rw [Side.other_other, Table.erase_comm]
      exact things
  · rcases known.eq_or_eq_other side with rfl | rfl
    · rw [own, others]
      exact certificates
    · rw [Side.other_other, own, others, hide_comm]
      exact certificates
  · rcases known.eq_or_eq_other side with rfl | rfl
    · exact clears.of_disturbs fun place _ makes => disturbs place (.inr makes)
    · rw [Side.other_other]
      exact back.of_disturbs fun place heeds _ => disturbs place (.inl heeds)

/-- **A turn of one of the trials keeps them isolated.** -/
theorem Isolated.turn (isolated : Isolated contenders registry files companions together)
    (different : ∀ side, (contenders side).plan.identity ≠ (contenders side.other).plan.identity)
    (spares : ∀ side, (contenders side).Spares (contenders side.other).plan) (side : Side) :
    ∃ later, Isolated contenders registry files later
      (together.turn (fun side => (contenders side).host) side) := by
  have here := isolated.accompanied side
  obtain ⟨later, accompanied, keeps, renumbers⟩ := here.advance
  exact ⟨_, isolated.work different accompanied keeps renumbers
    fun _ minds => here.disturbs (spares side) minds⟩

/-! ### Their ends -/

variable (contenders registry files) in
/-- Two trials at their ends, after turns. -/
def contested (turns : List Side) : Together (Interrupted Registry) (Fate Empty Report) :=
  (contest contenders registry files).ended (fun side => (contenders side).host) turns

/-- A trial alone takes away what it made. -/
theorem Contender.alone_restores (contender : Contender) (reachable : Reachable registry)
    (unbroken : registry.panicking = [])
    (spared : ∀ operation ∈ registry.failing, operation.isTeardown = false)
    (unknown : registry.things.get? contender.plan.identity = none) (files : FileSystem) :
    ∃ report last, contender.alone registry files = (.done report, last) ∧
      last.plane.state.things = registry.things ∧
      last.plane.state.certificates = registry.certificates := by
  have fails : ∀ operation interruption,
      (registry.world files).plane.meddling operation interruption →
        operation ∈ registry.failing ∧ ∃ fault, interruption = .fault fault := by
    rintro operation interruption (⟨injection, inside, -⟩ | ⟨failing, reason, rfl⟩ | ⟨breaks, -⟩)
    · cases inside
    · exact ⟨failing, _, rfl⟩
    · rw [show (registry.world files).plane.state.panicking = [] from unbroken] at breaks
      cases breaks
  have returns : (registry.world files).plane.meddling.NeverHangs := by
    intro operation hangs
    obtain ⟨-, fault, same⟩ := fails operation _ hangs
    cases same
  obtain ⟨report, last, seen, run, -, -, same, serves,
    ⟨certificates, -⟩ | ⟨_, -, -, errand, inside, crashed⟩⟩ :=
      Trial.conduct_leaves contender.connect
        (fun launch files => (contender.process launch, contender.touch launch files))
        contender.tag contender.plan contender.limits reachable unknown
        (fun operation interruption meddles => spared operation (fails _ _ meddles).1) returns
  · exact ⟨report, last, run, same.things, certificates⟩
  · obtain ⟨message, panics⟩ := Trial.panics_of_crashed returns serves inside crashed
    obtain ⟨-, fault, wrong⟩ := fails _ _ panics
    cases wrong

/-- A trial at its end has come to the end of the same trial alone. -/
theorem Accompanied.arrive {contender : Contender} {companion : Companion}
    {running : Running (Interrupted Registry) (Fate Empty Report)}
    (accompanied : Accompanied contender registry files companion running) {fate : Fate Empty Report}
    (done : running.left = .done fate) :
    (contender.alone registry files).1 = fate ∧
      Matches contender.plan.identity companion.situation.stage
        (contender.alone registry files).2.plane.state running.world.plane.state := by
  obtain ⟨after, result, world, run, ended, stage, fits⟩ :=
    accompanied.alike.arrive accompanied.fits done
  have planes := fits.planes
  rw [← accompanied.run, run]
  rw [stage] at planes
  refine ⟨?_, planes⟩
  cases ended with
  | done same => exact congrArg Fate.done same.symm
  | failed fault => cases fault

/-- Of what a trial had nothing is left when the same trial alone left everything as it was. -/
theorem Accompanied.clean {contender : Contender} {companion : Companion}
    {running : Running (Interrupted Registry) (Fate Empty Report)}
    (accompanied : Accompanied contender registry files companion running) {fate : Fate Empty Report}
    (done : running.left = .done fate) (sound : registry.IsSound)
    (unknown : registry.things.get? contender.plan.identity = none)
    (things : (contender.alone registry files).2.plane.state.things = registry.things)
    (certificates : (contender.alone registry files).2.plane.state.certificates =
      registry.certificates) :
    running.world.plane.state.things.get? contender.plan.identity = none ∧
      hide companion.number running.world.plane.state.certificates =
        running.world.plane.state.certificates := by
  obtain ⟨-, planes⟩ := accompanied.arrive done
  constructor
  · have alike := planes.things.isSome_eq
    rw [things, unknown] at alike
    exact Option.isNone_iff_eq_none.mp (Option.isSome_eq_false_iff.mp alike)
  · refine hide_of_absent fun n number => ?_
    obtain ⟨⟨m, _⟩, made, rfl⟩ := Option.map_eq_some_iff.mp number
    refine (planes.certificates.known made).2 ?_
    rw [certificates]
    exact sound.unissued (accompanied.beyond _ _ made)

variable (contenders registry files) in
/-- **Two trials at the same time are isolated from each other**, whatever the order of their turns, when
a directory stands wherever one makes something that the other would notice, and the processes of each do
nothing there. -/
theorem contest_isolated (reachable : Reachable registry) (unbroken : registry.panicking = [])
    (spared : ∀ operation ∈ registry.failing, operation.isTeardown = false)
    (different : (contenders .first).plan.identity ≠ (contenders .second).plan.identity)
    (unknown : ∀ side, registry.things.get? (contenders side).plan.identity = none)
    (tree : files.IsTree)
    (clears : ∀ side, (contenders side).plan.Clears (contenders side.other).plan files)
    (spares : ∀ side, (contenders side).Spares (contenders side.other).plan)
    (turns : List Side) :
    (∀ side, ∃ report, ((contenders side).alone registry files).1 = .done report ∧
        ((contested contenders registry files turns).runs side).left = .done (.done report)) ∧
      (∀ side, ∀ errand ∈ Errand.view.seen ((contested contenders registry files turns).runs side).past,
        ¬ errand.TakesFrom (contenders side.other).plan.identity
          (Errand.view.seen ((contested contenders registry files turns).runs side.other).past)) ∧
      (contested contenders registry files turns).plane.state.things = registry.things ∧
      (contested contenders registry files turns).plane.state.certificates = registry.certificates := by
  have sound := isSound_of_reachable reachable
  have others : ∀ side,
      (contenders side).plan.identity ≠ (contenders side.other).plan.identity := by
    intro side
    cases side with
    | first => exact different
    | second => exact different.symm
  obtain ⟨companions, isolated⟩ : ∃ companions,
      Isolated contenders registry files companions (contested contenders registry files turns) :=
    Together.ended_of_turns
      (fun together => ∃ known, Isolated contenders registry files known together)
      (fun _ side ⟨_, isolated⟩ => isolated.turn others spares side)
      ⟨_, .start sound unbroken spared unknown tree clears⟩ turns
  have done : ∀ side, ∃ fate,
      ((contested contenders registry files turns).runs side).left = .done fate :=
    Together.exists_done_of_ended turns (contest contenders registry files)
  have restores := fun side =>
    (contenders side).alone_restores reachable unbroken spared (unknown side) files
  refine ⟨fun side => ?_, fun side errand inside => ?_, ?_⟩
  · obtain ⟨fate, left⟩ := done side
    obtain ⟨report, last, alone, -⟩ := restores side
    obtain ⟨same, -⟩ := (isolated.accompanied side).arrive left
    rw [alone] at same
    subst same
    exact ⟨report, congrArg Prod.fst alone, left⟩
  · exact ((isolated.accompanied side).own errand inside).spares (others side)
      (isolated.accompanied side.other).own (isolated.apart side)
  · have clean : ∀ side, (contested contenders registry files turns).plane.state.things.get?
          (contenders side).plan.identity = none ∧
        hide (companions side).number
            (contested contenders registry files turns).plane.state.certificates =
          (contested contenders registry files turns).plane.state.certificates := by
      intro side
      obtain ⟨fate, left⟩ := done side
      obtain ⟨report, last, alone, things, certificates⟩ := restores side
      rw [← show ((contenders side).alone registry files).2 = last from congrArg Prod.snd alone]
        at things certificates
      exact (isolated.accompanied side).clean left sound (unknown side) things certificates
    constructor
    · rw [← isolated.things .first, Table.erase_of_get?_eq_none (clean .first).1,
        Table.erase_of_get?_eq_none (clean (Side.other .first)).1]
    · rw [← isolated.certificates .first, (clean .first).2, (clean (Side.other .first)).2]

/-! ### Two trials to try -/

/-- A trial of a plan for an identity, of which the processes do nothing to the files. -/
def sampleContender (identity : String) (certificate key : Path) : Contender where
  plan :=
    { Trial.samplePlan with
      identity := identity
      provisioning := some ⟨.name "policy", ⟨certificate, key⟩, some "devices"⟩ }
  limits := ⟨1, 1, 1⟩
  connect := .ok
  process _ := .ok ⟨.empty, .empty, [], .exited 0⟩
  touch _ files := files
  tag _ := Trial.samplePlan.tag

/-- Files with the descriptor of the trials. -/
def sampleFiles : FileSystem :=
  (default : FileSystem).put ["trial.json"] (.file "[\"\",\"x\"]".toUTF8 false)

theorem isTree_sampleFiles : sampleFiles.IsTree :=
  FileSystem.isTree_default.put (by decide) (by decide) _

/-- Two trials for different identities, with credentials in a directory that is not there yet. -/
def sampleContenders : Side → Contender
  | .first => sampleContender "device-a" ⟨"/run/a.pem"⟩ ⟨"/run/a.key"⟩
  | .second => sampleContender "device-b" ⟨"/run/b.pem"⟩ ⟨"/run/b.key"⟩

theorem clears_sampleContenders (side : Side) :
    (sampleContenders side).plan.Clears (sampleContenders side.other).plan sampleFiles := by
  have known : sampleFiles.found? (sampleContenders side).plan.descriptor.place =
      some (.file "[\"\",\"x\"]".toUTF8 false) := by
    cases side <;> rfl
  refine Plan.clears_of_apart isTree_sampleFiles known ?_ ?_
  · cases side <;> decide +kernel
  · cases side <;> decide +kernel

/-- What is known of one of the trials, of which the identity was taken away. -/
def sampleReport (identity : String) (provision drive verify : Slot) : Report :=
  ⟨.jobs, Trial.samplePlan.tag, identity, ⟨provision, drive, verify, .passed⟩, []⟩

/-- What is known of a trial when no thing can be described. -/
def undescribed (identity : String) : Report :=
  sampleReport identity .passed .passed (.failed ("verification failed: query error: " ++
    "mock failed: injected failure in DescribeThing for '" ++ identity ++ "'"))

/-- Turns in which the second trial is ahead. -/
def sampleTurns : List Side := (List.replicate 12 [Side.first, .second, .second]).flatten

/-- Two trials in turns that make the same directory; no thing can be described to either of them. -/
theorem contest_isolated_undescribed :
    let ended := contested sampleContenders (empty.failingOn .describeThing) sampleFiles sampleTurns
    (ended.runs .first).left = .done (.done (undescribed "device-a")) ∧
      (ended.runs .second).left = .done (.done (undescribed "device-b")) ∧
      ended.plane.state.things = Table.empty ∧ ended.plane.state.certificates = Table.empty := by
  obtain ⟨ends, -, things, certificates⟩ :=
    contest_isolated sampleContenders (empty.failingOn .describeThing) sampleFiles
      (.failing .empty .describeThing) rfl (by decide) (by decide) (fun _ => rfl) isTree_sampleFiles
      clears_sampleContenders (fun side place minds launch files => by cases side <;> rfl)
      sampleTurns
  obtain ⟨first, alone, left⟩ := ends .first
  obtain ⟨second, aloneSecond, leftSecond⟩ := ends .second
  have ended : ((sampleContenders .first).alone (empty.failingOn .describeThing) sampleFiles).1 =
      .done (undescribed "device-a") := by decide +kernel
  have endedSecond :
      ((sampleContenders .second).alone (empty.failingOn .describeThing) sampleFiles).1 =
        .done (undescribed "device-b") := by decide +kernel
  cases alone.symm.trans ended
  cases aloneSecond.symm.trans endedSecond
  exact ⟨left, leftSecond, things, certificates⟩

/-- A trial at the same time as another one. -/
def crossing (other : Contender) : Side → Contender
  | .first => sampleContender "device-a" ⟨"/a.pem"⟩ ⟨"/a.key"⟩
  | .second => other

/-- A trial whose certificate is to stand below that of the other one. -/
def nestedContender : Contender := sampleContender "device-b" ⟨"/a.pem/b.pem"⟩ ⟨"/b.key"⟩

/-- A trial whose certificate is to stand where the other one reads its descriptor. -/
def coveringContender : Contender := sampleContender "device-b" ⟨"/trial.json"⟩ ⟨"/b.key"⟩

/-- A trial of which a process makes a directory where the certificate of the other one is to stand. -/
def meddlingContender : Contender :=
  { sampleContender "device-b" ⟨"/b.pem"⟩ ⟨"/b.key"⟩ with
    touch := fun _ files => files.put ["a.pem"] .directory }

/-- What is known of a trial of which the certificate could not be written. -/
def uncertified : Report :=
  sampleReport "device-a" (.failed ("provisioning of 'device-a' failed: " ++
    "write credentials: Is a directory (os error 21)")) .notAttempted .notAttempted

/-- **Trials that come across each other's files.** Alone the first one passes. It fails when the
certificate of the other is to stand below its own, or where its descriptor is, or when a process of the
other makes something where its certificate is to stand, although their identities and their credentials
are different. -/
theorem contest_of_crossing :
    (∀ other ∈ [nestedContender, coveringContender, meddlingContender],
      (crossing other .first).plan.identity ≠ other.plan.identity ∧
      (∀ path ∈ (crossing other .first).plan.credentials, path ∉ other.plan.credentials) ∧
      ((crossing other .first).alone empty sampleFiles).1 =
        .done (sampleReport "device-a" .passed .passed .passed)) ∧
    ((contested (crossing nestedContender) empty sampleFiles
        (List.replicate 14 .second)).runs .first).left =
      .done (.done uncertified) ∧
    (∃ reason, ((contested (crossing coveringContender) empty sampleFiles
        (List.replicate 14 .second)).runs .first).left =
      .done (.done (sampleReport "device-a" .passed (.failed reason) .notAttempted))) ∧
    ((contested (crossing meddlingContender) empty sampleFiles
        (List.replicate 40 .second)).runs .first).left =
      .done (.done uncertified) := by
  refine ⟨by decide +kernel, congrArg Program.done ?_,
    ⟨"scenario descriptor /trial.json: invalid JSON: not a scenario descriptor",
      congrArg Program.done ?_⟩, congrArg Program.done ?_⟩
  · decide +kernel
  · decide +kernel
  · decide +kernel

end Contest

end DeviceTrial
