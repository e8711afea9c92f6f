/-
**Two worlds that look alike to a run.**

* `Fits.handle` — **what corresponds is answered alike**, and the worlds look alike after that;
* `Program.Alike.advance` — what one run does next, the other one comes to do;
* `Program.Alike.arrive` — when one run is at its end, the other one comes there, too.
-/

import DeviceTrial.Proofs.Together.Registries

namespace DeviceTrial

open Registry

/-- The number of the certificate of the run that is not alone. -/
def Situation.number (situation : Situation) : Option Nat := situation.stage.made?.map Prod.snd

/-- That two worlds look alike to the run of a thing. -/
structure Fits (thing : String) (situation : Situation)
    (alone shared : World (Interrupted Registry)) : Prop where
  planes : Matches thing situation.stage alone.plane.state shared.plane.state
  free : alone.plane.injections = []
  freeShared : shared.plane.injections = []
  files : ∀ ground, situation.ground = some ground → alone.files.ResemblesOn ground shared.files

/-- That certificates are issued, with numbers beyond those given, or none are. -/
def Situation.Grows (before after : Situation) (alone shared : Nat) : Prop :=
  after.stage.made? = before.stage.made? ∨ before.stage.made? = none ∧
    ∃ m n, after.stage.made? = some (m, n) ∧ alone < m ∧ shared < n

/-- That the ground is the same, with more places known at which a directory stands, or that nothing is
known of the files any more. -/
def Situation.Paves (before after : Situation) : Prop :=
  ∀ ground, after.ground = some ground →
    ∃ known places, before.ground = some known ∧ ground = known.pave places

theorem Situation.Paves.of_same {before after : Situation} (same : after.ground = before.ground) :
    before.Paves after :=
  fun ground known => ⟨ground, [], same.symm.trans known, rfl⟩

/-- A control plane without injections is not interrupted. -/
theorem Interrupted.answer_of_free {interrupted : Interrupted Registry}
    (free : interrupted.injections = []) (call : Call) :
    ((Interrupted.plane Registry.plane).answer call interrupted).1 =
        (Registry.answer call interrupted.state).1 ∧
      ((Interrupted.plane Registry.plane).answer call interrupted).2.state =
        (Registry.answer call interrupted.state).2 ∧
      ((Interrupted.plane Registry.plane).answer call interrupted).2.injections = [] := by
  have none : interrupted.interruption? call.operation = none := by
    unfold Interrupted.interruption?
    rw [free]
    rfl
  obtain ⟨reply, state⟩ := Interrupted.answer_free Registry.plane none
  refine ⟨reply, state, ?_⟩
  unfold Interrupted.plane
  dsimp only
  rw [none]
  exact free

namespace Matched

variable {thing : String} {situation after : Situation} {effect other : Effect}
  {answer : effect.Answer} {reply : other.Answer}

/-- What is answered alike is an own errand. -/
theorem own (matched : Matched thing situation effect answer other reply after) {errand : Errand}
    (shows' : Errand.view other reply = some errand) : errand.IsOwn thing after.number := by
  have numbered : ∀ {situation : Situation} {m n : Nat}, situation.stage.made? = some (m, n) →
      situation.number = some n := by
    intro situation m n made
    rw [Situation.number, made]
    rfl
  cases matched with
  | @plain _ call plain reply returns =>
    cases shows'
    cases call <;> first | exact plain | trivial
  | unissued | unlisted | bare | listed =>
    cases shows'
    trivial
  | issued m n ground =>
    cases shows'
    exact ⟨n, rfl, rfl⟩
  | attached m n ground returns =>
    cases shows'
    exact ⟨rfl, n, rfl, rfl⟩
  | permitted policy m n ground returns =>
    cases shows'
    exact ⟨n, rfl, rfl⟩
  | detached made gone =>
    cases shows'
    exact ⟨rfl, _, numbered made, rfl⟩
  | @deactivated _ m n made =>
    cases shows'
    exact ⟨n, rfl, rfl⟩
  | deleted m n ground gone =>
    cases shows'
    exact ⟨n, rfl, rfl⟩
  | paved | unpaved | written | restricted => cases shows'
  | read | launched =>
    cases shows'
    trivial

/-- Numbers are known when a certificate is issued, and then stay. -/
theorem made (matched : Matched thing situation effect answer other reply after) :
    after.stage.made? = situation.stage.made? ∨ situation.stage.made? = none ∧
      ∃ m n, after.stage.made? = some (m, n) ∧
        Errand.view effect answer = some (.call .createCertificate (.ok (certificateNumber m))) ∧
        Errand.view other reply = some (.call .createCertificate (.ok (certificateNumber n))) := by
  cases matched with
  | issued m n ground => exact .inr ⟨rfl, m, n, rfl, rfl, rfl⟩
  | deactivated made gone => exact .inl made.symm
  | _ => exact .inl rfl

theorem paves (matched : Matched thing situation effect answer other reply after) :
    situation.Paves after := by
  cases matched with
  | @paved stage ground path admits =>
    rintro _ ⟨⟩
    exact ⟨ground, path.stops, rfl, rfl⟩
  | launched launch outcome => exact nofun
  | _ => exact .of_same rfl

end Matched

section InMemory

variable {connect : String → Reply String} {process : Launch → Except String Finish}
  {touch : Launch → FileSystem → FileSystem} {tag : Nat → RunTag} {thing : String}
  {situation : Situation} {alone shared : World (Interrupted Registry)} {effect other : Effect}

/-- A host on which every process comes to an end that depends on how it is started alone. -/
abbrev Host.settled (connect : String → Reply String) (process : Launch → Except String Finish)
    (touch : Launch → FileSystem → FileSystem) (tag : Nat → RunTag) :
    Host (Interrupted Registry) :=
  .inMemory connect (fun launch files => (process launch, touch launch files)) tag

/-! ### One effect in both worlds -/

/-- Calls that correspond are answered alike. -/
theorem Fits.handle_call (fits : Fits thing situation alone shared) {call request : Call}
    (asks : Corresponds thing situation (.call call) (.call request)) :
    ∃ after, Matched thing situation
        (.call call) ((Host.settled connect process touch tag).handle (.call call) alone).1
        (.call request) ((Host.settled connect process touch tag).handle (.call request) shared).1
        after ∧
      Fits thing after ((Host.settled connect process touch tag).handle (.call call) alone).2
        ((Host.settled connect process touch tag).handle (.call request) shared).2 := by
  obtain ⟨stage, ground⟩ := situation
  obtain ⟨after, matched, planes⟩ := fits.planes.answered asks
  obtain ⟨reply, state, free⟩ := Interrupted.answer_of_free fits.free call
  obtain ⟨replyShared, stateShared, freeShared⟩ :=
    Interrupted.answer_of_free fits.freeShared request
  refine ⟨⟨after, ground⟩, ?_, ⟨?_, free, freeShared, fits.files⟩⟩
  · have alike := matched ground
    rw [← reply, ← replyShared] at alike
    exact alike
  · rw [← state, ← stateShared] at planes
    exact planes

section Grounded

variable {stage : Stage} {ground : Ground}

/-- After work on the files alone. -/
theorem Fits.with_files (fits : Fits thing ⟨stage, some ground⟩ alone shared) {known : Ground}
    {files filesShared : FileSystem} (alike : files.ResemblesOn known filesShared) :
    Fits thing ⟨stage, some known⟩ { alone with files := files }
      { shared with files := filesShared } :=
  { fits with
    files := by
      rintro _ ⟨⟩
      exact alike }

/-- Directories are made alike. -/
theorem Fits.handle_makeDirectories (fits : Fits thing ⟨stage, some ground⟩ alone shared)
    {path : Path} (admits : ground.Admits path) :
    ∃ after, Matched thing ⟨stage, some ground⟩
        (.file (.makeDirectories path)) (alone.files.answer (.makeDirectories path)).1
        (.file (.makeDirectories path)) (shared.files.answer (.makeDirectories path)).1 after ∧
      Fits thing after { alone with files := (alone.files.answer (.makeDirectories path)).2 }
        { shared with files := (shared.files.answer (.makeDirectories path)).2 } := by
  have known := fits.files ground rfl
  obtain ⟨same, alike⟩ := known.attemptDirectories admits
  rw [FileSystem.answer_makeDirectories, FileSystem.answer_makeDirectories, same]
  cases done : (alone.files.attemptDirectories path).1 with
  | error fault => exact ⟨_, .unpaved stage admits fault, fits.with_files alike⟩
  | ok value => exact ⟨_, .paved stage admits, fits.with_files (known.pave done alike)⟩

end Grounded

/-- **What corresponds is answered alike**, and the worlds look alike after that. -/
theorem Fits.handle (fits : Fits thing situation alone shared)
    (asks : Corresponds thing situation effect other) :
    ∃ after, Matched thing situation
        effect ((Host.settled connect process touch tag).handle effect alone).1
        other ((Host.settled connect process touch tag).handle other shared).1 after ∧
      Fits thing after ((Host.settled connect process touch tag).handle effect alone).2
        ((Host.settled connect process touch tag).handle other shared).2 := by
  have corresponds := asks
  obtain ⟨_, _, _, matched⟩ := asks
  cases matched with
  | paved stage admits => exact fits.handle_makeDirectories admits
  | unpaved stage admits fault => exact fits.handle_makeDirectories admits
  | @written stage ground path knows text more texts answer =>
    have known := fits.files ground rfl
    obtain ⟨same, alike⟩ := known.commit (known.write knows texts)
    refine ⟨⟨stage, some ground⟩, ?_, fits.with_files alike⟩
    show Matched thing _ (.file (.write path text)) (alone.files.commit _).1
      (.file (.write path more)) (shared.files.commit _).1 _
    rw [same]
    exact .written stage knows texts _
  | @restricted stage ground path knows answer =>
    have known := fits.files ground rfl
    obtain ⟨same, alike⟩ := known.commit (known.restrict knows)
    refine ⟨⟨stage, some ground⟩, ?_, fits.with_files alike⟩
    show Matched thing _ (.file (.restrict path)) (alone.files.commit _).1
      (.file (.restrict path)) (shared.files.commit _).1 _
    rw [same]
    exact .restricted stage knows _
  | @read stage ground path knows =>
    have known := fits.files ground rfl
    exact ⟨⟨stage, some ground⟩, .read stage knows (known.readText knows), fits.with_files known⟩
  | launched launch outcome =>
    exact ⟨⟨situation.stage, none⟩, .launched launch (process launch), { fits with files := nofun }⟩
  | _ => exact fits.handle_call corresponds

/-- What is only told changes nothing that a run looks at. -/
theorem handle_silent {host : Host (Interrupted Registry)} {removing : Bool}
    (silent : effect.IsSilent removing) (world : World (Interrupted Registry)) :
    (host.handle effect world).2.plane = world.plane ∧
      (removing = false → (host.handle effect world).2.files = world.files) ∧
      Errand.view effect (host.handle effect world).1 = none := by
  cases effect with
  | file request =>
    cases request with
    | remove path =>
      refine ⟨rfl, fun kept => ?_, rfl⟩
      rw [kept] at silent
      cases silent
    | _ => cases silent
  | log event => exact ⟨rfl, fun _ => rfl, rfl⟩
  | record sample => exact ⟨rfl, fun _ => rfl, rfl⟩
  | _ => cases silent

/-- What others see of a world. -/
theorem Fits.of_same (fits : Fits thing situation alone shared)
    {here there : World (Interrupted Registry)} (plane : here.plane = alone.plane)
    (planeShared : there.plane = shared.plane)
    (files : situation.strayed = false → here.files = alone.files)
    (filesShared : situation.strayed = false → there.files = shared.files) :
    Fits thing situation here there where
  planes := by
    rw [plane, planeShared]
    exact fits.planes
  free := plane ▸ fits.free
  freeShared := planeShared ▸ fits.freeShared
  files ground known := by
    have kept : situation.strayed = false := by rw [Situation.strayed, known]; rfl
    rw [files kept, filesShared kept]
    exact fits.files ground known

/-- No effect takes a number back. -/
theorem issued_handle (effect : Effect) (world : World (Interrupted Registry)) :
    world.plane.state.issued ≤
      ((Host.settled connect process touch tag).handle effect world).2.plane.state.issued := by
  cases effect with
  | call call =>
    have grows := Serves.issued (Interrupted.serves_answer world.plane call)
    exact grows
  | _ => exact Nat.le_refl _

/-- A certificate is issued under the next number. -/
theorem issued_of_view {world : World (Interrupted Registry)} {certificate : Certificate}
    (shows' : Errand.view effect
        ((Host.settled connect process touch tag).handle effect world).1 =
      some (.call .createCertificate (.ok certificate))) :
    certificate = certificateNumber (world.plane.state.issued + 1) := by
  cases effect with
  | call call =>
    have served := Interrupted.serves_answer world.plane call
    injection Option.some.inj shows' with request reply
    subst request
    rw [show ((Interrupted.plane Registry.plane).answer .createCertificate world.plane).1 = _ from
      eq_of_heq reply] at served
    exact (Serves.created served).1
  | file request =>
    cases request with
    | _ => cases shows'
  | _ => cases shows'

/-- What an own errand leaves alone. -/
theorem keeps_handle {world : World (Interrupted Registry)} {number : Option Nat}
    (sound : world.plane.state.IsSound) (free : world.plane.injections = [])
    (own : ∀ errand, Errand.view effect
        ((Host.settled connect process touch tag).handle effect world).1 = some errand →
      errand.IsOwn thing number) :
    world.plane.state.Keeps thing number
      ((Host.settled connect process touch tag).handle effect world).2.plane.state := by
  cases effect with
  | call call =>
    obtain ⟨reply, state, -⟩ := Interrupted.answer_of_free free call
    have mine := own _ rfl
    show world.plane.state.Keeps thing number
      ((Interrupted.plane Registry.plane).answer call world.plane).2.state
    rw [state]
    refine keeps_answer sound ?_
    rw [← reply]
    exact mine
  | _ => exact .refl thing number _

/-! ### Runs -/

section Runs

variable {α : Type} {ends : Situation → α → α → Prop} {left right : Program α}

/-- **What one run does next, the other one comes to do.** -/
theorem Program.Alike.advance (alike : Program.Alike thing ends situation left right)
    (fits : Fits thing situation alone shared) {next : effect.Answer → Program α}
    (here : right = .perform effect next) :
    ∃ after rest world,
      Program.Alike thing ends after rest
        (next ((Host.settled connect process touch tag).handle effect shared).1) ∧
      Fits thing after world ((Host.settled connect process touch tag).handle effect shared).2 ∧
      rest.runIn (.settled connect process touch tag) world =
        left.runIn (.settled connect process touch tag) alone ∧
      alone.plane.state.issued ≤ world.plane.state.issued ∧
      situation.Grows after alone.plane.state.issued shared.plane.state.issued ∧
      situation.Paves after ∧
      ∀ errand, Errand.view effect
          ((Host.settled connect process touch tag).handle effect shared).1 = some errand →
        errand.IsOwn thing after.number := by
  induction alike generalizing alone with
  | done ended => cases here
  | both asks rest step =>
    cases here
    obtain ⟨after, matched, alike⟩ := fits.handle asks
    refine ⟨after, _, _, rest _ _ _ matched, alike, rfl, issued_handle _ _, ?_, matched.paves,
      fun errand => matched.own⟩
    rcases matched.made with same | ⟨unmade, m, n, made, here, there⟩
    · exact .inl same
    · have first := certificateId_injective (congrArg Certificate.id (issued_of_view here))
      have second := certificateId_injective (congrArg Certificate.id (issued_of_view there))
      exact .inr ⟨unmade, m, n, made, by omega, by omega⟩
  | left silent rest step =>
    obtain ⟨plane, files, -⟩ := handle_silent silent alone
    obtain ⟨after, last, world, alike, fits, run, issued, grows, paves, own⟩ :=
      step _ (fits.of_same plane rfl files fun _ => rfl) here
    rw [plane] at issued grows
    exact ⟨after, last, world, alike, fits, run, issued, grows, paves, own⟩
  | right silent rest step =>
    cases here
    obtain ⟨plane, files, unseen⟩ := handle_silent silent shared
    refine ⟨_, _, alone, rest _, fits.of_same rfl plane (fun _ => rfl) files, rfl, Nat.le_refl _,
      .inl rfl, .of_same rfl, fun errand shows' => ?_⟩
    cases unseen.symm.trans shows'
  | stray rest step =>
    obtain ⟨after, last, world, alike, fits, run, issued, grows, paves, own⟩ :=
      step { fits with files := nofun } here
    refine ⟨after, last, world, alike, fits, run, issued, grows, fun ground known => ?_, own⟩
    obtain ⟨_, _, none, -⟩ := paves ground known
    cases none

/-- **When one run is at its end, the other one comes there, too.** -/
theorem Program.Alike.arrive (alike : Program.Alike thing ends situation left right)
    (fits : Fits thing situation alone shared) {value : α} (here : right = .done value) :
    ∃ after result world, left.runIn (.settled connect process touch tag) alone = (result, world) ∧
      ends after result value ∧ after.stage = situation.stage ∧ Fits thing after world shared := by
  induction alike generalizing alone with
  | done ended =>
    cases here
    exact ⟨_, _, alone, rfl, ended, rfl, fits⟩
  | both asks rest step => cases here
  | left silent rest step =>
    obtain ⟨plane, files, -⟩ := handle_silent silent alone
    exact step _ (fits.of_same plane rfl files fun _ => rfl) here
  | right silent rest step => cases here
  | stray rest step => exact step { fits with files := nofun } here

end Runs

end InMemory

end DeviceTrial
