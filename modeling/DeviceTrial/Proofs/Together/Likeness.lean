/-
**Two runs that go alike.**

A run that shares its control plane with others is compared with the same run alone. The two are
issued certificates with different numbers, and in the end their files may differ; for the rest they
ask for the same and are answered alike. `Matched` says which answers to which effects are alike, and
`Program.Alike` says of two programs that they stay alike whatever they are answered so.

* `Program.Alike.bind`, `Action.Alike.bind` — one after the other;
* `Action.Alike.attempt`, `Action.Alike.contain`, `Action.Alike.limited` — what is made of a failure
  is made of it in both.
-/

import DeviceTrial.Proofs.Run.Silence
import DeviceTrial.Proofs.Together.Files
import DeviceTrial.Proofs.Together.Ownership

namespace DeviceTrial

open Registry

/-! ### Situations -/

/-- How far two runs have come with their certificates, which are known by their numbers. -/
inductive Stage where
  /-- None was issued. -/
  | unmade
  /-- They are there and active. -/
  | live (alone together : Nat)
  /-- They are there but not active, or they are gone. -/
  | idle (alone together : Nat)

/-- The numbers of the certificates. -/
def Stage.made? : Stage → Option (Nat × Nat)
  | .unmade => none
  | .live alone together | .idle alone together => some (alone, together)

/-- What is known of two runs. -/
structure Situation where
  /-- How far they have come with their certificates. -/
  stage : Stage
  /-- The ground from which their files look alike; `none` when nothing is known of their files. -/
  ground : Option Ground

/-- Whether nothing is known of the files. -/
def Situation.strayed (situation : Situation) : Bool := situation.ground.isNone

/-- That a call is put in the same words by both runs and can be answered only in the same words. -/
def Call.IsPlain (thing : String) : Call → Prop
  | .getSecret _ | .describeJob _ _ | .fetchShadow _ _ => True
  | .createThing other | .joinGroup other _ | .describeThing other | .deleteThing other =>
    other = thing
  | _ => False

/-- That something was taken away in both runs, or was not there in both. -/
inductive Gone : Reply Unit → Reply Unit → Prop where
  | taken : Gone (.ok ()) (.ok ())
  | missing {fault other : PlaneError} (here : fault.isNotFound = true)
      (there : other.isNotFound = true) : Gone (.error fault) (.error other)

/-- That two effects were answered alike, and what is known of the two runs before and after that. -/
inductive Matched (thing : String) : Situation → (effect : Effect) → effect.Answer →
    (other : Effect) → other.Answer → Situation → Prop where
  /-- The same call has the same reply. -/
  | plain {situation : Situation} {call : Call} (plain : call.IsPlain thing)
      {reply : Reply call.Answer} (returns : ¬ reply.IsCrash) :
    Matched thing situation (.call call) reply (.call call) reply situation
  /-- No certificate is issued. -/
  | unissued (ground : Option Ground) (fault : PlaneError) :
    Matched thing ⟨.unmade, ground⟩ (.call .createCertificate) (.error fault)
      (.call .createCertificate) (.error fault) ⟨.unmade, ground⟩
  /-- Certificates are issued. -/
  | issued (m n : Nat) (ground : Option Ground) :
    Matched thing ⟨.unmade, ground⟩ (.call .createCertificate) (.ok (certificateNumber m))
      (.call .createCertificate) (.ok (certificateNumber n)) ⟨.live m n, ground⟩
  /-- The certificates are attached to the thing, or are not for the same reason. -/
  | attached (m n : Nat) (ground : Option Ground) {reply : Reply Unit} (returns : ¬ reply.IsCrash) :
    Matched thing ⟨.live m n, ground⟩
      (.call (.attachPrincipal thing (certificateNumber m).arn)) reply
      (.call (.attachPrincipal thing (certificateNumber n).arn)) reply ⟨.live m n, ground⟩
  /-- A policy is attached to the certificates, or is not for the same reason. -/
  | permitted (policy : String) (m n : Nat) (ground : Option Ground) {reply : Reply Unit}
      (returns : ¬ reply.IsCrash) :
    Matched thing ⟨.live m n, ground⟩
      (.call (.attachPolicy policy (certificateNumber m).arn)) reply
      (.call (.attachPolicy policy (certificateNumber n).arn)) reply ⟨.live m n, ground⟩
  /-- The principals cannot be listed. -/
  | unlisted (situation : Situation) (fault : PlaneError) :
    Matched thing situation (.call (.listPrincipals thing)) (.error fault)
      (.call (.listPrincipals thing)) (.error fault) situation
  /-- There are no principals. -/
  | bare (situation : Situation) :
    Matched thing situation (.call (.listPrincipals thing)) (.ok [])
      (.call (.listPrincipals thing)) (.ok []) situation
  /-- The certificates are the only principals. -/
  | listed {situation : Situation} {m n : Nat} (made : situation.stage.made? = some (m, n)) :
    Matched thing situation (.call (.listPrincipals thing)) (.ok [(certificateNumber m).arn])
      (.call (.listPrincipals thing)) (.ok [(certificateNumber n).arn]) situation
  /-- The certificates are detached. -/
  | detached {situation : Situation} {m n : Nat} (made : situation.stage.made? = some (m, n))
      {reply other : Reply Unit} (gone : Gone reply other) :
    Matched thing situation (.call (.detachPrincipal thing (certificateNumber m).arn)) reply
      (.call (.detachPrincipal thing (certificateNumber n).arn)) other situation
  /-- The certificates are deactivated. -/
  | deactivated {situation : Situation} {m n : Nat} (made : situation.stage.made? = some (m, n))
      {reply other : Reply Unit} (gone : Gone reply other) :
    Matched thing situation (.call (.deactivateCertificate (certificateNumber m).id)) reply
      (.call (.deactivateCertificate (certificateNumber n).id)) other
      ⟨.idle m n, situation.ground⟩
  /-- The certificates are deleted. -/
  | deleted (m n : Nat) (ground : Option Ground) {reply other : Reply Unit} (gone : Gone reply other) :
    Matched thing ⟨.idle m n, ground⟩
      (.call (.deleteCertificate (certificateNumber m).id)) reply
      (.call (.deleteCertificate (certificateNumber n).id)) other ⟨.idle m n, ground⟩
  /-- Directories are made, and the ground is known there from now on. -/
  | paved (stage : Stage) {ground : Ground} {path : Path} (admits : ground.Admits path) :
    Matched thing ⟨stage, some ground⟩ (.file (.makeDirectories path)) (.ok ())
      (.file (.makeDirectories path)) (.ok ()) ⟨stage, some (ground.pave path.stops)⟩
  /-- Directories cannot be made. -/
  | unpaved (stage : Stage) {ground : Ground} {path : Path} (admits : ground.Admits path)
      (fault : FileFault) :
    Matched thing ⟨stage, some ground⟩ (.file (.makeDirectories path)) (.error fault)
      (.file (.makeDirectories path)) (.error fault) ⟨stage, some ground⟩
  /-- Texts that are alike are written, or are not for the same reason. -/
  | written (stage : Stage) {ground : Ground} {path : Path}
      (knows : ∀ place ∈ path.stops, ground.Knows place) {text other : String}
      (alike : TextAlike text other) (answer : Except FileFault Unit) :
    Matched thing ⟨stage, some ground⟩ (.file (.write path text)) answer
      (.file (.write path other)) answer ⟨stage, some ground⟩
  /-- A file is left to its owner alone, or is not for the same reason. -/
  | restricted (stage : Stage) {ground : Ground} {path : Path}
      (knows : ∀ place ∈ path.stops, ground.Knows place) (answer : Except FileFault Unit) :
    Matched thing ⟨stage, some ground⟩ (.file (.restrict path)) answer
      (.file (.restrict path)) answer ⟨stage, some ground⟩
  /-- A text is read. -/
  | read (stage : Stage) {ground : Ground} {path : Path}
      (knows : ∀ place ∈ path.stops, ground.Knows place) {content other : Except FileFault String}
      (alike : FileSystem.ReadAlike content other) :
    Matched thing ⟨stage, some ground⟩ (.file (.read path)) content
      (.file (.read path)) other ⟨stage, some ground⟩
  /-- The process comes to the same end; what it did to the files is not known. -/
  | launched {situation : Situation} (launch : Launch) (outcome : Except String Finish) :
    Matched thing situation (.launch launch) outcome (.launch launch) outcome
      ⟨situation.stage, none⟩

namespace Matched

variable {thing : String} {situation after : Situation}

/-! What an answer to an effect in particular words tells. -/

theorem of_plain {call request : Call} {reply : Reply call.Answer} {answer : Reply request.Answer}
    (matched : Matched thing situation (.call call) reply (.call request) answer after)
    (plain : call.IsPlain thing) : after = situation ∧ ¬ reply.IsCrash ∧ HEq answer reply := by
  cases matched with
  | plain _ returns => exact ⟨rfl, returns, HEq.rfl⟩
  | _ => cases plain

theorem of_attaching {m n : Nat} {ground : Option Ground} {principal other : String}
    {reply answer : Reply Unit}
    (matched : Matched thing ⟨.live m n, ground⟩ (.call (.attachPrincipal thing principal)) reply
      (.call (.attachPrincipal thing other)) answer after) :
    after = ⟨.live m n, ground⟩ ∧ ¬ reply.IsCrash ∧ answer = reply := by
  cases matched with
  | attached _ _ _ returns => exact ⟨rfl, returns, rfl⟩
  | plain plain _ => cases plain

theorem of_permitting {m n : Nat} {ground : Option Ground} {policy target other : String}
    {reply answer : Reply Unit}
    (matched : Matched thing ⟨.live m n, ground⟩ (.call (.attachPolicy policy target)) reply
      (.call (.attachPolicy policy other)) answer after) :
    after = ⟨.live m n, ground⟩ ∧ ¬ reply.IsCrash ∧ answer = reply := by
  cases matched with
  | permitted _ _ _ _ returns => exact ⟨rfl, returns, rfl⟩
  | plain plain _ => cases plain

theorem of_detaching {principal other : String} {reply answer : Reply Unit}
    (matched : Matched thing situation (.call (.detachPrincipal thing principal)) reply
      (.call (.detachPrincipal thing other)) answer after) :
    after = situation ∧ Gone reply answer := by
  cases matched with
  | detached _ gone => exact ⟨rfl, gone⟩
  | plain plain _ => cases plain

theorem of_deactivating {certificate other : String} {reply answer : Reply Unit}
    (matched : Matched thing situation (.call (.deactivateCertificate certificate)) reply
      (.call (.deactivateCertificate other)) answer after) :
    (∃ m n, situation.stage.made? = some (m, n) ∧ after = ⟨.idle m n, situation.ground⟩) ∧
      Gone reply answer := by
  cases matched with
  | deactivated made gone => exact ⟨⟨_, _, made, rfl⟩, gone⟩
  | plain plain _ => cases plain

theorem of_deleting {certificate other : String} {reply answer : Reply Unit}
    (matched : Matched thing situation (.call (.deleteCertificate certificate)) reply
      (.call (.deleteCertificate other)) answer after) :
    after = situation ∧ Gone reply answer := by
  cases matched with
  | deleted _ _ _ gone => exact ⟨rfl, gone⟩
  | plain plain _ => cases plain

end Matched

/-- That two effects can be answered alike. -/
def Corresponds (thing : String) (situation : Situation) (effect other : Effect) : Prop :=
  ∃ answer reply after, Matched thing situation effect answer other reply after

/-! ### Programs -/

/-- **That two programs stay alike**, whatever they are answered, and end so that the condition
holds. Each may tell and remove what it likes in between. -/
inductive Program.Alike {α : Type} (thing : String) (ends : Situation → α → α → Prop) :
    Situation → Program α → Program α → Prop where
  | done {situation : Situation} {value other : α} (ended : ends situation value other) :
    Alike thing ends situation (done value) (done other)
  | both {situation : Situation} {effect other : Effect} {next : effect.Answer → Program α}
      {following : other.Answer → Program α} (asks : Corresponds thing situation effect other)
      (rest : ∀ answer reply after, Matched thing situation effect answer other reply after →
        Alike thing ends after (next answer) (following reply)) :
    Alike thing ends situation (perform effect next) (perform other following)
  | left {situation : Situation} {effect : Effect} {next : effect.Answer → Program α}
      {program : Program α} (silent : effect.IsSilent situation.strayed)
      (rest : ∀ answer, Alike thing ends situation (next answer) program) :
    Alike thing ends situation (perform effect next) program
  | right {situation : Situation} {effect : Effect} {next : effect.Answer → Program α}
      {program : Program α} (silent : effect.IsSilent situation.strayed)
      (rest : ∀ answer, Alike thing ends situation program (next answer)) :
    Alike thing ends situation program (perform effect next)
  | stray {situation : Situation} {program other : Program α}
      (rest : Alike thing ends ⟨situation.stage, none⟩ program other) :
    Alike thing ends situation program other

namespace Program.Alike

variable {α β : Type} {thing : String} {situation : Situation} {ends : Situation → α → α → Prop}
  {concludes : Situation → β → β → Prop} {program other : Program α}

theorem bind {next following : α → Program β} (first : Alike thing ends situation program other)
    (rest : ∀ {after value result}, ends after value result →
      Alike thing concludes after (next value) (following result)) :
    Alike thing concludes situation (program.bind next) (other.bind following) := by
  induction first with
  | done ended => exact rest ended
  | both asks _ step => exact .both asks fun _ _ _ matched => step _ _ _ matched
  | left silent _ step => exact .left silent fun answer => step answer
  | right silent _ step => exact .right silent fun answer => step answer
  | stray _ step => exact .stray step

/-- What one program tells first makes no difference. -/
theorem silent_left {value : β} {front : Program β} {next : β → Program α}
    (silent : front.Silent situation.strayed value)
    (rest : Alike thing ends situation (next value) other) :
    Alike thing ends situation (front.bind next) other := by
  induction silent with
  | done value => exact rest
  | perform silent _ step => exact .left silent fun answer => step answer rest

theorem silent_right {value : β} {front : Program β} {next : β → Program α}
    (silent : front.Silent situation.strayed value)
    (rest : Alike thing ends situation program (next value)) :
    Alike thing ends situation program (front.bind next) := by
  induction silent with
  | done value => exact rest
  | perform silent _ step => exact .right silent fun answer => step answer rest

end Program.Alike

/-! ### Actions -/

/-- That two actions end with values that agree, or fail for the same reason. -/
inductive Agree {ε α : Type} (agree : Situation → α → α → Prop) :
    Situation → Fate ε α → Fate ε α → Prop where
  | done {situation : Situation} {value other : α} (agrees : agree situation value other) :
    Agree agree situation (.done value) (.done other)
  | failed {situation : Situation} (fault : ε) :
    Agree agree situation (.failed fault) (.failed fault)

/-- That an outcome of two actions is a value on which they agree, or the same failure. -/
inductive AgreeOn {ε α : Type} (agree : Situation → α → α → Prop) :
    Situation → Except ε α → Except ε α → Prop where
  | ok {situation : Situation} {value other : α} (agrees : agree situation value other) :
    AgreeOn agree situation (.ok value) (.ok other)
  | error {situation : Situation} (fault : ε) :
    AgreeOn agree situation (.error fault) (.error fault)

/-- The same value, with nothing new known. -/
def Situation.Unchanged {α : Type} (situation after : Situation) (value other : α) : Prop :=
  after = situation ∧ other = value

/-- The same value. -/
def Situation.Same {α : Type} (_ : Situation) (value other : α) : Prop := other = value

/-- Outcomes with the same value or the same failure are the same. -/
theorem AgreeOn.eq {ε α : Type} {situation : Situation} {outcome other : Except ε α}
    (agrees : AgreeOn Situation.Same situation outcome other) : other = outcome := by
  cases agrees with
  | ok same => exact congrArg Except.ok same
  | error fault => rfl

namespace Action

variable {ε δ α β : Type} {thing : String} {situation : Situation}
  {agree : Situation → α → α → Prop} {concludes : Situation → β → β → Prop}
  {action other : Action ε α}

/-- **That two actions stay alike**, and agree on their values in the end. -/
def Alike (thing : String) (agree : Situation → α → α → Prop) (situation : Situation)
    (action other : Action ε α) : Prop :=
  Program.Alike thing (Agree agree) situation action.program other.program

namespace Alike

theorem of_pure {value result : α} (agrees : agree situation value result) :
    Alike thing agree situation (pure value : Action ε α) (pure result) :=
  Program.Alike.done (.done agrees)

theorem of_fail (fault : ε) : Alike thing agree situation (fail fault : Action ε α) (fail fault) :=
  Program.Alike.done (.failed fault)

theorem bind {next following : α → Action ε β} (first : Alike thing agree situation action other)
    (rest : ∀ {after value result}, agree after value result →
      Alike thing concludes after (next value) (following result)) :
    Alike thing concludes situation (action >>= next) (other >>= following) := by
  refine Program.Alike.bind first fun ended => ?_
  cases ended with
  | done agrees => exact rest agrees
  | failed fault => exact of_fail fault

theorem mono {wider : Situation → α → α → Prop} (alike : Alike thing agree situation action other)
    (includes : ∀ {after value result}, agree after value result → wider after value result) :
    Alike thing wider situation action other := by
  have ended : Alike thing wider situation (action >>= pure) (other >>= pure) :=
    alike.bind fun agrees => of_pure (includes agrees)
  rwa [bind_pure, bind_pure] at ended

/-- What comes after an action that only tells. -/
theorem silent_bind {γ : Type} {front back : Action ε γ} {value result : γ}
    {next following : γ → Action ε β} (silent : front.Silent situation.strayed value)
    (quiet : back.Silent situation.strayed result)
    (rest : Alike thing concludes situation (next value) (following result)) :
    Alike thing concludes situation (front >>= next) (back >>= following) :=
  Program.Alike.silent_left silent (Program.Alike.silent_right quiet rest)

/-- It can always be forgotten what is known of the files. -/
theorem stray (rest : Alike thing agree ⟨situation.stage, none⟩ action other) :
    Alike thing agree situation action other :=
  Program.Alike.stray rest

theorem of_silent {value result : α} (silent : action.Silent situation.strayed value)
    (quiet : other.Silent situation.strayed result) (agrees : agree situation value result) :
    Alike thing agree situation action other := by
  have ended : Alike thing agree situation (action >>= pure) (other >>= pure) :=
    silent_bind silent quiet (of_pure agrees)
  rwa [bind_pure, bind_pure] at ended

/-- The action with its failures made into values. -/
theorem attempt (alike : Alike thing agree situation action other) :
    Alike thing (AgreeOn agree) situation (action.attempt : Action δ _) other.attempt := by
  refine Program.Alike.bind alike fun ended => ?_
  cases ended with
  | done agrees => exact of_pure (.ok agrees)
  | failed fault => exact of_pure (.error fault)

theorem mapError (alike : Alike thing agree situation action other) (change : ε → δ) :
    Alike thing agree situation (action.mapError change) (other.mapError change) := by
  refine Program.Alike.bind alike fun ended => ?_
  cases ended with
  | done agrees => exact of_pure agrees
  | failed fault => exact of_fail (change fault)

theorem contain (alike : Alike thing agree situation action other) :
    Alike thing (AgreeOn agree) situation (action.contain : Action δ _) other.contain := by
  refine Program.Alike.bind alike fun ended => ?_
  cases ended with
  | done agrees => exact of_pure (.ok agrees)
  | failed fault => exact of_pure (.error (Mishap.failure fault))

theorem limited (alike : Alike thing agree situation action other) :
    Alike thing (fun after value result => ∃ inner outer, value = some inner ∧
      result = some outer ∧ AgreeOn agree after inner outer) situation
      (action.limited : Action δ _) other.limited := by
  refine Program.Alike.bind alike fun ended => ?_
  cases ended with
  | done agrees => exact of_pure ⟨_, _, rfl, rfl, .ok agrees⟩
  | failed fault => exact of_pure ⟨_, _, rfl, rfl, .error (Mishap.failure fault)⟩

end Alike

/-- That two actions stay alike and both give a value. -/
def Succeed (thing : String) (agree : Situation → α → α → Prop) (situation : Situation)
    (action other : Action ε α) : Prop :=
  Program.Alike thing (fun after fate result => ∃ value outcome, fate = .done value ∧
    result = .done outcome ∧ agree after value outcome) situation action.program other.program

namespace Succeed

theorem of_pure {value result : α} (agrees : agree situation value result) :
    Succeed thing agree situation (pure value : Action ε α) (pure result) :=
  Program.Alike.done ⟨value, result, rfl, rfl, agrees⟩

theorem of_silent {value result : α} (silent : action.Silent situation.strayed value)
    (quiet : other.Silent situation.strayed result) (agrees : agree situation value result) :
    Succeed thing agree situation action other := by
  have ended : Succeed thing agree situation (action.program.bind .done)
      (other.program.bind .done) :=
    Program.Alike.silent_left silent (Program.Alike.silent_right quiet (of_pure agrees))
  rwa [Program.bind_done, Program.bind_done] at ended

/-- What comes after values on which two actions agree. -/
theorem bind {ends : Situation → Fate ε β → Fate ε β → Prop} {next following : α → Action ε β}
    (first : Succeed thing agree situation action other)
    (rest : ∀ {after value result}, agree after value result →
      Program.Alike thing ends after (next value).program (following result).program) :
    Program.Alike thing ends situation (action >>= next).program (other >>= following).program := by
  refine Program.Alike.bind first fun ended => ?_
  obtain ⟨value, result, rfl, rfl, agrees⟩ := ended
  exact rest agrees

/-- What comes after actions of which the failures were made into values. -/
theorem attempt_bind {ends : Situation → Fate δ β → Fate δ β → Prop}
    {next following : Except ε α → Action δ β}
    (first : Succeed thing agree situation action other)
    (rest : ∀ {after value result}, agree after value result →
      Program.Alike thing ends after (next (.ok value)).program (following (.ok result)).program) :
    Program.Alike thing ends situation (action.attempt >>= next).program
      (other.attempt >>= following).program := by
  refine Program.Alike.bind (Program.Alike.bind first fun ended => ?_) fun ended => ended
  obtain ⟨value, result, rfl, rfl, agrees⟩ := ended
  exact .done (rest agrees)

end Succeed

end Action

end DeviceTrial
