/-
**Identities are made and taken away alike.**

* `alike_establish` — an identity is made alike, whatever number its certificate has;
* `alike_dismantle` — **an identity is taken away alike** in every situation, also when nothing or
  only a part of it was made.
-/

import DeviceTrial.Proofs.Together.Likeness
import DeviceTrial.Proofs.Trial.Conducting

namespace DeviceTrial

open Registry

variable {ε α β : Type} {thing : String} {situation : Situation}

namespace Action.Alike

/-- What a reply makes of two calls. -/
theorem of_reply {reply : Reply α} (returns : ¬ reply.IsCrash) :
    Alike thing situation.Unchanged situation (Action.ofReply reply) (Action.ofReply reply) := by
  cases reply with
  | ok value => exact Program.Alike.done (.done ⟨rfl, rfl⟩)
  | error fault => exact Program.Alike.done (.failed fault)
  | panic message => exact absurd (.panic message) returns
  | hang => exact absurd .hang returns

/-- A call in the same words. -/
theorem call_plain {call : Call} (plain : call.IsPlain thing) :
    Alike thing situation.Unchanged situation (Action.call call) (Action.call call) := by
  have fault : ¬ (Reply.error (.notFound "") : Reply call.Answer).IsCrash := nofun
  refine Program.Alike.both ⟨_, _, _, .plain plain fault⟩ fun _ _ _ matched => ?_
  obtain ⟨rfl, returns, same⟩ := matched.of_plain plain
  rw [eq_of_heq same]
  exact of_reply returns

/-- What an answer about files makes of two steps. -/
theorem of_answer (answer : Except FileFault Unit) :
    Alike thing situation.Unchanged situation (Action.fileStep (pure answer))
      (Action.fileStep (pure answer)) := by
  cases answer with
  | ok value => exact of_pure ⟨rfl, rfl⟩
  | error fault => exact of_fail fault

/-- The directory of an own file is made alike, and then the way of the file is known. -/
theorem makeParent (stage : Stage) {ground : Ground} {path : Path} (owns : ground.Owns path) :
    Alike thing (fun after _ _ => ∃ places, after = ⟨stage, some (ground.pave places)⟩ ∧
        ∀ place ∈ path.stops, (ground.pave places).Knows place) ⟨stage, some ground⟩
      (Action.makeParent path) (Action.makeParent path) := by
  unfold Action.makeParent
  split
  · rename_i parent known
    split
    · rename_i empty
      have short : ∀ other, path.parent? = some other → other.isEmpty = true := by
        intro other same
        cases known.symm.trans same
        exact empty
      exact of_pure ⟨[], rfl, owns.knows_of_short short⟩
    · refine Program.Alike.both ⟨_, _, _, .paved stage (owns.admits known)⟩ fun _ _ _ matched => ?_
      cases matched with
      | paved => exact of_pure ⟨parent.stops, rfl, owns.knows known⟩
      | unpaved _ _ fault => exact of_fail fault
  · rename_i none
    have short : ∀ parent, path.parent? = some parent → parent.isEmpty = true :=
      fun _ same => nomatch none.symm.trans same
    exact of_pure ⟨[], rfl, owns.knows_of_short short⟩

section Known

variable (stage : Stage) {ground : Ground} {path : Path}
  (knows : ∀ place ∈ path.stops, ground.Knows place)

include knows

/-- Texts that are alike are written alike. -/
theorem write {text other : String} (alike : TextAlike text other) :
    Alike thing (Situation.Unchanged ⟨stage, some ground⟩) ⟨stage, some ground⟩
      (Action.fileStep (Action.file (.write path text)))
      (Action.fileStep (Action.file (.write path other))) := by
  refine Program.Alike.both ⟨_, _, _, .written stage knows alike (.ok ())⟩ fun _ _ _ matched => ?_
  cases matched with
  | written => exact of_answer _

/-- Files are left to their owner alike. -/
theorem restrict :
    Alike thing (Situation.Unchanged ⟨stage, some ground⟩) ⟨stage, some ground⟩
      (Action.fileStep (Action.file (.restrict path)))
      (Action.fileStep (Action.file (.restrict path))) := by
  refine Program.Alike.both ⟨_, _, _, .restricted stage knows (.ok ())⟩ fun _ _ _ matched => ?_
  cases matched with
  | restricted => exact of_answer _

end Known

end Action.Alike

namespace Identity

open DeviceTrial.Action (Alike Succeed)

/-! ### Making -/

theorem alike_resolveSecret (name : String) :
    Alike thing situation.Unchanged situation (resolveSecret name) (resolveSecret name) := by
  have asked : Alike thing situation.Unchanged situation (Action.call (.getSecret name))
      (Action.call (.getSecret name)) := .call_plain trivial
  refine asked.attempt.bind fun agrees => ?_
  cases agrees with
  | ok agrees =>
    obtain ⟨rfl, rfl⟩ := agrees
    exact .silent_bind (.of_log _ _ _ _) (.of_log _ _ _ _) (.of_pure ⟨rfl, rfl⟩)
  | error fault => exact .silent_bind (.of_log _ _ _ _) (.of_log _ _ _ _) (.of_fail _)

theorem alike_policyName (policy : PolicySource) :
    Alike thing situation.Unchanged situation (policyName policy) (policyName policy) := by
  cases policy with
  | name policy => exact .of_pure ⟨rfl, rfl⟩
  | secret name => exact alike_resolveSecret name

theorem alike_step (call : Call) (plain : call.IsPlain thing) (name : String) :
    Alike thing situation.Unchanged situation (step thing name call) (step thing name call) :=
  (Alike.call_plain plain).mapError _

theorem alike_join (group : Option String) :
    Alike thing situation.Unchanged situation (join thing group) (join thing group) := by
  cases group with
  | none => exact .of_pure ⟨rfl, rfl⟩
  | some group => exact alike_step (.joinGroup thing group) rfl _

section Certificates

variable {m n : Nat} {ground : Option Ground}

/-- What two calls leave of a step that takes something away. -/
theorem succeed_taken {reply answer : Reply Unit} (gone : Gone reply answer)
    {agree : Situation → Unit → Unit → Prop} (agrees : agree situation () ()) :
    Succeed thing agree situation (takeAway (Action.ofReply reply))
      (takeAway (Action.ofReply answer)) := by
  cases gone with
  | taken => exact .of_pure agrees
  | @missing fault other here there =>
    have forgiven : ∀ {fault : PlaneError}, fault.isNotFound = true →
        takeAway (Action.ofReply (.error fault)) = pure () := by
      intro fault missing
      show Action.ofExcept (forgive (.error fault)) = _
      rw [forgive, if_pos missing]
      rfl
    rw [forgiven here, forgiven there]
    exact .of_pure agrees

theorem succeed_detach (made : situation.stage.made? = some (m, n)) :
    Succeed thing situation.Unchanged situation
      (takeAway (Action.call (.detachPrincipal thing (certificateNumber m).arn)))
      (takeAway (Action.call (.detachPrincipal thing (certificateNumber n).arn))) := by
  refine Program.Alike.both ⟨_, _, _, .detached made .taken⟩ fun _ _ _ matched => ?_
  obtain ⟨rfl, gone⟩ := matched.of_detaching
  exact succeed_taken gone ⟨rfl, rfl⟩

theorem succeed_deactivate (made : situation.stage.made? = some (m, n)) :
    Succeed thing (fun after _ _ => after = ⟨.idle m n, situation.ground⟩) situation
      (takeAway (Action.call (.deactivateCertificate (certificateNumber m).id)))
      (takeAway (Action.call (.deactivateCertificate (certificateNumber n).id))) := by
  refine Program.Alike.both ⟨_, _, _, .deactivated made .taken⟩ fun _ _ _ matched => ?_
  obtain ⟨⟨_, _, same, rfl⟩, gone⟩ := matched.of_deactivating
  cases made.symm.trans same
  exact succeed_taken gone rfl

theorem succeed_delete :
    Succeed thing (Situation.Unchanged ⟨.idle m n, ground⟩) ⟨.idle m n, ground⟩
      (takeAway (Action.call (.deleteCertificate (certificateNumber m).id)))
      (takeAway (Action.call (.deleteCertificate (certificateNumber n).id))) := by
  refine Program.Alike.both ⟨_, _, _, .deleted m n ground .taken⟩ fun _ _ _ matched => ?_
  obtain ⟨rfl, gone⟩ := matched.of_deleting
  exact succeed_taken gone ⟨rfl, rfl⟩

/-- The certificates are removed alike. -/
theorem succeed_removePrincipal (made : situation.stage.made? = some (m, n)) :
    Succeed thing (fun _ _ _ => True) situation (removePrincipal thing (certificateNumber m).arn)
      (removePrincipal thing (certificateNumber n).arn) := by
  have names : ∀ k, certificateOf? (certificateNumber k).arn = some (certificateNumber k).id :=
    fun k => certificateOf?_arnOf (isEmpty_certificateId k)
  unfold removePrincipal
  rw [names m, names n]
  refine (succeed_detach made).bind fun ⟨same, _⟩ => ?_
  subst same
  refine (succeed_deactivate made).bind fun same => ?_
  subst same
  refine succeed_delete.bind fun ⟨same, _⟩ => ?_
  subst same
  exact Succeed.of_silent (.of_log _ _ _ _) (.of_log _ _ _ _) trivial

/-- The only certificates are removed alike. -/
theorem succeed_removePrincipals (made : situation.stage.made? = some (m, n)) :
    Succeed thing (fun _ faults others => faults = [] ∧ others = []) situation
      (removePrincipals thing [(certificateNumber m).arn])
      (removePrincipals thing [(certificateNumber n).arn]) :=
  (succeed_removePrincipal made).attempt_bind fun _ => Succeed.of_pure ⟨rfl, rfl⟩

/-- What cannot be attached is discarded alike. -/
theorem alike_discard :
    Alike thing (fun _ _ _ => True) ⟨.live m n, ground⟩
      (discard thing (certificateNumber m).id) (discard thing (certificateNumber n).id) := by
  have told : ∀ {situation : Situation} {front back : Action TrialError Unit},
      front.Silent situation.strayed () → back.Silent situation.strayed () →
        Alike thing (fun _ _ _ => True) situation front back :=
    fun silent quiet => .of_silent silent quiet trivial
  refine Program.Alike.both ⟨_, _, _, .deactivated rfl .taken⟩ fun _ _ _ matched => ?_
  obtain ⟨⟨_, _, same, rfl⟩, gone⟩ := matched.of_deactivating
  cases same
  cases gone with
  | missing here there => exact told (.of_log _ _ _ _) (.of_log _ _ _ _)
  | taken =>
    refine Program.Alike.both ⟨_, _, _, .deleted m n ground .taken⟩ fun _ _ _ matched => ?_
    obtain ⟨rfl, gone⟩ := matched.of_deleting
    cases gone with
    | missing here there => exact told (.of_log _ _ _ _) (.of_log _ _ _ _)
    | taken => exact told (.of_log _ _ _ _) (.of_log _ _ _ _)

/-- The certificates are attached alike. -/
theorem alike_attach :
    Alike thing (Situation.Unchanged ⟨.live m n, ground⟩) ⟨.live m n, ground⟩
      (attach thing (certificateNumber m)) (attach thing (certificateNumber n)) := by
  have fault : ¬ (Reply.error (.notFound "") : Reply Unit).IsCrash := nofun
  refine Program.Alike.both ⟨_, _, _, .attached m n ground fault⟩ fun _ reply _ matched => ?_
  obtain ⟨rfl, returns, rfl⟩ := matched.of_attaching
  cases reply with
  | ok value => exact Alike.of_pure ⟨rfl, rfl⟩
  | error fault => exact alike_discard.bind fun _ => .of_fail _
  | panic message => exact absurd (.panic message) returns
  | hang => exact absurd .hang returns

/-- The policy is attached alike. -/
theorem alike_permit (policy : String) :
    Alike thing (Situation.Unchanged ⟨.live m n, ground⟩) ⟨.live m n, ground⟩
      (step thing "attach policy" (.attachPolicy policy (certificateNumber m).arn))
      (step thing "attach policy" (.attachPolicy policy (certificateNumber n).arn)) := by
  have fault : ¬ (Reply.error (.notFound "") : Reply Unit).IsCrash := nofun
  refine Alike.mapError ?_ _
  refine Program.Alike.both ⟨_, _, _, .permitted policy m n ground fault⟩ fun _ _ _ matched => ?_
  obtain ⟨rfl, returns, rfl⟩ := matched.of_permitting
  exact Alike.of_reply returns

/-- The certificates are issued alike. -/
theorem alike_issue (ground : Option Ground) :
    Alike thing (fun after value other => ∃ m n, after = ⟨.live m n, ground⟩ ∧
        value = certificateNumber m ∧ other = certificateNumber n) ⟨.unmade, ground⟩
      (step thing "create keys and certificate" .createCertificate)
      (step thing "create keys and certificate" .createCertificate) := by
  refine Alike.mapError ?_ _
  refine Program.Alike.both ⟨_, _, _, .issued 0 0 ground⟩ fun _ _ _ matched => ?_
  cases matched with
  | unissued ground fault => exact Alike.of_fail fault
  | issued m n ground => exact Alike.of_pure ⟨m, n, rfl, rfl, rfl⟩
  | plain plain _ => cases plain

/-- Certificates start with dashes, and so do their keys. -/
theorem isArmoured_of_append {text : String} (armoured : IsArmoured text) (more : String) :
    IsArmoured (text ++ more) := by
  obtain ⟨rest, starts⟩ := armoured
  exact ⟨rest ++ more.toList, by rw [String.toList_append, starts]; rfl⟩

theorem isArmoured_pem (n : Nat) : IsArmoured (certificateNumber n).pem := by
  refine isArmoured_of_append (isArmoured_of_append ?_ _) _
  exact ⟨_, rfl⟩

theorem isArmoured_privateKey (n : Nat) : IsArmoured (certificateNumber n).privateKey := by
  refine isArmoured_of_append (isArmoured_of_append ?_ _) _
  exact ⟨_, rfl⟩

/-- The certificates and their keys are written alike. -/
theorem alike_writeCredentials (stage : Stage) {ground : Ground} {paths : CredentialPaths}
    (owned : ∀ path, paths.Has path → ground.Owns path) :
    Alike thing (fun after _ _ => ∃ places, after = ⟨stage, some (ground.pave places)⟩)
      ⟨stage, some ground⟩ (writeCredentials (certificateNumber m) paths)
      (writeCredentials (certificateNumber n) paths) := by
  have certificate := owned _ (.inl rfl)
  have key := owned _ (.inr rfl)
  refine (Alike.makeParent stage certificate).bind fun ⟨first, same, knows⟩ => ?_
  subst same
  refine (Alike.makeParent stage (key.pave first)).bind fun ⟨second, same, knowsKey⟩ => ?_
  subst same
  have knowsBoth := fun place inside => (knows place inside).pave second
  refine (Alike.write stage knowsBoth
    (.armoured (isArmoured_pem m) (isArmoured_pem n))).bind fun ⟨same, _⟩ => ?_
  subst same
  refine (Alike.write stage knowsKey
    (.armoured (isArmoured_privateKey m) (isArmoured_privateKey n))).bind fun ⟨same, _⟩ => ?_
  subst same
  refine (Alike.restrict stage knowsKey).mono fun ⟨same, _⟩ => ⟨second ++ first, ?_⟩
  rw [same, ground.pave_pave]

end Certificates

/-- **An identity is made alike**, whatever number its certificate has. -/
theorem alike_establish (policy : PolicySource) {ground : Ground} {paths : CredentialPaths}
    (owned : ∀ path, paths.Has path → ground.Owns path) (group : Option String) :
    Alike thing (fun after _ _ => ∃ places, after.ground = some (ground.pave places))
      ⟨.unmade, some ground⟩ (establish thing policy paths group)
      (establish thing policy paths group) := by
  refine (alike_policyName policy).bind fun {_ _ policy} ⟨same, also⟩ => ?_
  subst same also
  refine .silent_bind (.of_log _ _ _ _) (.of_log _ _ _ _) ?_
  refine (alike_step (.createThing thing) rfl _).bind fun ⟨same, _⟩ => ?_
  subst same
  refine .silent_bind (.of_record _) (.of_record _) ?_
  refine (alike_issue (some ground)).bind fun issued => ?_
  obtain ⟨m, n, rfl, rfl, rfl⟩ := issued
  refine .silent_bind (.of_log _ _ _ _) (.of_log _ _ _ _) ?_
  refine (alike_attach (m := m) (n := n)).bind fun ⟨same, _⟩ => ?_
  subst same
  refine (alike_permit (m := m) (n := n) policy).bind fun ⟨same, _⟩ => ?_
  subst same
  refine (alike_join group).bind fun ⟨same, _⟩ => ?_
  subst same
  refine ((alike_writeCredentials (m := m) (n := n) _ owned).mapError _).bind fun ⟨places, same⟩ => ?_
  subst same
  exact .silent_bind (.of_log _ _ _ _) (.of_log _ _ _ _) (.of_pure ⟨places, rfl⟩)

/-! ### Taking away -/

/-- What is done with the principals of a thing once they are listed. -/
def removeListed (identity : String) (principals : List String) : Action TrialError Removal := do
  let faults ← removePrincipals identity principals
  let (removal, more) := removalOf (← (Action.call (.deleteThing identity)).attempt)
  let all := faults ++ more
  if all.isEmpty then
    if removal = .removed then
      Action.record .identityRemoved
      Action.log .info .identity "identity deleted"
        [("identity", identity), ("principals", toString principals.length)]
    return removal
  else Action.fail (.cleanupFailed identity (dismantleReason all))

/-- What is listed is removed alike when no principal makes a fault. -/
theorem alike_removeListed (principals others : List String)
    (removed : Succeed thing (fun _ faults more => faults = [] ∧ more = []) situation
      (removePrincipals thing principals) (removePrincipals thing others)) :
    Alike thing Situation.Same situation (removeListed thing principals)
      (removeListed thing others) := by
  refine removed.bind fun ⟨clean, same⟩ => ?_
  subst clean same
  have asked : ∀ {after : Situation}, Alike thing after.Unchanged after
      (Action.call (.deleteThing thing)) (Action.call (.deleteThing thing)) :=
    .call_plain rfl
  refine asked.attempt.bind fun agrees => ?_
  cases agrees with
  | ok agrees =>
    refine .silent_bind (.of_record _) (.of_record _) ?_
    exact .silent_bind (.of_log _ _ _ _) (.of_log _ _ _ _) (.of_pure rfl)
  | error fault =>
    by_cases missing : fault.isNotFound = true
    · rw [show removalOf (.error fault) = (.absent, []) from if_pos missing]
      exact .of_pure rfl
    · rw [show removalOf (.error fault) = (.absent, ["delete thing: " ++ fault.message]) from
        if_neg missing]
      exact .of_fail _

/-- What is done when the principals of a thing cannot be listed. -/
def giveUp (identity : String) (fault : PlaneError) : Action TrialError Removal := do
  if fault.isNotFound then
    Action.log .info .identity "thing not found, nothing to delete" [("identity", identity)]
    return .absent
  else Action.fail (.cleanupFailed identity ("list principals: " ++ fault.message))

theorem alike_giveUp (identity : String) (fault : PlaneError) :
    Alike thing Situation.Same situation (giveUp identity fault) (giveUp identity fault) := by
  unfold giveUp
  split
  · exact .silent_bind (.of_log _ _ _ _) (.of_log _ _ _ _) (.of_pure rfl)
  · exact .of_fail _

/-- **An identity is taken away alike** in every situation. -/
theorem alike_dismantle :
    Alike thing Situation.Same situation (dismantle thing) (dismantle thing) := by
  refine Program.Alike.both ⟨_, _, _, .bare situation⟩ fun _ _ _ matched => ?_
  cases matched with
  | plain plain _ => cases plain
  | unlisted _ fault => exact alike_giveUp thing fault
  | bare => exact alike_removeListed [] [] (Succeed.of_pure ⟨rfl, rfl⟩)
  | listed made => exact alike_removeListed _ _ (succeed_removePrincipals made)

end Identity

end DeviceTrial
