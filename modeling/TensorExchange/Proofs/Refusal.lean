import TensorExchange.Proofs.Array
import TensorExchange.Proofs.Buffer.Copy
import TensorExchange.Proofs.Soundness.Live

/-!
Refusals: a command that fails has no effect.

Every operation that can fail carries the state it leaves when it does, and the session goes
on with that state.  So nothing about failures holds by the form of a result: an operation
that changed the heap and then refused would be a different one.

Main statement (`Session.unharmed_run`), for what any commands lead to:

* a command that fails leaves the whole session as it was, down to the counters and the
  numbers that are given next (`kept`);
* one that was handed something by value lets go of that, as if it had been dropped, and does
  no more (`letGo`);
* a copy fails before it has memory, and once it has memory it succeeds (`refused`, `filled`);
* so commands that fail can be left out of a session, or replaced by the drop of what they
  were handed, without a difference to what any other command finds (`effective`).

Most commands change the session as their last step, and their proofs follow the operation to
its first check that fails (`Proofs/Result` has the rules for that, `Leaves` and `Fails`).  A
copy is the exception: memory is taken before the elements are written.  That the writing can
not fail any more needs what is known of sound buffers and fresh memory, so this point is
about sessions and not about heaps.

Three commands are handed something: one wraps a buffer as what it is declared to be, one takes
the tensor out of a capsule for good, and one registers a capsule.  `Command.handsOver?` is the
drop that each of them falls back to.
-/

namespace TensorExchange

/-! ## Handing over -/

/-- The drop of what a command takes over by value, whether it succeeds or not. -/
def Command.handsOver? : Command → Option Command
  | .capsules (.wrapAs name ..) => some (.buffers (.drop name))
  | .capsules (.intoTensor name _) => some (.capsules (.drop name))
  | .registries (.register _ _ capsule) => some (.capsules (.drop capsule))
  | _ => none

namespace Session

variable {s : Session} {c : Command} {r : Refusal}

/-- What a command does that fails. -/
inductive Refuses (s : Session) (c : Command) (r : Refusal) : Prop
  /-- It does nothing; and it was handed nothing or did not get that far. -/
  | kept (same : (s.step c).1 = s) (plain : c.handsOver? = none ∨ ∃ name, r = .missing name)
  /-- It lets go of what it was handed, and does no more than the drop of that. -/
  | letGo {d : Command} {cause : Error} (hands : c.handsOver? = some d) (failed : r = .failed cause)
    (dropped : s.step d = ((s.step c).1, .ok .done))

/-! ## Kinds of commands -/

theorem runMemory_of_refused {c : MemoryCommand} (refused : (s.runMemory c).2 = .error r) :
    (s.runMemory c).1 = s := by
  cases c with
  | create => cases refused
  | describe | stats => rfl
  | obtain => exact leaves_obtainMemory.settle refused
  | giveBack => exact leaves_giveBackMemory.settle refused
  | allocate => exact leaves_allocateBuffer.settle refused

/-- Parts that are checked fit together, so adopting them does not fail any more. -/
theorem leaves_adoptArray {out : String} {a : ArrayParts} : Leaves s (s.adoptArray out a) :=
  .bind leaves_leaving fun _ checked =>
    .bind (leaves_onHeap (.of_ok ((checkArray_eq_ok_iff.mp (leaving_eq_ok.mp checked)).ofArray_eq
      s.heap))) fun _ _ => .ok

/-- A copy that fails has no memory yet. -/
theorem leaves_copyBuffer {name allocator out : String} {device : Device} (k : s.world.Sound) :
    Leaves s (s.copyBuffer name allocator out device) := by
  refine .bind leaves_leaving fun b found => .bind leaves_leaving fun a _ => ?_
  have sound := k.live (live_of_named (get?_of_need found))
  exact .bind (leaves_onHeap (Buffer.leaves_copyTo sound.exact)) fun _ _ => .ok

theorem runBuffers_of_refused {c : BufferCommand} (k : s.world.Sound)
    (refused : (s.runBuffers c).2 = .error r) : (s.runBuffers c).1 = s := by
  cases c with
  | describe | shares | bytes | elements | packed | head | headBytes | arrayView | toArray => rfl
  | adopt => exact leaves_adoptBytes.settle refused
  | adoptArray => exact leaves_adoptArray.settle refused
  | view => exact leaves_viewBuffer.settle refused
  | reshape => exact leaves_reshapeBuffer.settle refused
  | writeBytes => exact leaves_writeBuffer.settle refused
  | writeElements => exact leaves_writeTyped.settle refused
  | copy => exact (leaves_copyBuffer k).settle refused
  | drop => exact leaves_dropBuffer.settle refused

/-! ## Commands that are handed something -/

/-- How a command fails that is handed something: a name holds nothing, and nothing is changed; or
it leaves what the drop of the thing leaves. -/
def FailsHanded (s : Session) (d : Command) (f : Failure Refusal Session) : Prop :=
  (f.state = s ∧ ∃ name, f.cause = .missing name) ∨
    ∃ cause, f.cause = .failed cause ∧ s.step d = (f.state, .ok .done)

theorem refuses_of_handed {d : Command} {x : Except (Failure Refusal Session) (Session × Reply)}
    (hstep : s.step c = settle x) (hands : c.handsOver? = some d)
    (fails : ∀ f, x = .error f → s.FailsHanded d f) (refused : (s.step c).2 = .error r) :
    s.Refuses c r := by
  rw [hstep] at refused
  cases x with
  | ok a => cases refused
  | error f =>
    obtain rfl : f.cause = r := Except.error.inj refused
    rcases fails f rfl with ⟨same, missing⟩ | ⟨cause, failed, dropped⟩
    · exact .kept ((congrArg Prod.fst hstep).trans same) (.inr missing)
    · exact .letGo hands failed (dropped.trans (by rw [hstep]; rfl))

theorem step_drop_buffer {name : String} {b : Buffer} (found : s.buffers.get? name = some b) :
    s.step (.buffers (.drop name)) =
      ({ s.eraseBuffer name with heap := s.heap.drop b }, .ok .done) := by
  simp only [step, runBuffers, dropBuffer, need_eq_ok.mpr found]
  rfl

theorem step_drop_capsule {name : String} {capsule : Capsule}
    (found : s.capsules.get? name = some capsule) :
    s.step (.capsules (.drop name)) =
      ({ s.eraseCapsule name with heap := s.heap.dropCapsule capsule }, .ok .done) := by
  simp only [step, runCapsules, dropCapsule, need_eq_ok.mpr found]
  rfl

theorem failsHanded_wrapBufferAs {name out : String} {shape : List UInt64} {type : ElementType}
    {device : Device} {f : Failure Refusal Session}
    (failed : s.wrapBufferAs name out shape type device = .error f) :
    s.FailsHanded (.buffers (.drop name)) f := by
  obtain rfl | ⟨b, found, failed⟩ := need_bind_eq_error failed
  · exact .inl ⟨rfl, name, rfl⟩
  · obtain failed | ⟨_, _, failed⟩ := bind_eq_error.mp failed
    · obtain ⟨g, hg, rfl⟩ := mapError_eq_error.mp failed
      refine .inr ⟨g.cause, rfl, ?_⟩
      rw [step_drop_buffer found, onHeap, Capsule.fails_wrapAs g hg]
      rfl
    · cases failed

theorem failsHanded_giveUpCapsule {name out : String} {f : Failure Refusal Session}
    (failed : s.giveUpCapsule name out = .error f) :
    s.FailsHanded (.capsules (.drop name)) f := by
  obtain rfl | ⟨c, found, failed⟩ := need_bind_eq_error failed
  · exact .inl ⟨rfl, name, rfl⟩
  · obtain failed | ⟨_, _, failed⟩ := bind_eq_error.mp failed
    · obtain ⟨g, hg, rfl⟩ := mapError_eq_error.mp failed
      refine .inr ⟨g.cause, rfl, ?_⟩
      rw [step_drop_capsule found, Capsule.leaves_takeTensor g hg]
      rfl
    · cases failed

/-- A capsule that a registry does not take is let go, and the registry is as it was. -/
theorem failsHanded_registerCapsule {name key capsule : String} {f : Failure Refusal Session}
    (failed : s.registerCapsule name key capsule = .error f) :
    s.FailsHanded (.capsules (.drop capsule)) f := by
  obtain rfl | ⟨registry, hregistry, failed⟩ := need_bind_eq_error failed
  · exact .inl ⟨rfl, name, rfl⟩
  obtain rfl | ⟨c, found, failed⟩ := need_bind_eq_error failed
  · exact .inl ⟨rfl, capsule, rfl⟩
  · obtain failed | ⟨_, _, failed⟩ := bind_eq_error.mp failed
    · obtain ⟨g, hg, rfl⟩ := mapError_eq_error.mp failed
      refine .inr ⟨g.cause, rfl, ?_⟩
      have same : (s.eraseCapsule capsule).updateRegistry name registry = s.eraseCapsule capsule :=
        updateRegistry_self hregistry
      rw [step_drop_capsule found, Registry.leaves_register g hg, same]
      rfl
    · cases failed

/-! ## Commands of each kind -/

theorem runCapsules_of_refused {c : CapsuleCommand} (refused : (s.runCapsules c).2 = .error r) :
    s.Refuses (.capsules c) r := by
  cases c with
  | describe | bytes | elements => exact .kept rfl (.inl rfl)
  | wrap => exact .kept (leaves_wrapBuffer.settle refused) (.inl rfl)
  | consume => exact .kept (leaves_consumeCapsule.settle refused) (.inl rfl)
  | race => exact .kept (leaves_raceCapsule.settle refused) (.inl rfl)
  | takeTensor => exact .kept (leaves_takeCapsuleTensor.settle refused) (.inl rfl)
  | drop => exact .kept (leaves_dropCapsule.settle refused) (.inl rfl)
  | wrapAs => exact refuses_of_handed rfl rfl (fun _ => failsHanded_wrapBufferAs) refused
  | intoTensor => exact refuses_of_handed rfl rfl (fun _ => failsHanded_giveUpCapsule) refused

theorem runTensors_of_refused {c : TensorCommand} (refused : (s.runTensors c).2 = .error r) :
    (s.runTensors c).1 = s := by
  cases c with
  | foreign => cases refused
  | describe | adoptNull | findNull | deleteNull | deletions => rfl
  | adopt => exact leaves_adoptTensor.settle refused
  | delete => exact leaves_deleteTensor.settle refused
  | deleteEmpty => exact leaves_deleteEmptyTensor.settle refused

theorem runRegistries_of_refused {c : RegistryCommand}
    (refused : (s.runRegistries c).2 = .error r) : s.Refuses (.registries c) r := by
  cases c with
  | create => cases refused
  | list | contains | inspect => exact .kept rfl (.inl rfl)
  | collect => exact .kept (leaves_collectRegistry.settle refused) (.inl rfl)
  | take => exact .kept (leaves_takeCapsule.settle refused) (.inl rfl)
  | drain => exact .kept (leaves_drainRegistry.settle refused) (.inl rfl)
  | register => exact refuses_of_handed rfl rfl (fun _ => failsHanded_registerCapsule) refused
  | drop name =>
    change (s.dropRegistry name).2 = .error r at refused
    unfold dropRegistry at refused
    split at refused
    · cases refused
    · cases refused

/-! ## Commands without effect -/

/-- A command that fails does nothing, or what the drop of the thing does that it was handed. -/
theorem refuses_of_error (k : s.world.Sound) (refused : (s.step c).2 = .error r) :
    s.Refuses c r := by
  cases c with
  | memory c => exact .kept (runMemory_of_refused refused) (.inl rfl)
  | buffers c => exact .kept (runBuffers_of_refused k refused) (.inl rfl)
  | capsules c => exact runCapsules_of_refused refused
  | tensors c => exact .kept (runTensors_of_refused refused) (.inl rfl)
  | registries c => exact runRegistries_of_refused refused

/-- A command that is handed nothing does nothing where it fails. -/
theorem step_of_refused (k : s.world.Sound) (plain : c.handsOver? = none)
    (refused : (s.step c).2 = .error r) : (s.step c).1 = s := by
  cases refuses_of_error k refused with
  | kept same _ => exact same
  | letGo hands _ _ => cases plain.symm.trans hands

/-! ## Sessions without failures -/

/-- What is left of a command: nothing if it failed, but for the drop of what it was handed. -/
def effect (s : Session) (c : Command) : List Command :=
  match (s.step c).2 with
  | .ok _ => [c]
  | .error (.failed _) => c.handsOver?.toList
  | .error _ => []

/-- What is left of commands, one after the other. -/
def effective (s : Session) : List Command → List Command
  | [] => []
  | c :: rest => s.effect c ++ (s.step c).1.effective rest

theorem run_append (first rest : List Command) : ∀ s : Session,
    s.run (first ++ rest) =
      (((s.run first).1.run rest).1, (s.run first).2 ++ ((s.run first).1.run rest).2) := by
  induction first with
  | nil => exact fun s => rfl
  | cons c first ih =>
    intro s
    simp only [List.cons_append, run, ih]

/-- What is left of a command does the same as the command, and it does not fail. -/
theorem run_effect (k : s.world.Sound) (c : Command) :
    (s.run (s.effect c)).1 = (s.step c).1 ∧
      ∀ outcome ∈ (s.run (s.effect c)).2, ∃ reply, outcome = .ok reply := by
  unfold effect
  split
  case h_1 reply hok =>
    refine ⟨rfl, fun outcome houtcome => ⟨reply, ?_⟩⟩
    rwa [List.mem_singleton.mp houtcome]
  case h_2 cause hfailed =>
    cases refuses_of_error k hfailed with
    | kept same plain =>
      have hnone : c.handsOver? = none := plain.resolve_right nofun
      rw [hnone]
      exact ⟨same.symm, fun outcome houtcome => absurd houtcome List.not_mem_nil⟩
    | letGo hands _ dropped =>
      rw [hands]
      refine ⟨by simp only [Option.toList, run, dropped], fun outcome houtcome => ⟨.done, ?_⟩⟩
      simpa only [Option.toList, run, dropped, List.mem_singleton] using houtcome
  case h_3 refusal hnot hrefused =>
    cases refuses_of_error k hrefused with
    | kept same _ =>
      exact ⟨same.symm, fun outcome houtcome => absurd houtcome List.not_mem_nil⟩
    | letGo _ failed _ => exact absurd failed (hnot _)

/-- A session without its failures comes to the same end, and none of its commands fails. -/
theorem run_effective (cs : List Command) : ∀ {s : Session}, s.world.Sound →
    (s.run (s.effective cs)).1 = (s.run cs).1 ∧
      ∀ outcome ∈ (s.run (s.effective cs)).2, ∃ reply, outcome = .ok reply := by
  induction cs with
  | nil => exact fun _ => ⟨rfl, fun outcome houtcome => absurd houtcome List.not_mem_nil⟩
  | cons c rest ih =>
    intro s k
    obtain ⟨hstep, hfirst⟩ := run_effect k c
    obtain ⟨hrun, hrest⟩ := ih ((moves_of_step s c).sound k)
    rw [effective, run_append, hstep]
    refine ⟨hrun, fun outcome houtcome => ?_⟩
    rcases List.mem_append.mp houtcome with h | h
    · exact hfirst outcome h
    · exact hrest outcome h

/-! ## Failures of a session -/

/-- What failures do to a session: nothing that any other command could tell. -/
structure Unharmed (s : Session) : Prop where
  /-- A command that fails leaves the whole session as it was, down to the counters. -/
  kept : ∀ c r, c.handsOver? = none → (s.step c).2 = .error r → (s.step c).1 = s
  /-- One that was handed something lets go of that and does no more. -/
  letGo : ∀ c d cause, c.handsOver? = some d → (s.step c).2 = .error (.failed cause) →
    s.step d = ((s.step c).1, .ok .done)
  /-- A copy fails before it has memory and with nothing done. -/
  refused : ∀ b device a f, s.world.Live b → b.copySource s.heap device a = .error f →
    b.copyTo s.heap device a = .error f ∧ f.state = s.heap
  /-- Once it has memory it succeeds. -/
  filled : ∀ b device a data h copy, s.world.Live b →
    b.copySource s.heap device a = .ok (data, h, copy) →
      ∃ h', b.copyTo s.heap device a = .ok (h', copy)
  /-- Failures can be left out. -/
  effective : ∀ cs, (s.run (s.effective cs)).1 = (s.run cs).1 ∧
    ∀ outcome ∈ (s.run (s.effective cs)).2, ∃ reply, outcome = .ok reply

/-- Whatever the commands of a session are, failures among those that follow leave no trace. -/
theorem unharmed_run (m : Machine) (env : Config.Environment) (cs : List Command) :
    ((start m env).run cs).1.Unharmed := by
  have k := sound_run m env cs
  constructor
  case kept => exact fun c r plain refused => step_of_refused k plain refused
  case letGo =>
    intro c d cause hands refused
    cases refuses_of_error k refused with
    | kept _ plain => cases (plain.resolve_right nofun).symm.trans hands
    | letGo hands' _ dropped =>
      obtain rfl := Option.some.inj (hands.symm.trans hands')
      exact dropped
  case refused =>
    exact fun b device a f _ failed =>
      ⟨Buffer.copyTo_of_source_error failed, Buffer.leaves_copySource f failed⟩
  case filled =>
    intro b device a data h copy live ok
    obtain ⟨_, w, _, hcopy⟩ := Buffer.copyTo_of_source (k.live live).exact ok
    exact ⟨_, hcopy⟩
  case effective => exact fun more => run_effective more k

end Session

end TensorExchange
