import TensorExchange.Proofs.Interop.Objects
import TensorExchange.Proofs.Soundness.Rooted

/-!
What the steps of a script do to what its objects hold.

A step reads names and values, finds objects, changes some, and answers.  It may fail at
each point of that, and the exception then carries the script that it leaves.  Two things are
proved of each operation: that it leads from what is held to what is held
(`Proofs/Interop/Objects`), and what it leaves if it is refused.

* An export takes the capsule of a tensor object and gives a handle.  It is refused before
  it takes anything, and leaves the script as it was (`leaves_exportTensor`).
* A claim takes the tensor from a handle and renames it.  A claim that is refused leaves the
  handle its tensor and its name (`leaves_claim`), and that the tensor was claimed before is
  reported whatever the handle carries (`claim_used`).
* An import claims and hands the capsule to whoever asked for it, so that it is loose in
  between.  If reading fails, the tensor has been taken already and is deleted.
* An object that is asked to export itself may be a producer, which answers with a handle of
  its own and logs the request, also if the claim that follows fails.

Main statement (`leads_step`): every step leads from what is held to what is held, and
nothing is left loose.  There is one case for each kind of step, and each of them cites the
lemma of the operation it calls.  A step that answers with an exception settles like one
that answers with a value (`leads_settle`): what holds of the script that the exception
carries is what has to be shown, not that it is the script from before.
-/

namespace TensorExchange

open Interop

/-- The managed tensor that a capsule gives takes its place. -/
theorem Deal.exportAs {h h' : Heap} {c c' : Capsule} {wanted : CapsuleFormat} {t : ManagedTensor}
    (ok : Script.exportAs h c wanted = .ok (h', c', t)) (things : Multiset Thing) (n : Nat) :
    c.isConsumed = false ∧ c' = c.spent ∧
      Deal ⟨h, .capsule c ::ₘ things, n⟩ ⟨h', .tensor t ::ₘ things, n⟩ := by
  unfold Script.exportAs at ok
  split at ok
  case isTrue =>
    obtain ⟨⟨c₁, t₁⟩, htake, ok⟩ := bind_eq_ok.mp ok
    obtain ⟨rfl, rfl, rfl⟩ := by simpa [pure_eq_ok] using ok
    have htake := mapError_eq_ok.mp htake
    obtain ⟨rfl, _⟩ := Capsule.takeTensor_eq_ok htake
    exact ⟨Capsule.unconsumed_of_takeTensor htake, rfl,
      (Deal.takeTensor htake).trans (.dropSpent c)⟩
  case isFalse =>
    obtain ⟨⟨h₁, c₁, b⟩, hconsume, ok⟩ := bind_eq_ok.mp ok
    obtain ⟨⟨c₂, t₁⟩, htake, ok⟩ := bind_eq_ok.mp ok
    obtain ⟨rfl, rfl, rfl⟩ := by simpa [pure_eq_ok] using ok
    obtain ⟨_, rfl, _⟩ := Capsule.consumeAs_eq_ok hconsume
    exact ⟨Capsule.unconsumed_of_consumeAs hconsume, rfl,
      ((Deal.consume hconsume).trans (.dropSpent c)).trans (.exported (mapError_eq_ok.mp htake))⟩

/-- An export fails before it changes anything: a buffer that was consumed to be exported anew is
exported. -/
theorem leaves_exportAs {h : Heap} {c : Capsule} {wanted : CapsuleFormat} :
    Leaves (h, c) (Script.exportAs h c wanted) := by
  unfold Script.exportAs
  split
  case isTrue => exact .bind (Capsule.leaves_takeTensor.mapError fun _ => rfl) fun _ _ => .ok
  case isFalse =>
    refine .bind Capsule.leaves_consumeAs fun ⟨h, c', b⟩ _ => ?_
    have htake : (Capsule.wrapWith b ⟨wanted, c'.info.readOnly⟩).takeTensor = .ok (_, _) := rfl
    exact .bind (Leaves.of_ok (mapError_eq_ok.mpr htake)) fun _ _ => .ok

namespace Interop.Script

variable {strays : List Nat} {s s' : Script} {loose : Multiset Thing} {id : Nat} {e : Entry}

/-! ## Export -/

theorem update_withHeap (s : Script) (h : Heap) (id : Nat) (o : Object) :
    { s with heap := h }.update id o = { s.update id o with heap := h } := by
  unfold update
  dsimp only
  split <;> rfl

theorem update_heap (s : Script) (id : Nat) (o : Object) : (s.update id o).heap = s.heap := by
  unfold update
  split <;> rfl

theorem update_eq_self (found : s.objects.get? id = some e) : s.update id e.object = s := by
  simp only [update, found, Table.set_eq_self found]

theorem leaves_exportTensor {c : Capsule} {r : ExportRequest}
    (found : s.objects.get? id = some e) (hobject : e.object = .tensor c) :
    Leaves s (s.exportTensor id c r) := by
  refine .bind leaves_leaving fun _ _ => .bind (leaves_exportAs.mapError fun _ => ?_) fun _ _ => .ok
  exact hobject ▸ update_eq_self found

/-- A tensor object that is exported gives a handle of what it held. -/
theorem leads_exportTensor {c : Capsule} {r : ExportRequest} {x : Handle}
    (found : s.objects.get? id = some e) (hobject : e.object = .tensor c)
    (ok : s.exportTensor id c r = .ok (s', x)) :
    x = handleOf x.tensor ∧ Leads strays s loose s' ((Object.handle x).things + loose) := by
  obtain ⟨⟨⟩, _, ok⟩ := bind_eq_ok.mp ok
  obtain ⟨⟨h, c', t⟩, hexport, ok⟩ := bind_eq_ok.mp ok
  obtain ⟨rfl, rfl⟩ := by simpa [pure_eq_ok] using ok
  have hexport := mapError_eq_ok.mp hexport
  have deal := Deal.exportAs hexport
  obtain ⟨hheld, rfl, _⟩ := deal 0 0
  refine ⟨rfl, ?_⟩
  -- the object gives up its capsule first, and the managed tensor takes its place
  have hupdate : Leads strays s ((Object.tensor c.spent).things + loose)
      (s.update id (.tensor c.spent)) (e.object.things + loose) :=
    leads_update found (.inr ⟨c, rfl⟩)
  rw [things_spent, zero_add, hobject] at hupdate
  refine hupdate.trans ?_
  rw [update_withHeap s h]
  refine .of_deal ?_
  rw [world, update_heap, things_of_named rfl, Object.things, hheld]
  simpa only [Bool.false_eq_true, if_false, Multiset.singleton_add, Multiset.cons_add,
    handleOf] using (deal _ _).2.2

/-! ## Claims -/

/-- A handle that can be claimed has the name of an unclaimed one. -/
theorem claimable_eq_ok {x : Handle} {f : CapsuleFormat} (ok : claimable x = .ok f) :
    x.name = some f.handleName := by
  unfold claimable at ok
  split at ok
  next => cases ok
  next =>
    split at ok
    next g hfind =>
      obtain rfl := Except.ok.inj ok
      simpa using List.find?_some hfind
    next => cases ok

theorem claimable_used {x : Handle} {f : CapsuleFormat} (h : x.name = some f.usedName) :
    claimable x = .error (.ofError .alreadyConsumed) := by
  have hfind : (CapsuleFormat.all.find? fun g => x.name = some g.usedName) = some f := by
    rw [h]
    cases f <;> decide
  simp only [claimable, hfind]

/-- A claim that succeeds found an unclaimed handle with a tensor that it understands. -/
theorem claim_eq_ok {c : Capsule} (ok : s.claim id = .ok (s', c)) :
    ∃ (x : Handle) (n : Nat) (f : CapsuleFormat), s.objects.get? id = some ⟨.handle x, n⟩ ∧
      x.name = some f.handleName ∧ Capsule.ofTensor x.tensor = .ok c ∧
        s' = s.update id (.handle { x with name := some f.usedName }) := by
  unfold claim at ok
  split at ok
  next x n found =>
    obtain ⟨f, hclaimable, ok⟩ := bind_eq_ok.mp ok
    obtain ⟨⟨h, c'⟩, himport, ok⟩ := bind_eq_ok.mp ok
    obtain ⟨rfl, rfl⟩ := Prod.mk.inj (pure_eq_ok.mp ok)
    obtain ⟨rfl, hc⟩ := Capsule.importTensor_eq_ok (mapError_eq_ok.mp himport)
    exact ⟨x, n, f, found, claimable_eq_ok (leaving_eq_ok.mp hclaimable), hc, rfl⟩
  next => cases ok

/-- An object whose tensor is not claimed stays as it is; a handle is renamed when nothing can fail
any more. -/
theorem leaves_claim : Leaves s (s.claim id) := by
  unfold claim
  split
  next =>
    exact .bind leaves_leaving fun _ _ =>
      .bind (Capsule.leaves_importTensor.mapError fun _ => rfl) fun _ _ => .ok
  next => exact .error

theorem leads_rename {x : Handle} {n : Nat} {f : CapsuleFormat}
    (found : s.objects.get? id = some ⟨.handle x, n⟩) (hname : x.name = some f.handleName) :
    Leads strays s loose (s.update id (.handle { x with name := some f.usedName }))
      ({.tensor x.tensor} + loose) := by
  have hused : (Object.handle { x with name := some f.usedName }).things = 0 := things_of_used rfl
  have hmade : Object.Made strays (.handle { x with name := some f.usedName }) :=
    ⟨fun _ hheld => by simp [Object.things, hheld] at hused,
      fun _ hheld => by simp [Object.things, hheld] at hused⟩
  have hupdate : Leads strays s ((Object.handle { x with name := some f.usedName }).things + loose)
      (s.update id (.handle { x with name := some f.usedName }))
      ((Object.handle x).things + loose) :=
    leads_update found hmade
  rwa [hused, zero_add, things_of_named hname] at hupdate

theorem leads_claim {c : Capsule} (ok : s.claim id = .ok (s', c)) :
    Leads strays s loose s' ({.capsule c} + loose) := by
  obtain ⟨x, n, f, found, hname, hc, rfl⟩ := claim_eq_ok ok
  refine (leads_rename found hname).trans (.of_deal (n := (s.update id _).numbered) ?_)
  simp only [world, Multiset.singleton_add, Multiset.cons_add]
  exact .importTensor hc

/-! ## Imports -/

/-- The capsule that an import gives. -/
def gained : Except Exception Capsule → Multiset Thing
  | .ok c => {.capsule c}
  | .error _ => 0

/-- An import gives a capsule as it is made, which it took from the objects and from what was loose,
or it gives none. -/
structure Imports (strays : List Nat) (s : Script) (loose : Multiset Thing)
    (r : Script × Except Exception Capsule) (loose' : Multiset Thing) : Prop where
  leads : Leads strays s loose r.1 (gained r.2 + loose')
  made : ∀ c, r.2 = .ok c → c.Made

namespace Imports

variable {r : Script × Except Exception Capsule} {loose' loose'' : Multiset Thing}

theorem refused {x : Exception} (l : Leads strays s loose s' loose') :
    Imports strays s loose (s', .error x) loose' where
  leads := by simpa only [gained, zero_add] using l
  made := by
    intro c heq
    cases heq

theorem given {c : Capsule} (made : c.Made) (l : Leads strays s loose s' ({.capsule c} + loose')) :
    Imports strays s loose (s', .ok c) loose' where
  leads := l
  made := by
    intro c' heq
    exact Except.ok.inj heq ▸ made

theorem after (k : Imports strays s' loose' r loose'') (l : Leads strays s loose s' loose') :
    Imports strays s loose r loose'' :=
  ⟨l.trans k.leads, k.made⟩

end Imports

theorem made_of_claim {c : Capsule} (ok : s.claim id = .ok (s', c)) : c.Made := by
  obtain ⟨x, _, _, _, _, hc, _⟩ := claim_eq_ok ok
  obtain ⟨d, hd, rfl⟩ := Capsule.ofTensor_eq_ok hc
  exact ⟨.inr ⟨x.tensor, hc⟩, (Described.Describes.of_ofTensor hd).checked⟩

theorem imports_claim (s : Script) (id : Nat) (loose : Multiset Thing) :
    Imports strays s loose (TensorExchange.settle (s.claim id)) loose := by
  cases hclaim : s.claim id with
  | ok r => exact .given (made_of_claim hclaim) (leads_claim hclaim)
  | error f =>
    have same : f.state = s := leaves_claim f hclaim
    exact .refused (.of_same same loose)

/-- A handle that was made for one consumer goes away with the import. -/
theorem imports_claimFresh (s : Script) {x : Handle} (made : x.Made strays)
    (loose : Multiset Thing) :
    Imports strays s ((Object.handle x).things + loose) (s.claimFresh x) loose := by
  have hadd : Leads strays s ((Object.handle x).things + loose) (s.add (.handle x)).1 loose :=
    leads_add (o := .handle x) made
  have hclaim : Imports strays (s.add (.handle x)).1 loose _ loose :=
    imports_claim _ s.objects.next loose
  exact ⟨hadd.trans (hclaim.leads.trans (leads_release _ _ _)), hclaim.made⟩

theorem leads_note (s : Script) (log : Nat) (r : Request) (loose : Multiset Thing) :
    Leads strays s loose (s.note log r) loose := by
  unfold note
  split
  · exact leads_logs ..
  · exact .refl s loose

theorem leads_ask (s : Script) (mode : ProducerMode) (result : Option Nat) (log : Nat)
    (loose : Multiset Thing) : Leads strays s loose (s.ask mode result log).1 loose := by
  have hnote : Leads strays s loose (s.note log true) loose := leads_note s log true loose
  unfold ask
  dsimp only
  split
  · split
    · exact hnote.trans (leads_note _ log false loose)
    · exact hnote
  · exact hnote

theorem imports_claimGiven (s : Script) (result : Option Nat) (loose : Multiset Thing) :
    Imports strays s loose (s.claimGiven result) loose := by
  cases result with
  | some id => exact imports_claim s id loose
  | none => exact .refused (.refl s loose)

theorem imports_importObject {o : Object} (found : s.objects.get? id = some e)
    (hobject : e.object = o) (loose : Multiset Thing) :
    Imports strays s loose (s.importObject id o) loose := by
  unfold importObject
  split
  next => exact imports_claimGiven s _ loose
  next c =>
    split
    next s₁ x ok =>
      obtain ⟨hx, hleads⟩ := leads_exportTensor found hobject ok
      rw [hx] at hleads ⊢
      exact (imports_claimFresh s₁ (made_handleOf strays _) loose).after hleads
    next f failed =>
      have same : f.state = s := leaves_exportTensor found hobject f failed
      exact .refused (.of_same same loose)
  next mode result log =>
    have hask : Leads strays s loose (s.ask mode result log).1 loose :=
      leads_ask s mode result log loose
    split
    next s₁ result' heq =>
      rw [heq] at hask
      exact (imports_claimGiven s₁ result' loose).after hask
    next s₁ x heq =>
      rw [heq] at hask
      exact .refused hask
  next => exact .refused (.refl s loose)

/-! ## Refusals -/

theorem claim_used {x : Handle} {n : Nat} {f : CapsuleFormat}
    (found : s.objects.get? id = some ⟨.handle x, n⟩) (h : x.name = some f.usedName) :
    s.claim id = .error ⟨.ofError .alreadyConsumed, s⟩ := by
  simp only [claim, found, claimable_used h]
  rfl

/-- A step that a handle refuses leaves the script as it was. -/
theorem step_of_refused {name : String} {x : Handle} {f : Failure Exception Script}
    (hobject : s.object? name = some (id, .handle x)) (refused : s.claim id = .error f) :
    (∀ out, s.step (.adopt name out) = (s, .error (.raised f.cause))) ∧
      s.step (.print name) = (s, .error (.raised f.cause)) := by
  have same : f.state = s := leaves_claim f refused
  constructor
  · intro out
    simp only [step, withObject, needObject, hobject, adoptObject, importObject, claimGiven,
      refused, TensorExchange.settle, same]
  · simp only [step, withObject, needObject, hobject, printObject, importObject, claimGiven,
      refused, TensorExchange.settle, same]

theorem ask_objects (s : Script) (mode : ProducerMode) (result : Option Nat) (log : Nat) :
    (s.ask mode result log).1.objects = s.objects ∧ (s.ask mode result log).1.heap = s.heap := by
  have hnote : ∀ (s : Script) (r : Request),
      (s.note log r).objects = s.objects ∧ (s.note log r).heap = s.heap := by
    intro s r
    unfold note
    split <;> exact ⟨rfl, rfl⟩
  unfold ask
  dsimp only
  split
  · split
    · exact ⟨((hnote _ _).1).trans (hnote s _).1, ((hnote _ _).2).trans (hnote s _).2⟩
    · exact hnote s _
  · exact hnote s _

/-- What a producer gave is refused as it is. -/
theorem claimGiven_of_refused {result : Option Nat} {e : Exception}
    (refused : s.claimGiven result = (s', .error e)) : s' = s := by
  cases result with
  | some id =>
    have same : (TensorExchange.settle (s.claim id)).1 = s :=
      leaves_claim.settle (congrArg Prod.snd refused)
    exact (congrArg Prod.fst refused).symm.trans same
  | none => exact (congrArg Prod.fst refused).symm

theorem importObject_of_refused {mode : ProducerMode} {result : Option Nat} {log : Nat}
    {e : Exception} (refused : s.importObject id (.producer mode result log) = (s', .error e)) :
    s'.objects = s.objects ∧ s'.heap = s.heap := by
  have hask := s.ask_objects mode result log
  simp only [importObject] at refused
  split at refused
  next s₁ result' heq =>
    rw [heq] at hask
    exact claimGiven_of_refused refused ▸ hask
  next s₁ e' heq =>
    rw [heq] at hask
    exact (Prod.mk.inj refused).1 ▸ hask

/-- A handle that was made for one consumer and is refused goes away with what it carries. -/
theorem claimFresh_of_refused {x : Handle} {e : Exception}
    (refused : s.claimFresh x = (s', .error e)) :
    s'.heap = dropHandle s.heap x ∧ ∀ other, s'.objects.get? other = s.objects.get? other := by
  have found : (s.add (.handle x)).1.objects.get? s.objects.next = some ⟨.handle x, 1⟩ :=
    Table.get?_add_next ..
  have hrelease : (s.add (.handle x)).1.release s.objects.next =
      { s with
        heap := dropHandle s.heap x
        objects := (s.objects.add ⟨.handle x, 1⟩).1.erase s.objects.next } := by
    unfold release
    split
    next hnone =>
      rw [found] at hnone
      cases hnone
    next e hsome =>
      obtain rfl := Option.some.inj (found.symm.trans hsome)
      rfl
  have hclaim : (TensorExchange.settle ((s.add (.handle x)).1.claim s.objects.next)).1 =
      (s.add (.handle x)).1 := leaves_claim.settle (congrArg Prod.snd refused)
  have hs' : (TensorExchange.settle ((s.add (.handle x)).1.claim s.objects.next)).1.release
      s.objects.next = s' := congrArg Prod.fst refused
  rw [hclaim, hrelease] at hs'
  subst hs'
  refine ⟨rfl, fun other => ?_⟩
  by_cases hother : s.objects.next = other
  · subst hother
    rw [Table.get?_erase_self, Table.get?_next]
  · rw [Table.get?_erase_of_ne _ hother, Table.get?_add_of_ne _ _ (Ne.symm hother)]

/-! ## Steps -/

theorem leads_settle {result : Except (Failure Exception Script) (Script × Reply)}
    (leaves : Leaves s result)
    (l : ∀ s' reply, result = .ok (s', reply) → Leads strays s loose s' loose) :
    Leads strays s loose (settle result).1 loose := by
  cases result with
  | ok r => exact l r.1 r.2 rfl
  | error f =>
    have same : f.state = s := leaves f rfl
    exact .of_same same loose

theorem leads_bindTensor (s : Script) (out : String) {c : Capsule} (made : c.Made)
    (loose : Multiset Thing) :
    Leads strays s ({.capsule c} + loose) (s.bind out (.tensor c)) loose := by
  rw [← things_of_fresh made.fresh]
  exact leads_bind s out (o := .tensor c) (.inl made) loose

theorem leads_bindHandle (s : Script) (out : String) (t : ManagedTensor) (loose : Multiset Thing) :
    Leads strays s ({.tensor t} + loose) (s.bind out (.handle (handleOf t))) loose := by
  have hthings : (Object.handle (handleOf t)).things = {.tensor t} := things_of_named rfl
  rw [← hthings]
  exact leads_bind s out (o := .handle (handleOf t)) (made_handleOf strays t) loose

theorem leads_makeTensor {out : String} {shape type device : Value} {reply : Reply}
    (ok : s.makeTensor out shape type device = .ok (s', reply)) :
    Leads strays s loose s' loose := by
  obtain ⟨sizes, _, ok⟩ := bind_eq_ok.mp ok
  obtain ⟨typeName, _, ok⟩ := bind_eq_ok.mp ok
  obtain ⟨deviceName, _, ok⟩ := bind_eq_ok.mp ok
  obtain ⟨type, _, ok⟩ := bind_eq_ok.mp ok
  obtain ⟨device, _, ok⟩ := bind_eq_ok.mp ok
  obtain ⟨⟨h, b⟩, halloc, ok⟩ := bind_eq_ok.mp ok
  obtain ⟨rfl, rfl⟩ := Prod.mk.inj (pure_eq_ok.mp ok)
  have hmake : Leads strays s loose { s with heap := h }
      ({.capsule (.wrapWith b (.ofConfig s.config))} + loose) := by
    refine .of_deal (n := s.numbered) ?_
    simp only [world, Multiset.singleton_add, Multiset.cons_add]
    exact .allocated (mapError_eq_ok.mp halloc) _
  have made : (Capsule.wrapWith b (.ofConfig s.config)).Made :=
    ⟨.inl ⟨b, _, rfl⟩, (Allocator.rooted_allocate (mapError_eq_ok.mp halloc)).counted⟩
  exact hmake.trans (leads_bindTensor _ out made loose)

theorem leaves_makeTensor {out : String} {shape type device : Value} :
    Leaves s (s.makeTensor out shape type device) :=
  .bind leaves_leaving fun _ _ => .bind leaves_leaving fun _ _ => .bind leaves_leaving fun _ _ =>
    .bind leaves_leaving fun _ _ => .bind leaves_leaving fun _ _ =>
      .bind (Allocator.leaves_allocate.mapError fun _ => rfl) fun _ _ => .ok

theorem leads_bindPacked (s : Script) (out : String) (type : ElementType) (data : List UInt8)
    (loose : Multiset Thing) : Leads strays s loose (s.bindPacked out type data) loose := by
  refine Leads.trans (.of_deal (n := s.numbered) ?_) (leads_bindHandle _ out _ loose)
  simp only [world, Multiset.singleton_add, Multiset.cons_add]
  exact .packed type data.toArray

theorem leads_countUp {out : String} {n : Value} {reply : Reply}
    (ok : s.countUp out n = .ok (s', reply)) : Leads strays s loose s' loose := by
  obtain ⟨n, _, ok⟩ := bind_eq_ok.mp ok
  obtain ⟨rfl, rfl⟩ := Prod.mk.inj (pure_eq_ok.mp ok)
  exact leads_bindPacked ..

theorem leaves_countUp {out : String} {n : Value} : Leaves s (s.countUp out n) :=
  .bind leaves_leaving fun _ _ => .ok

theorem leads_makeSamples (s : Script) (lead : String) (loose : Multiset Thing) :
    Leads strays s loose (s.makeSamples lead).1 loose := by
  unfold makeSamples
  dsimp only
  exact (leads_bindPacked s _ _ _ loose).trans (leads_bindPacked _ _ _ _ loose)

/-- A handle of another runtime under a name that no consumer knows leaves its tensor to nobody. -/
theorem leads_makeForeign (s : Script) (out : String) (name : Option String) (f : ForeignTensor)
    (loose : Multiset Thing) (stray : s.numbered + 1 ∈ strays) :
    Leads strays s loose (s.makeForeign out name f) loose := by
  let t := (s.heap.addForeign f (s.numbered + 1)).2
  let x : Handle := ⟨name, t, false⟩
  have hstray : Stray strays (.tensor t) := stray_of_runtime rfl stray
  have made : x.Made strays := ⟨nofun, fun _ _ => hstray⟩
  have hlend : Leads strays s loose
      { s with heap := (s.heap.addForeign f (s.numbered + 1)).1, numbered := s.numbered + 1 }
      ({.tensor t} + loose) := by
    refine .of_deal ?_
    simp only [world, Multiset.singleton_add, Multiset.cons_add]
    exact .lend f
  refine hlend.trans (Leads.trans ?_ (leads_bind _ out (o := .handle x) made loose))
  by_cases hheld : x.unclaimed = true
  · simp only [Object.things, hheld, if_true]
    exact .of_eq rfl rfl
  · simp only [Object.things, hheld, Bool.false_eq_true, if_false, zero_add]
    refine (leads_leave fun y hy => ?_).trans (.of_eq rfl rfl)
    exact Multiset.mem_singleton.mp hy ▸ hstray

theorem leads_makeProducer (s : Script) (out : String) (mode : ProducerMode)
    (result : Option String) (loose : Multiset Thing) :
    Leads strays s loose (s.makeProducer out mode result) loose := by
  have hbind : ∀ (s : Script) (id : Option Nat) (log : Nat),
      Leads strays s loose (s.bind out (.producer mode id log)) loose := by
    intro s id log
    have hbind : Leads strays s ((Object.producer mode id log).things + loose)
        (s.bind out (.producer mode id log)) loose :=
      leads_bind s out (o := .producer mode id log) trivial loose
    rwa [Object.things, zero_add] at hbind
  unfold makeProducer
  dsimp only
  split
  next id _ =>
    exact (leads_retain s id loose).trans ((leads_logs (s.retain id) _ loose).trans (hbind _ _ _))
  next => exact (leads_logs s _ loose).trans (hbind _ _ _)

theorem leads_adoptObject {o : Object} (found : s.objects.get? id = some e)
    (hobject : e.object = o) (out : String) (loose : Multiset Thing) :
    Leads strays s loose (s.adoptObject id o out).1 loose := by
  have himport : Imports strays s loose (s.importObject id o) loose :=
    imports_importObject found hobject loose
  unfold adoptObject
  split
  next s' c heq =>
    rw [heq] at himport
    exact himport.leads.trans (leads_bindTensor s' out (himport.made c rfl) loose)
  next s' x heq =>
    rw [heq] at himport
    simpa only [gained, zero_add] using himport.leads

theorem leads_handOver {c : Capsule} {out : String} {arguments : List (String × Value)}
    {reply : Reply} (found : s.objects.get? id = some e) (hobject : e.object = .tensor c)
    (ok : s.handOver id c out arguments = .ok (s', reply)) : Leads strays s loose s' loose := by
  obtain ⟨r, _, ok⟩ := bind_eq_ok.mp ok
  obtain ⟨⟨s₁, x⟩, hexport, ok⟩ := bind_eq_ok.mp ok
  obtain ⟨rfl, rfl⟩ := Prod.mk.inj (pure_eq_ok.mp ok)
  obtain ⟨hx, hleads⟩ : x = handleOf x.tensor ∧
      Leads strays s loose s₁ ((Object.handle x).things + loose) :=
    leads_exportTensor found hobject hexport
  rw [hx, things_of_named rfl] at hleads
  rw [hx]
  exact hleads.trans (leads_bindHandle s₁ out _ loose)

theorem leaves_handOver {c : Capsule} {out : String} {arguments : List (String × Value)}
    (found : s.objects.get? id = some e) (hobject : e.object = .tensor c) :
    Leaves s (s.handOver id c out arguments) :=
  .bind leaves_leaving fun _ _ => .bind (leaves_exportTensor found hobject) fun _ _ => .ok

/-- What is printed is taken first, and let go. -/
theorem leads_printObject {o : Object} (found : s.objects.get? id = some e)
    (hobject : e.object = o) (loose : Multiset Thing) :
    Leads strays s loose (s.printObject id o).1 loose := by
  have himport : Imports strays s loose (s.importObject id o) loose :=
    imports_importObject found hobject loose
  unfold printObject
  split
  next s' x heq =>
    rw [heq] at himport
    simpa only [gained, zero_add] using himport.leads
  next s' c heq =>
    rw [heq] at himport
    obtain ⟨h, b, hconsume⟩ := (himport.made c rfl).fresh.isOpen.consumes s'.heap .any rfl
    simp only [Capsule.consume, hconsume]
    refine himport.leads.trans (.of_deal ?_)
    simp only [gained, world, Multiset.singleton_add, Multiset.cons_add]
    exact ((Deal.consume hconsume).trans (.dropSpent c)).trans (.drop b)

theorem get?_of_object? {name : String} {o : Object} (h : s.object? name = some (id, o)) :
    ∃ e, s.objects.get? id = some e ∧ e.object = o := by
  simp only [object?, Option.bind_eq_bind, Option.bind_eq_some_iff, Option.pure_def,
    Option.some.injEq] at h
  obtain ⟨_, _, e, found, heq⟩ := h
  obtain ⟨rfl, rfl⟩ := Prod.mk.inj heq
  exact ⟨e, found, rfl⟩

theorem needObject_eq_ok {name : String} {o : Object} (ok : s.needObject name = .ok (id, o)) :
    ∃ e, s.objects.get? id = some e ∧ e.object = o := by
  unfold needObject at ok
  split at ok
  next found hfind =>
    obtain rfl := Except.ok.inj ok
    exact get?_of_object? hfind
  next => cases ok

theorem needTensor_eq_ok {name : String} {c : Capsule} (ok : s.needTensor name = .ok (id, c)) :
    ∃ e, s.objects.get? id = some e ∧ e.object = .tensor c := by
  obtain ⟨⟨id', o⟩, hneed, ok⟩ := bind_eq_ok.mp ok
  split at ok
  next heq =>
    obtain ⟨rfl, rfl⟩ := Prod.mk.inj heq
    obtain ⟨rfl, rfl⟩ := Prod.mk.inj (pure_eq_ok.mp ok)
    exact needObject_eq_ok hneed
  next => cases ok

theorem leads_withObject {name : String} {f : Nat → Object → Script × Outcome}
    (l : ∀ id e, s.objects.get? id = some e → Leads strays s loose (f id e.object).1 loose) :
    Leads strays s loose (s.withObject name f).1 loose := by
  unfold withObject
  split
  next id o ok =>
    obtain ⟨e, found, rfl⟩ := needObject_eq_ok ok
    exact l id e found
  next => exact .refl s loose

theorem leads_withTensor {name : String} {f : Nat → Capsule → Script × Outcome}
    (l : ∀ id e c, s.objects.get? id = some e → e.object = .tensor c →
      Leads strays s loose (f id c).1 loose) :
    Leads strays s loose (s.withTensor name f).1 loose := by
  unfold withTensor
  split
  next id c ok =>
    obtain ⟨e, found, hobject⟩ := needTensor_eq_ok ok
    exact l id e c found hobject
  next => exact .refl s loose

/-- Every step leads from what is held to what is held; those that make a handle of another runtime
may leave its tensor to nobody. -/
theorem leads_step (s : Script) (c : Step) (loose : Multiset Thing)
    (stray : ∀ out name f, c = .foreignHandle out name f → s.numbered + 1 ∈ strays) :
    Leads strays s loose (s.step c).1 loose := by
  cases c with
  | makeTensor out shape type device =>
    exact leads_settle leaves_makeTensor fun _ _ => leads_makeTensor
  | countUp out n => exact leads_settle leaves_countUp fun _ _ => leads_countUp
  | samples lead => exact leads_makeSamples s lead loose
  | foreignHandle out name f => exact leads_makeForeign s out name f loose (stray out name f rfl)
  | producer out mode result => exact leads_makeProducer s out mode result loose
  | plain out =>
    have hbind : Leads strays s (Object.plain.things + loose) (s.bind out .plain) loose :=
      leads_bind s out (o := .plain) trivial loose
    rwa [Object.things, zero_add] at hbind
  | adopt name out =>
    exact leads_withObject fun id e found => leads_adoptObject found rfl out loose
  | handOver name out arguments =>
    exact leads_withTensor fun id e c found hobject =>
      leads_settle (leaves_handOver found hobject) fun _ _ => leads_handOver found hobject
  | print name => exact leads_withObject fun id e found => leads_printObject found rfl loose
  | delete name => exact leads_withObject fun _ _ _ => leads_unbind s name loose
  | describe name | byteCount name | length name =>
    exact leads_withTensor fun _ _ _ _ _ => .refl s loose
  | add left right => exact .refl s loose
  | version => exact .refl s loose
  | requests name => exact .refl s loose
  | handleName name => exact .refl s loose
  | record name => exact .refl s loose
  | deletions name => exact .refl s loose

end Interop.Script

end TensorExchange
