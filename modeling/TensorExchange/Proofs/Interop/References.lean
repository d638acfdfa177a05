import TensorExchange.Proofs.Interop.Scene

/-!
References: an object is there as long as something refers to it.

The scripting side counts references, and runs the deleter of a handle or of a tensor
object when the last one goes.  A name is a reference, and so is the object that a
producer gives to consumers; what a step works with and has not put anywhere yet is
loose, as a list of numbers beside the script.

`Script.Referenced` is the invariant.  The count of an object is the number of the names
and producers that refer to it, plus the loose references; it is not zero; and a producer
is younger than what it gives, so that producers never refer to each other in a circle.
Each operation has one lemma that says what it does to the loose references: `add` leaves
one, `release` takes one, `bind` and `unbind` neither.  Releasing an object may release
what it gave, so that lemma is by induction along the recursion of `release`.

Main statements: whatever a script and other runtimes do, the counts are exact
(`Scene.referenced_run`), and when all names are deleted no object is left
(`Script.Referenced.get?_close`).  The second needs the first and the ages: an object
without a name would be given by a younger one, and that by a younger one still.
-/

namespace TensorExchange.Interop

/-- The numbers of the objects that an object gives to consumers. -/
def Object.given : Object → Multiset Nat
  | producer _ (some result) _ => {result}
  | tensor _ | handle _ | producer _ none _ | plain => 0

namespace Script

/-- The numbers of the objects that names and other objects refer to, each as often as they do. -/
def referred (s : Script) : Multiset Nat := s.names.values + s.objects.bag fun e => e.object.given

/-- The counts of all objects are exact, when there are some loose references beside those of names
and objects. -/
structure Referenced (s : Script) (loose : Multiset Nat) : Prop where
  counted : ∀ id, s.objects.weight Entry.references id = (loose + s.referred).count id
  held : ∀ id e, s.objects.get? id = some e → 0 < e.references
  older : ∀ id e, s.objects.get? id = some e → ∀ given ∈ e.object.given, given < id

namespace Referenced

variable {s s' : Script} {loose loose' : Multiset Nat} {id : Nat} {e e' : Entry}

/-! ## Objects -/

theorem of_same (k : s.Referenced loose) (objects : s'.objects = s.objects)
    (names : s'.names = s.names) : s'.Referenced loose := by
  have hreferred : s'.referred = s.referred := by rw [referred, referred, objects, names]
  constructor
  case counted => rw [objects, hreferred]; exact k.counted
  case held => rw [objects]; exact k.held
  case older => rw [objects]; exact k.older

theorem exists_of_mem (k : s.Referenced loose) (h : id ∈ loose + s.referred) :
    ∃ e, s.objects.get? id = some e := by
  have hcount : s.objects.weight Entry.references id ≠ 0 := by
    rw [k.counted id]
    exact Multiset.count_ne_zero.mpr h
  obtain ⟨e, found, _⟩ := Table.weight_ne_zero_iff.mp hcount
  exact ⟨e, found⟩

theorem count_eq (k : s.Referenced loose) (found : s.objects.get? id = some e) :
    e.references = (loose + s.referred).count id := by
  rw [← k.counted id, Table.weight_of_get? found]

theorem exists_of_find? {name : String} (k : s.Referenced loose) (h : s.find? name = some id) :
    ∃ e, s.objects.get? id = some e := by
  refine k.exists_of_mem (Multiset.mem_add.mpr (.inr (Multiset.mem_add.mpr (.inl ?_))))
  exact Multiset.mem_coe.mpr ((Slots.values_perm h).mem_iff.mpr List.mem_cons_self)

/-- A new object, to which there is one loose reference, takes up those that it has itself. -/
theorem add {o : Object} (k : s.Referenced (o.given + loose)) :
    (s.add o).1.Referenced ({s.objects.next} + loose) := by
  let objects := (s.objects.add ⟨o, 1⟩).1
  have hadd : (s.add o).1 = { s with objects } := rfl
  have hreferred : ({ s with objects } : Script).referred = s.referred + o.given := by
    rw [referred, Table.bag_add, referred, add_assoc]
  have hnew : (o.given + loose + s.referred).count s.objects.next = 0 := by
    rw [← k.counted, Table.weight, Table.get?_next, Option.elim_none]
  rw [hadd]
  constructor
  case counted =>
    intro other
    have hcount : (({s.objects.next} : Multiset Nat) + loose + (s.referred + o.given)).count other =
        (if other = s.objects.next then 1 else 0) + (o.given + loose + s.referred).count other := by
      simp only [Multiset.count_add, Multiset.count_singleton]
      omega
    rw [hreferred, hcount, Table.weight_add, k.counted other]
    split
    next h => rw [h, hnew]
    next => rw [Nat.zero_add]
  case held => exact Table.forall_add k.held Nat.one_pos
  case older =>
    intro other e found given hgiven
    by_cases h : other = s.objects.next
    · subst h
      obtain rfl := Option.some.inj ((Table.get?_add_next ..).symm.trans found)
      have hmem : given ∈ o.given + loose + s.referred := by simp [hgiven]
      obtain ⟨_, hthere⟩ := k.exists_of_mem hmem
      exact Table.lt_next_of_get? hthere
    · exact k.older other e ((Table.get?_add_of_ne _ _ h).symm.trans found) given hgiven

/-- An object that is replaced by one with the same references; its own count changes with the loose
references. -/
theorem set (k : s.Referenced loose) (found : s.objects.get? id = some e)
    (hgiven : e'.object.given = e.object.given) (held : 0 < e'.references)
    (hloose : ∀ other, loose'.count other + (if other = id then e.references else 0) =
      loose.count other + if other = id then e'.references else 0) :
    ({ s with objects := s.objects.set id e' } : Script).Referenced loose' := by
  have hbag := Table.bag_set_add found e' fun e => e.object.given
  rw [hgiven] at hbag
  have hreferred : ({ s with objects := s.objects.set id e' } : Script).referred = s.referred := by
    rw [referred, add_right_cancel hbag, referred]
  constructor
  case counted =>
    intro other
    have hcounted := k.counted other
    have hother := hloose other
    rw [hreferred, Table.weight_set found, Multiset.count_add]
    rw [Multiset.count_add] at hcounted
    split
    next h =>
      subst h
      rw [Table.weight_of_get? found] at hcounted
      simp only [if_true] at hother
      omega
    next h =>
      simp only [h, if_false] at hother
      omega
  case held => exact Table.forall_set k.held found held
  case older =>
    intro other e₁ found₁ given hmem
    by_cases h : id = other
    · subst h
      obtain rfl := Option.some.inj
        ((Table.get?_set_self (Table.lt_next_of_get? found) e').symm.trans found₁)
      exact k.older id e found given (hgiven ▸ hmem)
    · exact k.older other e₁ ((Table.get?_set_of_ne _ _ h).symm.trans found₁) given hmem

/-- An object that nothing else refers to gives its own references when it goes. -/
theorem erase (k : s.Referenced ({id} + loose)) (found : s.objects.get? id = some e)
    (last : ¬ 1 < e.references) :
    ({ s with objects := s.objects.erase id } : Script).Referenced (e.object.given + loose) := by
  have hone : e.references = 1 := by
    have := k.held id e found
    omega
  have hbag := Table.bag_erase_add found fun e => e.object.given
  have hreferred : e.object.given + loose +
      ({ s with objects := s.objects.erase id } : Script).referred = loose + s.referred := by
    rw [referred, referred, ← hbag]
    abel
  constructor
  case counted =>
    intro other
    have hcounted := k.counted other
    rw [add_assoc, Multiset.count_add, Multiset.count_singleton] at hcounted
    rw [hreferred, Table.weight_erase]
    split
    next h =>
      subst h
      rw [Table.weight_of_get? found, hone, if_pos rfl] at hcounted
      omega
    next h =>
      rw [if_neg h] at hcounted
      omega
  case held => exact Table.forall_erase k.held id
  case older =>
    intro other e₁ found₁
    by_cases h : id = other
    · subst h
      rw [Table.get?_erase_self] at found₁
      cases found₁
    · rw [Table.get?_erase_of_ne _ h] at found₁
      exact k.older other e₁ found₁

theorem retain (k : s.Referenced loose) (found : s.objects.get? id = some e) :
    (s.retain id).Referenced ({id} + loose) := by
  simp only [Script.retain, found]
  refine k.set found rfl (Nat.succ_pos _) fun other => ?_
  rw [Multiset.count_add, Multiset.count_singleton]
  split
  next => dsimp only; omega
  next => omega

theorem update {o : Object} (k : s.Referenced loose)
    (same : ∀ e, s.objects.get? id = some e → o.given = e.object.given) :
    (s.update id o).Referenced loose := by
  unfold Script.update
  split
  next e found => exact k.set found (same e found) (k.held id e found) fun _ => rfl
  next => exact k

end Referenced

/-! ## Releasing -/

/-- One reference less, and what goes with it. -/
theorem Referenced.release {s : Script} {id : Nat} {loose : Multiset Nat}
    (k : s.Referenced ({id} + loose)) : (s.release id).Referenced loose := by
  fun_induction Script.release s id with
  | case1 s id gone =>
    have hmem : id ∈ {id} + loose + s.referred := by simp
    obtain ⟨e, found⟩ := k.exists_of_mem hmem
    rw [gone] at found
    cases found
  | case2 s id e found more =>
    refine k.set found rfl (Nat.sub_pos_of_lt more) fun other => ?_
    rw [Multiset.count_add, Multiset.count_singleton]
    split
    next => dsimp only; omega
    next => omega
  | case3 s id e found last rest c hobject =>
    have krest := k.erase found last
    rw [hobject, Object.given, zero_add] at krest
    exact krest.of_same rfl rfl
  | case4 s id e found last rest x hobject =>
    have krest := k.erase found last
    rw [hobject, Object.given, zero_add] at krest
    exact krest.of_same rfl rfl
  | case5 s id e found last rest mode result log hobject ih =>
    -- what the producer gave has lost the producer's reference, which is loose now
    have krest := k.erase found last
    rw [hobject, Object.given] at krest
    exact ih krest
  | case6 s id e found last rest mode log hobject =>
    have krest := k.erase found last
    rwa [hobject, Object.given, zero_add] at krest
  | case7 s id e found last rest hobject =>
    have krest := k.erase found last
    rwa [hobject, Object.given, zero_add] at krest

theorem release_names (s : Script) (id : Nat) : (s.release id).names = s.names := by
  fun_induction Script.release s id with
  | case5 s id e found last rest mode result log hobject ih => exact ih
  | _ => rfl

/-! ## Names -/

section Names

variable {s : Script} {loose : Multiset Nat}

theorem unbind_names (s : Script) (name : String) :
    (s.unbind name).names = s.names.erase name := by
  unfold unbind
  split
  next id _ => exact release_names _ id
  next hnone => exact (Slots.erase_eq_self hnone).symm

theorem Referenced.unbind (k : s.Referenced loose) (name : String) :
    (s.unbind name).Referenced loose := by
  unfold Script.unbind
  split
  next id found =>
    have hvalues : (s.names.values : Multiset Nat) = {id} + (s.names.erase name).values :=
      Multiset.coe_eq_coe.mpr (Slots.values_perm found)
    refine Referenced.release (s := { s with names := s.names.erase name }) ⟨?_, k.held, k.older⟩
    intro other
    rw [k.counted other, referred, hvalues, referred]
    congr 1
    abel
  next => exact k

theorem Referenced.bind {o : Object} (k : s.Referenced (o.given + loose)) (name : String) :
    (s.bind name o).Referenced loose := by
  have hunbind := k.add.unbind name
  have hnone : ((s.add o).1.unbind name).names.get? name = none := by
    rw [unbind_names, Slots.get?_erase, if_pos rfl]
  refine ⟨fun other => ?_, hunbind.held, hunbind.older⟩
  have hcounted := hunbind.counted other
  have hvalues : (s.bind name o).names.values =
      s.objects.next :: ((s.add o).1.unbind name).names.values :=
    congrArg (s.objects.next :: ·) (Slots.values_erase_of_none hnone)
  refine hcounted.trans (congrArg (Multiset.count other) ?_)
  rw [referred, referred, hvalues, ← Multiset.cons_coe, ← Multiset.singleton_add, Script.bind]
  abel

theorem Referenced.bindIdle {o : Object} (k : s.Referenced loose) (idle : o.given = 0)
    (name : String) : (s.bind name o).Referenced loose := by
  refine Referenced.bind ?_ name
  rwa [idle, zero_add]

end Names

/-! ## Steps -/

section Steps

variable {s s' : Script} {loose : Multiset Nat} {id : Nat} {e : Entry}

theorem Referenced.exportTensor {c : Capsule} {r : ExportRequest} {x : Handle}
    (k : s.Referenced loose) (found : s.objects.get? id = some e) (hobject : e.object = .tensor c)
    (ok : s.exportTensor id c r = .ok (s', x)) : s'.Referenced loose := by
  obtain ⟨⟨⟩, _, ok⟩ := bind_eq_ok.mp ok
  obtain ⟨⟨h, c', t⟩, _, ok⟩ := bind_eq_ok.mp ok
  obtain ⟨rfl, rfl⟩ := by simpa [pure_eq_ok] using ok
  have kheap : ({ s with heap := h } : Script).Referenced loose := k.of_same rfl rfl
  refine kheap.update fun e' found' => ?_
  obtain rfl := Option.some.inj (found.symm.trans found')
  rw [hobject]
  rfl

/-- A claim renames a handle, or leaves everything as it was. -/
theorem Referenced.claim (k : s.Referenced loose) (id : Nat) :
    (TensorExchange.settle (s.claim id)).1.Referenced loose := by
  cases hclaim : s.claim id with
  | ok r =>
    obtain ⟨s', c⟩ := r
    obtain ⟨x, n, f, found, _, _, hs'⟩ := claim_eq_ok hclaim
    rw [TensorExchange.settle, hs']
    refine k.update fun e found' => ?_
    obtain rfl := Option.some.inj (found.symm.trans found')
    rfl
  | error f =>
    have same : f.state = s := leaves_claim f hclaim
    rw [TensorExchange.settle, same]
    exact k

theorem Referenced.claimFresh (k : s.Referenced loose) (x : Handle) :
    (s.claimFresh x).1.Referenced loose := by
  have kadd : (s.add (.handle x)).1.Referenced ({s.objects.next} + loose) :=
    Referenced.add (by rwa [Object.given, zero_add])
  exact (kadd.claim s.objects.next).release

theorem Referenced.note (k : s.Referenced loose) (log : Nat) (r : Request) :
    (s.note log r).Referenced loose := by
  unfold Script.note
  split
  · exact k.of_same rfl rfl
  · exact k

theorem Referenced.ask (k : s.Referenced loose) (mode : ProducerMode) (result : Option Nat)
    (log : Nat) : (s.ask mode result log).1.Referenced loose := by
  unfold Script.ask
  dsimp only
  split
  · split
    · exact (k.note log true).note log false
    · exact k.note log true
  · exact k.note log true

theorem Referenced.claimGiven (k : s.Referenced loose) (result : Option Nat) :
    (s.claimGiven result).1.Referenced loose := by
  cases result with
  | some id => exact k.claim id
  | none => exact k

theorem Referenced.importObject {o : Object} (k : s.Referenced loose)
    (found : s.objects.get? id = some e) (hobject : e.object = o) :
    (s.importObject id o).1.Referenced loose := by
  unfold Script.importObject
  split
  next => exact k.claim id
  next c =>
    split
    next s₁ x ok => exact (k.exportTensor found hobject ok).claimFresh x
    next f failed =>
      have same : f.state = s := leaves_exportTensor found hobject f failed
      exact k.of_same (same ▸ rfl) (same ▸ rfl)
  next mode result log =>
    have kask := k.ask mode result log
    split
    next s₁ result' heq =>
      rw [heq] at kask
      exact kask.claimGiven result'
    next s₁ x heq => rwa [heq] at kask
  next => exact k

theorem Referenced.settle {result : Except (Failure Exception Script) (Script × Reply)}
    (k : s.Referenced loose) (leaves : Leaves s result)
    (kok : ∀ s' reply, result = .ok (s', reply) → s'.Referenced loose) :
    (Script.settle result).1.Referenced loose := by
  cases result with
  | ok r => exact kok r.1 r.2 rfl
  | error f =>
    have same : f.state = s := leaves f rfl
    rw [Script.settle, same]
    exact k

theorem Referenced.makeTensor {out : String} {shape type device : Value} {reply : Reply}
    (k : s.Referenced loose) (ok : s.makeTensor out shape type device = .ok (s', reply)) :
    s'.Referenced loose := by
  obtain ⟨sizes, _, ok⟩ := bind_eq_ok.mp ok
  obtain ⟨typeName, _, ok⟩ := bind_eq_ok.mp ok
  obtain ⟨deviceName, _, ok⟩ := bind_eq_ok.mp ok
  obtain ⟨type, _, ok⟩ := bind_eq_ok.mp ok
  obtain ⟨device, _, ok⟩ := bind_eq_ok.mp ok
  obtain ⟨⟨h, b⟩, _, ok⟩ := bind_eq_ok.mp ok
  obtain ⟨rfl, rfl⟩ := Prod.mk.inj (pure_eq_ok.mp ok)
  have kheap : ({ s with heap := h } : Script).Referenced loose := k.of_same rfl rfl
  exact kheap.bindIdle rfl out

theorem Referenced.bindPacked (k : s.Referenced loose) (out : String) (type : ElementType)
    (data : List UInt8) : (s.bindPacked out type data).Referenced loose := by
  have kheap : ({ s with heap := (packedHandle s.heap type data).1 } : Script).Referenced loose :=
    k.of_same rfl rfl
  exact kheap.bindIdle rfl out

theorem Referenced.countUp {out : String} {n : Value} {reply : Reply} (k : s.Referenced loose)
    (ok : s.countUp out n = .ok (s', reply)) : s'.Referenced loose := by
  obtain ⟨n, _, ok⟩ := bind_eq_ok.mp ok
  obtain ⟨rfl, rfl⟩ := Prod.mk.inj (pure_eq_ok.mp ok)
  exact k.bindPacked ..

theorem Referenced.makeSamples (k : s.Referenced loose) (lead : String) :
    (s.makeSamples lead).1.Referenced loose := by
  unfold Script.makeSamples
  dsimp only
  exact (k.bindPacked ..).bindPacked ..

theorem Referenced.makeForeign (k : s.Referenced loose) (out : String) (name : Option String)
    (f : ForeignTensor) : (s.makeForeign out name f).Referenced loose := by
  refine Referenced.bindIdle ?_ rfl out
  exact k.of_same rfl rfl

theorem Referenced.makeProducer (k : s.Referenced loose) (out : String) (mode : ProducerMode)
    (result : Option String) : (s.makeProducer out mode result).Referenced loose := by
  unfold Script.makeProducer
  dsimp only
  cases hfind : result.bind s.find? with
  | some id =>
    obtain ⟨name, _, hname⟩ := Option.bind_eq_some_iff.mp hfind
    obtain ⟨e, found⟩ := k.exists_of_find? hname
    refine Referenced.bind ?_ out
    exact (k.retain found).of_same rfl rfl
  | none =>
    refine Referenced.bindIdle ?_ rfl out
    exact k.of_same rfl rfl

theorem Referenced.adoptObject {o : Object} (k : s.Referenced loose)
    (found : s.objects.get? id = some e) (hobject : e.object = o) (out : String) :
    (s.adoptObject id o out).1.Referenced loose := by
  have kimport := k.importObject found hobject
  unfold Script.adoptObject
  split
  next s' c heq =>
    rw [heq] at kimport
    exact kimport.bindIdle rfl out
  next s' x heq => rwa [heq] at kimport

theorem Referenced.handOver {c : Capsule} {out : String} {arguments : List (String × Value)}
    {reply : Reply} (k : s.Referenced loose) (found : s.objects.get? id = some e)
    (hobject : e.object = .tensor c) (ok : s.handOver id c out arguments = .ok (s', reply)) :
    s'.Referenced loose := by
  obtain ⟨r, _, ok⟩ := bind_eq_ok.mp ok
  obtain ⟨⟨s₁, x⟩, hexport, ok⟩ := bind_eq_ok.mp ok
  obtain ⟨rfl, rfl⟩ := Prod.mk.inj (pure_eq_ok.mp ok)
  exact (k.exportTensor found hobject hexport).bindIdle rfl out

theorem Referenced.printObject {o : Object} (k : s.Referenced loose)
    (found : s.objects.get? id = some e) (hobject : e.object = o) :
    (s.printObject id o).1.Referenced loose := by
  have kimport := k.importObject found hobject
  unfold Script.printObject
  split
  next s' x heq => rwa [heq] at kimport
  next s' c heq =>
    rw [heq] at kimport
    split
    · exact kimport.of_same rfl rfl
    · exact kimport.of_same rfl rfl

theorem Referenced.withObject {name : String} {f : Nat → Object → Script × Outcome}
    (k : s.Referenced loose)
    (kf : ∀ id e, s.objects.get? id = some e → (f id e.object).1.Referenced loose) :
    (s.withObject name f).1.Referenced loose := by
  unfold Script.withObject
  split
  next id o ok =>
    obtain ⟨e, found, rfl⟩ := needObject_eq_ok ok
    exact kf id e found
  next => exact k

theorem Referenced.withTensor {name : String} {f : Nat → Capsule → Script × Outcome}
    (k : s.Referenced loose) (kf : ∀ id e c, s.objects.get? id = some e → e.object = .tensor c →
      (f id c).1.Referenced loose) :
    (s.withTensor name f).1.Referenced loose := by
  unfold Script.withTensor
  split
  next id c ok =>
    obtain ⟨e, found, hobject⟩ := needTensor_eq_ok ok
    exact kf id e c found hobject
  next => exact k

theorem Referenced.take {t : ManagedTensor} (k : s.Referenced loose)
    (ok : s.take id = some (s', t)) : s'.Referenced loose := by
  unfold Script.take at ok
  split at ok
  next x n found =>
    split at ok
    next f _ =>
      obtain ⟨rfl, rfl⟩ := Prod.mk.inj (Option.some.inj ok)
      refine k.update fun e found' => ?_
      obtain rfl := Option.some.inj (found.symm.trans found')
      rfl
    next => cases ok
  next => cases ok

/-- No step leaves a reference loose, or loses one. -/
theorem Referenced.step (k : s.Referenced loose) (c : Step) :
    (s.step c).1.Referenced loose := by
  cases c with
  | makeTensor out shape type device =>
    exact k.settle leaves_makeTensor fun _ _ => k.makeTensor
  | countUp out n => exact k.settle leaves_countUp fun _ _ => k.countUp
  | samples lead => exact k.makeSamples lead
  | foreignHandle out name f => exact k.makeForeign out name f
  | producer out mode result => exact k.makeProducer out mode result
  | plain out => exact k.bindIdle rfl out
  | adopt name out => exact k.withObject fun id e found => k.adoptObject found rfl out
  | handOver name out arguments =>
    exact k.withTensor fun id e c found hobject =>
      k.settle (leaves_handOver found hobject) fun _ _ => k.handOver found hobject
  | print name => exact k.withObject fun id e found => k.printObject found rfl
  | delete name => exact k.withObject fun _ _ _ => k.unbind name
  | describe name | byteCount name | length name => exact k.withTensor fun _ _ _ _ _ => k
  | add left right => exact k
  | version => exact k
  | requests name => exact k
  | handleName name => exact k
  | record name => exact k
  | deletions name => exact k

end Steps

/-! ## Closing -/

section Closing

variable {s : Script} {loose : Multiset Nat}

theorem Referenced.step_delete (k : s.Referenced loose) (name : String) :
    (s.step (.delete name)).1 = s.unbind name := by
  have hobject : s.object? name = none → s.find? name = none := by
    intro hnone
    by_contra hfind
    obtain ⟨id, hid⟩ := Option.ne_none_iff_exists'.mp hfind
    obtain ⟨e, found⟩ := k.exists_of_find? hid
    simp [object?, hid, found] at hnone
  simp only [Script.step, Script.withObject, needObject]
  cases h : s.object? name with
  | some found => rfl
  | none => simp only [Script.unbind, hobject h]

theorem Referenced.unbindAll (entries : List (String × Nat)) (k : s.Referenced loose) :
    (entries.foldl (fun s e => s.unbind e.1) s).Referenced loose := by
  induction entries generalizing s with
  | nil => exact k
  | cons e rest ih => exact ih (k.unbind e.1)

theorem entries_unbindAll (s : Script) (entries : List (String × Nat)) :
    (entries.foldl (fun s e => s.unbind e.1) s).names.entries =
      s.names.entries.filter fun x => x.1 ∉ entries.map Prod.fst := by
  induction entries generalizing s with
  | nil => simp
  | cons e rest ih =>
    rw [List.foldl_cons, ih, unbind_names]
    simp only [Slots.erase, withoutName, List.filter_filter]
    refine List.filter_congr fun x _ => ?_
    rw [Bool.eq_iff_iff]
    simp only [Bool.and_eq_true, decide_eq_true_eq, bne_iff_ne, List.map_cons, List.mem_cons,
      not_or, and_comm]

theorem values_close (s : Script) : s.close.names.values = [] := by
  have hentries : s.close.names.entries = [] := by
    rw [close, entries_unbindAll, List.filter_eq_nil_iff]
    intro x hx
    simpa using ⟨x.2, hx⟩
  rw [Slots.values, hentries, List.map_nil]

/-- Without a name every object is given by one that is younger. -/
theorem Referenced.exists_younger (k : s.Referenced 0) (nameless : s.names.values = []) {id : Nat}
    {e : Entry} (found : s.objects.get? id = some e) :
    ∃ id' e', id < id' ∧ s.objects.get? id' = some e' := by
  have hcount := k.count_eq found
  have hheld := k.held id e found
  rw [hcount, Multiset.count_pos, referred, nameless] at hheld
  obtain ⟨id', e', found', hgiven⟩ := Table.exists_of_mem_bag (by simpa using hheld)
  exact ⟨id', e', k.older id' e' found' id hgiven, found'⟩

theorem Referenced.get?_of_nameless (k : s.Referenced 0) (nameless : s.names.values = [])
    (id : Nat) : s.objects.get? id = none := by
  -- from an object one comes to younger ones, but none is as young as the next one will be
  obtain ⟨n, hn⟩ : ∃ n, s.objects.next ≤ id + n := ⟨s.objects.next, Nat.le_add_left ..⟩
  induction n generalizing id with
  | zero =>
    by_contra hsome
    obtain ⟨e, found⟩ := Option.ne_none_iff_exists'.mp hsome
    exact absurd (Table.lt_next_of_get? found) (Nat.not_lt_of_le hn)
  | succ n ih =>
    by_contra hsome
    obtain ⟨e, found⟩ := Option.ne_none_iff_exists'.mp hsome
    obtain ⟨id', e', hlt, found'⟩ := k.exists_younger nameless found
    rw [ih id' (by omega)] at found'
    cases found'

/-- When a script ends, all its objects go. -/
theorem Referenced.get?_close (k : s.Referenced 0) (id : Nat) : s.close.objects.get? id = none :=
  (k.unbindAll _).get?_of_nameless s.values_close id

end Closing

end Script

namespace Scene

/-! ## Scenes -/

theorem referenced_start (m : Machine) (env : Config.Environment) :
    (start m env).script.Referenced 0 where
  counted := fun _ => rfl
  held := by
    intro id e found
    simp [start, Script.start, Table.empty, Table.get?] at found
  older := by
    intro id e found
    simp [start, Script.start, Table.empty, Table.get?] at found

theorem referenced_step {s : Scene} {loose : Multiset Nat} (k : s.script.Referenced loose)
    (a : Act) : (s.step a).script.Referenced loose := by
  cases a with
  | script c => exact k.step c
  | produce out f =>
    have kheap : ({ s.script with
        heap := (s.heap.addForeign f (s.script.numbered + 1)).1
        numbered := s.script.numbered + 1
        foreigners := s.script.foreigners.put out (s.script.numbered + 1) } :
        Script).Referenced loose := k.of_same rfl rfl
    exact kheap.bindIdle rfl out
  | take id =>
    simp only [step]
    split
    next script t ok => exact k.take ok
    next => exact k
  | discard id =>
    simp only [step]
    split
    · exact k.of_same rfl rfl
    · exact k

/-- Whatever is done, no reference is loose afterwards, and none is lost. -/
theorem referenced_run {s : Scene} {loose : Multiset Nat} (k : s.script.Referenced loose)
    (acts : List Act) : (s.run acts).script.Referenced loose := by
  induction acts generalizing s with
  | nil => exact k
  | cons a rest ih => exact ih (referenced_step k a)

/-- The scene when the script has ended. -/
def close (s : Scene) : Scene := { s with script := s.script.close }

/-- A script ends by deleting its names. -/
theorem exists_close_eq_run {s : Scene} {loose : Multiset Nat} (k : s.script.Referenced loose) :
    ∃ acts, s.close = s.run acts := by
  have hdeletes : ∀ (entries : List (String × Nat)) (s : Scene), s.script.Referenced loose →
      s.run (entries.map fun e => .script (.delete e.1)) =
        { s with script := entries.foldl (fun s e => s.unbind e.1) s.script } := by
    intro entries
    induction entries with
    | nil => exact fun _ _ => rfl
    | cons e rest ih =>
      intro s k
      have hstep : s.step (.script (.delete e.1)) =
          { s with script := s.script.unbind e.1 } := by
        rw [step, k.step_delete]
      rw [List.map_cons, run, List.foldl_cons, hstep]
      exact ih { s with script := s.script.unbind e.1 } (k.unbind e.1)
  exact ⟨_, (hdeletes s.script.names.entries s k).symm⟩

end Scene

end TensorExchange.Interop
