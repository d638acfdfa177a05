import TensorExchange.Proofs.Exchange.Stated
import TensorExchange.Proofs.Interop.Scene
import TensorExchange.Proofs.Portable

/-!
Negotiated exports: handles for what a consumer asks.

A tensor object is asked for a handle with a version, a device and whether to copy.  What
cannot be had is refused before anything is taken: another device than the tensor is on, or
a copy.  Otherwise the consumer gets the managed tensor that the capsule carries or, if that
has another form than was negotiated, its buffer exported anew.

Main statement (`negotiates_run`), for any tensor object that a script can have and any
request.  If it excludes the object it is refused, as an error about buffers, and the
script stays as it was.  If not, a handle is given and the object is consumed, whatever
else is in the script, and:

* the form is the versioned one exactly if the consumer knows a version from 1 on and the
  configuration says so, and the name of the handle says which form it is;
* the tensor begins where the one of the object began, and forbids writing if the object
  said so and the form can say it;
* its record states what the object told, exactly if the numbers of the object fit in the
  signed words of the exchange format.

The last point is an equivalence, since an export casts and refuses nothing: of an empty
tensor with an extent of 2⁶³ a consumer is told a negative extent
(`misstates_next_extent`), and with one less the truth (`negotiates_longest_extent`).
Tensors with elements and tensors of other runtimes have no such extents.

Both ways to a tensor meet in `Capsule.Gives`, so the negotiation does not have to know
which was taken (`exportAs_of_fresh`).
-/

namespace TensorExchange

/-- The versioned form is for consumers that know it, and only if the configuration is for it. -/
theorem negotiate_eq_versioned_iff {latest : Option Version} {config : Config} :
    negotiate latest config = .versioned ↔
      (∃ v, latest = some v ∧ 1 ≤ v.major) ∧ config.format = .versioned := by
  cases latest with
  | none => simp [negotiate]
  | some v => by_cases hmajor : 1 ≤ v.major <;> simp [negotiate, hmajor]

/-! ## Both ways to a managed tensor -/

/-- A managed tensor is what a capsule told of, in a form. -/
structure Capsule.Gives (c : Capsule) (wanted : CapsuleFormat) (t : ManagedTensor) : Prop where
  format : t.format = wanted
  stated : t.record.States c.info ↔ c.info.Representable
  /-- The first element lies where it lay. -/
  first : c.info.layout.count ≠ 0 →
    t.record.data.shift t.record.byteOffset.toNat = c.base.shift c.info.layout.byteOffset.toNat
  readOnly : wanted = .versioned → t.envelope.isReadOnly = c.info.readOnly

/-- A buffer that has all of what the capsule told is exported as what the capsule told of. -/
theorem Capsule.gives_ofBuffer {c : Capsule} {b : Buffer}
    (info : c.info = ⟨b.layout, b.type, b.device, c.info.format, c.info.readOnly⟩)
    (base : c.base = b.storage.base) (wanted : CapsuleFormat) :
    c.Gives wanted (.ofBuffer b wanted c.info.readOnly) where
  format := Buffer.format_ofFormat wanted c.info.readOnly
  stated := by
    rw [info]
    exact b.states_toRecord_iff _ _
  first := by
    intro _
    rw [info, base]
    rfl
  readOnly := by
    rintro rfl
    exact (Buffer.isReadOnly_ofFormat .versioned c.info.readOnly).trans (Bool.and_true _)

namespace Interop.Script

theorem exportAs_of_take {c : Capsule} {t : ManagedTensor} (h : Heap)
    (htake : c.takeTensor = .ok (c.spent, t)) :
    exportAs h c c.info.format = .ok (h, c.spent, t) := by
  rw [exportAs, if_pos rfl, htake]
  rfl

theorem exportAs_of_consume {c : Capsule} {h h' : Heap} {b : Buffer} {wanted : CapsuleFormat}
    (hconsume : c.consume h = .ok (h', c.spent, b)) (hformat : c.info.format ≠ wanted) :
    exportAs h c wanted = .ok (h', c.spent, .ofBuffer b wanted c.info.readOnly) := by
  rw [exportAs, if_neg hformat, hconsume, ← c.info_spent]
  rfl

theorem exportAs_wrapWith (h : Heap) (b : Buffer) (o : ExportOptions) (wanted : CapsuleFormat) :
    ∃ h' t, exportAs h (.wrapWith b o) wanted = .ok (h', (Capsule.wrapWith b o).spent, t) ∧
      (Capsule.wrapWith b o).Gives wanted t := by
  by_cases hformat : o.format = wanted
  · subst hformat
    exact ⟨h, .ofBuffer b o.format o.readOnly, exportAs_of_take h rfl,
      Capsule.gives_ofBuffer (c := .wrapWith b o) rfl rfl o.format⟩
  · obtain ⟨b', hconsume, hstorage, hlayout, htype⟩ :=
      Capsule.consumeAs_wrapWith b o h (a := .any) rfl
    refine ⟨h, _, exportAs_of_consume hconsume hformat, Capsule.gives_ofBuffer ?_ ?_ wanted⟩
    · rw [Buffer.device, hstorage, hlayout, htype]
      rfl
    · rw [hstorage]
      rfl

theorem exportAs_ofTensor {t : ManagedTensor} {c : Capsule} (ok : Capsule.ofTensor t = .ok c)
    (h : Heap) (wanted : CapsuleFormat) :
    ∃ h' t', exportAs h c wanted = .ok (h', c.spent, t') ∧ c.Gives wanted t' := by
  obtain ⟨d, hd, hinfo, hconsume⟩ := Buffer.consume_of_ofTensor ok h
  have hbase : c.base = d.base := by
    obtain ⟨_, hd', rfl⟩ := Capsule.ofTensor_eq_ok ok
    exact congrArg Described.base (Except.ok.inj (hd'.symm.trans hd))
  have hdescribes : d.Describes t := .of_ofTensor hd
  by_cases hformat : c.info.format = wanted
  · subst hformat
    have hopen : c.Open := Capsule.Fresh.isOpen (.inr ⟨t, ok⟩)
    obtain ⟨t', htensor, htake⟩ := hopen.takes
    obtain rfl : { t with handedOut := true } = t' := by
      obtain ⟨_, _, rfl⟩ := Capsule.ofTensor_eq_ok ok
      exact Option.some.inj htensor
    refine ⟨h, _, exportAs_of_take h htake, ?_, ?_, ?_, ?_⟩
    · rw [hinfo]
      rfl
    · rw [hinfo]
      exact ⟨fun k => k.representable, fun _ => hdescribes.states t.format d.readOnly⟩
    · rw [hinfo, hbase]
      intro hcount
      have covers := hdescribes.covers hcount
      show t.record.data.shift t.record.byteOffset.toNat = d.base.shift d.layout.byteOffset.toNat
      rw [covers.base, Pointer.shift_shift, covers.first, add_neg_cancel, Pointer.shift_zero]
    · rw [hinfo]
      exact fun _ => hdescribes.readOnly.symm
  · refine ⟨_, _, exportAs_of_consume hconsume hformat, Capsule.gives_ofBuffer ?_ hbase wanted⟩
    rw [hinfo]
    rfl

/-- Any capsule as it is made gives a managed tensor in whatever form is wanted. -/
theorem exportAs_of_fresh {c : Capsule} (fresh : c.Fresh) (h : Heap) (wanted : CapsuleFormat) :
    ∃ h' t, exportAs h c wanted = .ok (h', c.spent, t) ∧ c.Gives wanted t := by
  rcases fresh with ⟨b, o, rfl⟩ | ⟨t, ok⟩
  · exact exportAs_wrapWith h b o wanted
  · exact exportAs_ofTensor ok h wanted

/-! ## What is asked -/

/-- What is asked for cannot be had: the tensor on another device, or a copy. -/
def ExportRequest.Excludes (r : ExportRequest) (c : Capsule) : Prop :=
  (∃ pair, r.device = some pair ∧ pair ≠ c.info.device.pair) ∨ r.copy = some true

theorem checkExport_of_excluded {c : Capsule} {r : ExportRequest} (excluded : r.Excludes c) :
    ∃ e : Exception, e.kind = .buffer ∧ checkExport c r = .error e := by
  obtain ⟨latest, device, copy⟩ := r
  have hcopy : (∀ pair, device = some pair → pair = c.info.device.pair) → copy = some true :=
    fun same => excluded.resolve_left fun ⟨pair, hdevice, hne⟩ => hne (same pair hdevice)
  cases device with
  | none =>
    obtain rfl := hcopy nofun
    exact ⟨_, rfl, rfl⟩
  | some pair =>
    by_cases hpair : pair = c.info.device.pair
    · obtain rfl := hcopy fun other hother => Option.some.inj hother ▸ hpair
      refine ⟨_, ?_, by simp only [checkExport, hpair, ne_eq, not_true_eq_false, if_false]; rfl⟩
      rfl
    · refine ⟨_, ?_, by simp only [checkExport, hpair, ne_eq, not_false_eq_true, if_true]; rfl⟩
      rfl

theorem checkExport_of_not_excluded {c : Capsule} {r : ExportRequest} (h : ¬ r.Excludes c) :
    checkExport c r = .ok () := by
  obtain ⟨latest, device, copy⟩ := r
  obtain ⟨hdevice, hcopy⟩ := not_or.mp h
  have hcopy : copy ≠ some true := hcopy
  cases device with
  | none =>
    simp only [checkExport, hcopy, if_false]
    rfl
  | some pair =>
    have hpair : pair = c.info.device.pair :=
      Decidable.not_not.mp fun hne => hdevice ⟨pair, rfl, hne⟩
    simp only [checkExport, hpair, hcopy, ne_eq, not_true_eq_false, if_false]
    rfl

/-! ## Handing over -/

theorem get?_update {s : Script} {id : Nat} {e : Entry} (found : s.objects.get? id = some e)
    (o : Object) (other : Nat) :
    (s.update id o).objects.get? other =
      if other = id then some { e with object := o } else s.objects.get? other := by
  simp only [update, found]
  by_cases hother : other = id
  · rw [if_pos hother, hother]
    exact Table.get?_set_self (Table.lt_next_of_get? found) _
  · rw [if_neg hother]
    exact Table.get?_set_of_ne _ _ (Ne.symm hother)

/-- A step that hands a tensor object over asks it for a handle and puts that under a name; if it is
refused the script stays as it was. -/
theorem step_handOver {s : Script} {name out : String} {id : Nat} {c : Capsule}
    {arguments : List (String × Value)} {r : ExportRequest}
    (hobject : s.object? name = some (id, .tensor c)) (hread : readRequest arguments = .ok r) :
    s.step (.handOver name out arguments) =
      match s.exportTensor id c r with
      | .ok (s', x) => (s'.bind out (.handle x), .ok .done)
      | .error f => (s, .error (.raised f.cause)) := by
  have hneed : s.needTensor name = .ok (id, c) := by
    simp only [needTensor, needObject, hobject]
    rfl
  have hhand : s.handOver id c out arguments =
      s.exportTensor id c r >>= fun given => .ok (given.1.bind out (.handle given.2), .done) := by
    rw [handOver, hread]
    rfl
  obtain ⟨e, found, heq⟩ := get?_of_object? hobject
  have leaves : Leaves s (s.exportTensor id c r) := leaves_exportTensor found heq
  simp only [step, withTensor, hneed, hhand]
  cases hexport : s.exportTensor id c r with
  | ok given => rfl
  | error f =>
    have same : f.state = s := leaves f hexport
    exact congrArg (·, _) same

/-- What asking the tensor object with a number for a handle comes to. -/
structure Negotiates (s : Script) (id n : Nat) (c : Capsule) (r : ExportRequest) : Prop where
  /-- What cannot be had is refused. -/
  refused : r.Excludes c →
    ∃ e : Exception, e.kind = .buffer ∧ s.exportTensor id c r = .error ⟨e, s⟩
  /-- All else is given: the object is consumed, and no other object changes. -/
  given : ¬ r.Excludes c → ∃ s' x, s.exportTensor id c r = .ok (s', x) ∧
    c.Gives (negotiate r.latest s.config) x.tensor ∧
    x.name = some x.tensor.format.handleName ∧
    ∀ other, s'.objects.get? other =
      if other = id then some ⟨.tensor c.spent, n⟩ else s.objects.get? other
  consumed : c.spent.isConsumed = true ∧ c.spent.info = c.info
  versioned : negotiate r.latest s.config = .versioned ↔
    (∃ v, r.latest = some v ∧ 1 ≤ v.major) ∧ s.config.format = .versioned
  /-- Tensors of other runtimes have only numbers that fit. -/
  foreign : c.isNative = false → c.info.Representable
  /-- Those with elements have only extents that fit. -/
  elements : c.info.layout.count ≠ 0 → ∀ d ∈ c.info.layout.shape, d.toNat < 2 ^ 63
  /-- A step of the script does just this. -/
  asked : ∀ name out arguments, s.object? name = some (id, .tensor c) →
    readRequest arguments = .ok r →
      s.step (.handOver name out arguments) =
        match s.exportTensor id c r with
        | .ok (s', x) => (s'.bind out (.handle x), .ok .done)
        | .error f => (s, .error (.raised f.cause))

theorem representable_of_foreign {c : Capsule} (fresh : c.Fresh) (h : c.isNative = false) :
    c.info.Representable := by
  rcases fresh with ⟨b, o, rfl⟩ | ⟨t, ok⟩
  · cases h
  · obtain ⟨d, hd, rfl⟩ := Capsule.ofTensor_eq_ok ok
    exact ((Described.Describes.of_ofTensor hd).states t.format d.readOnly).representable

theorem negotiates_of_made {s : Script} {id n : Nat} {c : Capsule}
    (found : s.objects.get? id = some ⟨.tensor c, n⟩) (made : c.Made) (r : ExportRequest) :
    s.Negotiates id n c r where
  refused := by
    intro excluded
    obtain ⟨e, hkind, hcheck⟩ := checkExport_of_excluded excluded
    refine ⟨e, hkind, ?_⟩
    rw [exportTensor, hcheck]
    rfl
  given := by
    intro hnot
    obtain ⟨h', t, hexport, gives⟩ :=
      exportAs_of_fresh made.fresh s.heap (negotiate r.latest s.config)
    refine ⟨{ s with heap := h' }.update id (.tensor c.spent), handleOf t, ?_, gives, rfl,
      get?_update (s := { s with heap := h' }) found _⟩
    rw [exportTensor, checkExport_of_not_excluded hnot, hexport]
    rfl
  consumed := ⟨c.isConsumed_spent, c.info_spent⟩
  versioned := negotiate_eq_versioned_iff
  foreign := representable_of_foreign made.fresh
  elements := Layout.extents_lt_of_counted made.counted
  asked := fun _ _ _ => step_handOver

end Interop.Script

namespace Interop.Scene

/-- Whatever a script and other runtimes did: every tensor object whose tensor is still there
negotiates with every consumer. -/
theorem negotiates_run (m : Machine) (env : Config.Environment) (acts : List Act) {id n : Nat}
    {c : Capsule}
    (found : ((start m env).run acts).script.objects.get? id = some ⟨.tensor c, n⟩)
    (unconsumed : c.isConsumed = false) (r : Script.ExportRequest) :
    ((start m env).run acts).script.Negotiates id n c r := by
  obtain ⟨strays, k, _⟩ := (kept_start m env).run acts
  have made : Object.Made strays (.tensor c) := k.made id _ found
  rcases made with made | ⟨c', rfl⟩
  · exact Script.negotiates_of_made found made r
  · rw [c'.isConsumed_spent] at unconsumed
    cases unconsumed

/-! ### The longest extent that is stated, and the next one -/

/-- A tensor without elements whose second axis has this extent. -/
def emptyTensor (extent : Nat) : List Act :=
  [.script (.makeTensor "empty" (.sequence [.whole 0, .whole extent]) (.text "uint8") .nothing)]

def emptyCapsule (extent : UInt64) : Capsule :=
  .wrapWith ⟨⟨0, .dangling, 0, some 64, .host, false, "empty"⟩,
    ⟨[⟨0, extent.toInt64⟩, ⟨extent, 1⟩], 0⟩, .uint8, false⟩ .default

theorem negotiates_longest_extent :
    (after (emptyTensor 0x7fffffffffffffff)).objects.get? 0 =
        some ⟨.tensor (emptyCapsule 0x7fffffffffffffff), 1⟩ ∧
      (emptyCapsule 0x7fffffffffffffff).isConsumed = false ∧
        (after (emptyTensor 0x7fffffffffffffff)).Negotiates 0 1
          (emptyCapsule 0x7fffffffffffffff) .versioned ∧
            (emptyCapsule 0x7fffffffffffffff).info.Representable := by
  have found : (after (emptyTensor 0x7fffffffffffffff)).objects.get? 0 =
      some ⟨.tensor (emptyCapsule 0x7fffffffffffffff), 1⟩ := by
    decide +kernel
  have extents : ∀ d ∈ (emptyCapsule 0x7fffffffffffffff).info.layout.shape, d.toNat < 2 ^ 63 :=
    List.forall_mem_cons.mpr ⟨by decide, List.forall_mem_cons.mpr ⟨by decide, nofun⟩⟩
  exact ⟨found, rfl, negotiates_run _ _ _ found rfl .versioned, by decide, by decide, extents⟩

/-- The next extent is handed over as a negative one. -/
theorem misstates_next_extent :
    (after (emptyTensor 0x8000000000000000)).objects.get? 0 =
        some ⟨.tensor (emptyCapsule 0x8000000000000000), 1⟩ ∧
      (emptyCapsule 0x8000000000000000).info.layout.shape = [0, 0x8000000000000000] ∧
        ∃ s x,
          (after (emptyTensor 0x8000000000000000)).exportTensor 0
              (emptyCapsule 0x8000000000000000) .versioned = .ok (s, x) ∧
            x.tensor.record.shape = some [0, -0x8000000000000000] ∧
              ¬ x.tensor.record.States (emptyCapsule 0x8000000000000000).info := by
  have found : (after (emptyTensor 0x8000000000000000)).objects.get? 0 =
      some ⟨.tensor (emptyCapsule 0x8000000000000000), 1⟩ := by
    decide +kernel
  have hshape : ((after (emptyTensor 0x8000000000000000)).exportTensor 0
      (emptyCapsule 0x8000000000000000) .versioned).toOption.map (fun given =>
        given.2.tensor.record.shape) = some (some [0, -0x8000000000000000]) := by
    decide +kernel
  have made : (emptyCapsule 0x8000000000000000).Made := ⟨.inl ⟨_, _, rfl⟩, by decide⟩
  have negotiates := Script.negotiates_of_made found made .versioned
  have hnot : ¬ Script.ExportRequest.versioned.Excludes (emptyCapsule 0x8000000000000000) := by
    rintro (⟨_, ⟨⟩, _⟩ | ⟨⟨⟩⟩)
  obtain ⟨s, x, hexport, gives, _⟩ := negotiates.given hnot
  rw [hexport] at hshape
  refine ⟨found, rfl, s, x, hexport, Option.some.inj hshape, fun states => ?_⟩
  exact absurd ((gives.stated.mp states).extents _ (.tail _ (.head _))) (by decide)

end Interop.Scene

end TensorExchange
