import TensorExchange.Proofs.Exchange.Describe
import TensorExchange.Proofs.Ownership.Session
import TensorExchange.Proofs.RoundTrip

/-!
Read-only things: what is refused to writing stays refused.

That a buffer is read-only is written down in three places: in the buffer, in the capsule
that says so, and in the flags of the managed tensor that leaves the library.  What is made
of a buffer copies the first of them, and an import reads the last.

Main statement (`Thing.refuses_of_leads`): whatever is made of something read-only, operation
by operation, can not be written through, as long as every managed tensor that leaves the
library on the way carries the flag.  What that means is said for each kind of thing
(`Thing.Refuses`): a buffer with packed rows in host memory refuses the window for this reason
and no other, and gives none in any case; a capsule around an import and a tensor tell it to
whoever asks.

The condition is there because a capsule sets the flag by its own options alone.  One that was
wrapped without the option, around a buffer that is read-only, lets go of a tensor that can be
written; `Session.laundered` is a session in which that is done, and something is written.
Views and reshapes need no condition, and neither does a capsule that is consumed again.

`Thing.Yields` is one operation and `Thing.Leads` any number of them, with the condition at
each step where a tensor leaves.  One step keeps `Thing.ReadOnly`, by cases on the operation,
and the rest is an induction.  The format that other libraries do not know flags in cannot
carry it, so `Capsule.Flags` asks for the versioned one.
-/

namespace TensorExchange

/-! ## Making things of things -/

/-- What a client makes of a thing with one operation. -/
inductive Thing.Yields : Thing → Thing → Prop
  | view {b shape strides byteOffset layout}
      (ok : Buffer.viewLayout b shape strides byteOffset = .ok layout) :
    Yields (.buffer b) (.buffer (b.withLayout layout))
  | reshape {b shape layout} (ok : Buffer.reshapeLayout b shape = .ok layout) :
    Yields (.buffer b) (.buffer (b.withLayout layout))
  | wrap (b o) : Yields (.buffer b) (.capsule (.wrapWith b o))
  | consume {h c a h' c' b} (ok : Capsule.consumeAs h c a = .ok (h', c', b)) :
    Yields (.capsule c) (.buffer b)
  | takeTensor {c c' t} (ok : Capsule.takeTensor c = .ok (c', t)) : Yields (.capsule c) (.tensor t)
  | importTensor {t c} (ok : Capsule.ofTensor t = .ok c) : Yields (.tensor t) (.capsule c)

/-- Whether a capsule of this library hands out its tensor with the flag that forbids writing. -/
def Capsule.Flags (c : Capsule) : Prop :=
  c.isNative = true → c.info.readOnly = true ∧ c.info.format = .versioned

/-- Whatever is made of a thing, one operation after the other.  Managed tensors leave only capsules
that flag them. -/
inductive Thing.Leads (x : Thing) : Thing → Prop
  | refl : Leads x x
  | step {y z} (before : Leads x y) (last : Thing.Yields y z)
      (flags : ∀ c t, y = .capsule c → z = .tensor t → c.Flags) : Leads x z

/-! ## Read-only things -/

/-- What is left in a capsule can not be written through, whoever takes it. -/
def Capsule.ReadOnly (c : Capsule) : Prop :=
  match c.contents with
  | .native b => ∀ inner, b = some inner → c.info.readOnly = true ∨ inner.readOnly = true
  | .foreign _ t => c.info.readOnly = true ∧
      ∀ inner, t = some inner → inner.envelope.isReadOnly = true

/-- Things that can not be written through. -/
def Thing.ReadOnly : Thing → Prop
  | buffer b => b.readOnly = true
  | capsule c => c.ReadOnly
  | tensor t => t.envelope.isReadOnly = true
  | allocation _ => False

theorem Capsule.readOnly_deliver {c : Capsule} {b : Buffer}
    (k : c.info.readOnly = true ∨ b.readOnly = true) : (c.deliver b).readOnly = true := by
  unfold deliver
  split
  case isTrue => rfl
  case isFalse h => exact k.resolve_left h

theorem Capsule.ReadOnly.consumeAs {c c' : Capsule} {h h' : Heap} {a : Accept} {b : Buffer}
    (k : c.ReadOnly) (ok : c.consumeAs h a = .ok (h', c', b)) : b.readOnly = true := by
  obtain ⟨_, _, ⟨inner, hcontents, _, rfl⟩ | ⟨d, t, hcontents, _, rfl⟩⟩ := consumeAs_eq_ok ok
  · simp only [ReadOnly, hcontents] at k
    exact readOnly_deliver (k inner rfl)
  · simp only [ReadOnly, hcontents] at k
    exact readOnly_deliver (.inl k.1)

theorem Capsule.ReadOnly.takeTensor {c c' : Capsule} {t : ManagedTensor} (k : c.ReadOnly)
    (flags : c.Flags) (ok : c.takeTensor = .ok (c', t)) : t.envelope.isReadOnly = true := by
  obtain ⟨_, htensor⟩ := takeTensor_eq_ok ok
  rcases tensor?_eq_some htensor with ⟨inner, hcontents, rfl⟩ | ⟨d, t', hcontents, rfl⟩
  · obtain ⟨hreadOnly, hformat⟩ := flags (by simp [isNative, hcontents])
    simp only [ManagedTensor.ofBuffer, hreadOnly, hformat]
    rfl
  · simp only [ReadOnly, hcontents] at k
    exact k.2 t' rfl

theorem Capsule.readOnly_ofTensor {t : ManagedTensor} {c : Capsule}
    (k : t.envelope.isReadOnly = true) (ok : Capsule.ofTensor t = .ok c) : c.ReadOnly := by
  obtain ⟨d, hd, rfl⟩ := ofTensor_eq_ok ok
  have hreadOnly := (Described.Describes.of_ofTensor hd).readOnly
  refine ⟨hreadOnly.trans k, fun inner hinner => ?_⟩
  rwa [← Option.some.inj hinner]

/-- One operation on something read-only makes something read-only. -/
theorem Thing.Yields.readOnly {x y : Thing} (yields : x.Yields y) (k : x.ReadOnly)
    (flags : ∀ c t, x = .capsule c → y = .tensor t → c.Flags) : y.ReadOnly := by
  cases yields with
  | view ok => exact k
  | reshape ok => exact k
  | wrap b o =>
    intro inner hinner
    obtain rfl := Option.some.inj hinner
    exact .inr k
  | consume ok => exact Capsule.ReadOnly.consumeAs k ok
  | takeTensor ok => exact Capsule.ReadOnly.takeTensor k (flags _ _ rfl rfl) ok
  | importTensor ok => exact Capsule.readOnly_ofTensor k ok

theorem Thing.Leads.readOnly {x y : Thing} (leads : x.Leads y) (k : x.ReadOnly) : y.ReadOnly := by
  induction leads with
  | refl => exact k
  | step _ last flags ih => exact last.readOnly ih flags

/-! ## Refusing to write -/

namespace Buffer

variable {h : Heap} {b : Buffer}

/-- A read-only buffer gives out no bytes for writing: the memory of the host and packed rows are
asked for first. -/
theorem window_of_readOnly (k : b.readOnly = true) (h : Heap) :
    b.window h = b.checkHost >>= fun _ => b.checkContiguous >>= fun _ =>
      .error (.invalidTensor .readOnly) := by
  simp only [window, k, if_true]
  rfl

theorem window_ne_ok (k : b.readOnly = true) (h : Heap) (w : Window) : b.window h ≠ .ok w := by
  rw [window_of_readOnly k]
  intro ok
  obtain ⟨_, _, ok⟩ := bind_eq_ok.mp ok
  obtain ⟨_, _, ok⟩ := bind_eq_ok.mp ok
  cases ok

end Buffer

/-- What a read-only buffer, a capsule and a tensor tell whoever wants to write. -/
structure Thing.Refuses (x : Thing) : Prop where
  /-- Packed rows in the memory of the host are refused for this reason and no other. -/
  window : ∀ b h, x = .buffer b → b.device.isHostAccessible = true →
    b.layout.isContiguous = true → b.window h = .error (.invalidTensor .readOnly)
  bytes : ∀ b h position data r, x = .buffer b → b.writeBytes h position data ≠ .ok r
  elements : ∀ b h type position data r, x = .buffer b →
    b.writeElements h type position data ≠ .ok r
  fill : ∀ b h data h', x = .buffer b → b.fill h data ≠ .ok h'
  /-- A capsule that was imported says that it is read-only. -/
  imported : ∀ c, x = .capsule c → c.isNative = false → c.info.readOnly = true
  /-- A tensor carries the flag. -/
  flagged : ∀ t, x = .tensor t →
    ∃ version flags, t.envelope = .versioned version flags ∧ flags &&& Envelope.readOnlyFlag ≠ 0

theorem Envelope.flagged_of_isReadOnly {e : Envelope} (k : e.isReadOnly = true) :
    ∃ version flags, e = .versioned version flags ∧ flags &&& readOnlyFlag ≠ 0 := by
  cases e with
  | legacy => cases k
  | versioned version flags => exact ⟨version, flags, rfl, by simpa [isReadOnly] using k⟩

theorem Thing.ReadOnly.refuses {x : Thing} (k : x.ReadOnly) : x.Refuses := by
  constructor
  case window =>
    rintro b h rfl host packed
    have hhost : b.checkHost = .ok () := Accept.check_eq_ok_iff.mpr host
    have hpacked : b.checkContiguous = .ok () := if_pos packed
    rw [Buffer.window_of_readOnly k, hhost, hpacked]
    rfl
  case bytes =>
    rintro b h position data r rfl ok
    obtain ⟨w, hw, _⟩ := bind_eq_ok.mp ok
    exact Buffer.window_ne_ok k h w (leaving_eq_ok.mp hw)
  case elements =>
    rintro b h type position data r rfl ok
    obtain ⟨w, hw, _⟩ := bind_eq_ok.mp ok
    obtain ⟨_, _, hw⟩ := bind_eq_ok.mp (leaving_eq_ok.mp hw)
    obtain ⟨w, hw, _⟩ := bind_eq_ok.mp hw
    exact Buffer.window_ne_ok k h w hw
  case fill =>
    rintro b h data h' rfl ok
    obtain ⟨w, hw, _⟩ := bind_eq_ok.mp ok
    exact Buffer.window_ne_ok k h w (leaving_eq_ok.mp hw)
  case imported =>
    rintro c rfl foreign
    cases hcontents : c.contents with
    | native b => simp [Capsule.isNative, hcontents] at foreign
    | foreign d t =>
      have k : c.ReadOnly := k
      simp only [Capsule.ReadOnly, hcontents] at k
      exact k.1
  case flagged =>
    rintro t rfl
    exact Envelope.flagged_of_isReadOnly k

/-- Whatever a client makes of something read-only refuses to be written. -/
theorem Thing.refuses_of_leads {x y : Thing} (k : x.ReadOnly) (leads : x.Leads y) : y.Refuses :=
  (leads.readOnly k).refuses

/-! ### Out of the library and back -/

/-- Four bytes that may not be written. -/
def guardedBytes : Buffer :=
  ⟨⟨0, .within 0 0, 4, some 1, .host, false, "adopted"⟩, ⟨[⟨4, 1⟩], 0⟩, .uint8, true⟩

/-- The last two of them. -/
def guardedTail : Buffer := guardedBytes.withLayout ⟨[⟨2, 1⟩], 2⟩

def guardedTailFound : Described :=
  ⟨⟨[⟨2, 1⟩], 0⟩, .uint8, .host, .within 0 2, 2, none, true⟩

/-- They are wrapped with the option, and taken and imported as a managed tensor. -/
theorem Thing.refuses_guardedTail :
    (Thing.buffer guardedBytes).ReadOnly ∧ ∃ t c h spent b,
      (Thing.buffer guardedBytes).Leads (.tensor t) ∧ (Thing.tensor t).Refuses ∧
        Capsule.ofTensor t = .ok c ∧ c.consume default = .ok (h, spent, b) ∧
          (Thing.buffer guardedBytes).Leads (.buffer b) ∧ (Thing.buffer b).Refuses := by
  have readOnly : (Thing.buffer guardedBytes).ReadOnly := rfl
  have viewed : guardedBytes.viewLayout [2] [1] 2 = .ok ⟨[⟨2, 1⟩], 2⟩ := by decide +kernel
  have taken : (Capsule.wrapWith guardedTail ⟨.versioned, true⟩).takeTensor =
      .ok ((Capsule.wrapWith guardedTail ⟨.versioned, true⟩).spent,
        .ofBuffer guardedTail .versioned true) := by
    decide +kernel
  have imported : Capsule.ofTensor (.ofBuffer guardedTail .versioned true) =
      .ok ⟨⟨guardedTailFound.layout, .uint8, .host, .versioned, true⟩, .within 0 2, .unconsumed,
        .foreign guardedTailFound (some (.ofBuffer guardedTail .versioned true))⟩ := by
    decide +kernel
  have leads : (Thing.buffer guardedBytes).Leads
      (.tensor (.ofBuffer guardedTail .versioned true)) := by
    have view := Thing.Leads.refl.step (.view viewed) fun _ _ h => by cases h
    have wrap := view.step (.wrap guardedTail ⟨.versioned, true⟩) fun _ _ h => by cases h
    refine wrap.step (.takeTensor taken) fun c t h _ => ?_
    obtain rfl := Thing.capsule.inj h
    exact fun _ => ⟨rfl, rfl⟩
  obtain ⟨d, hd, _, consumed⟩ := Buffer.consume_of_ofTensor imported default
  have leads' : (Thing.buffer guardedBytes).Leads (.buffer (d.buffer 0)) := by
    have adopt := leads.step (.importTensor imported) fun _ _ h => by cases h
    exact adopt.step (.consume consumed) fun _ _ _ h => by cases h
  exact ⟨readOnly, _, _, _, _, _, leads, refuses_of_leads readOnly leads, imported, consumed,
    leads',
    refuses_of_leads readOnly leads'⟩

/-! ### Without the option -/

/-- Bytes are reclaimed from a read-only export, exported without the option, and imported. -/
def laundering : List Command :=
  [.buffers (.adopt "bytes" .uint8 #[1, 2, 3, 4]),
    .capsules (.wrap "bytes" "guarded" ⟨.versioned, true⟩),
    .capsules (.consume "guarded" "reclaimed" .any),
    .capsules (.wrap "reclaimed" "unmarked" ⟨.versioned, false⟩),
    .capsules (.takeTensor "unmarked" "tensor"),
    .tensors (.adopt "tensor" "imported"),
    .capsules (.consume "imported" "written" .any)]

/-- The buffer that could not be written comes back as one that can, over the same memory: neither
the capsule nor the tensor says that it was read-only. -/
theorem Session.laundered :
    (after (laundering.take 3)).buffers.get? "reclaimed" =
        some guardedBytes ∧
      guardedBytes.window (after (laundering.take 3)).heap =
        .error (.invalidTensor .readOnly) ∧
      ((after (laundering.take 4)).capsules.get? "unmarked").map
        (fun c => c.info.readOnly) = some false ∧
      ((after (laundering.take 5)).tensors.get? "tensor").map
        (fun t => t.envelope) = some (.versioned .current 0) ∧
      ∃ b, (after laundering).buffers.get? "written" = some b ∧
        b.window (after laundering).heap = .ok ⟨.within 0 0, 4⟩ := by
  refine ⟨?_, ?_, ?_, ?_,
    ⟨⟨1, .within 0 0, 4, none, .host, false, "foreign"⟩, ⟨[⟨4, 1⟩], 0⟩, .uint8,
    false⟩, ?_, ?_⟩
  all_goals decide +kernel

end TensorExchange
