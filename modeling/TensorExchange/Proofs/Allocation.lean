import TensorExchange.Proofs.Soundness.Moves

/-!
Allocation: how much memory is asked for, of whom, and why it may be refused.

A client may bring a backend of any kind, so what an allocator does is stated for every
backend.  A `Source` serves whatever devices it likes, keeps a state of its own, hands
memory out anywhere and refuses for reasons of its own; all that is asked of it is that it
hands out zeros (`Source.Zeroes`).  That this is the allocator of the model, with the
backends of this library for a source, is `Allocator.allocate_ofConfig`.

Main statement (`allocate_exact`), for every source, configuration, type, shape and device:

* a buffer that is allocated has a packed layout of that shape and a storage of exactly
  the bytes of its elements, zeroed, within memory and within the limit;
* the source was asked exactly once, for that size, for the larger of the configured
  alignment and that of the type, and for the device; and not at all for a buffer without
  bytes, or where the request is refused before;
* where the device is served and the extents can be counted, an allocation fails exactly
  for the size, for the limit, or because the source refuses it.

Whether the source was asked shows only if it takes notes: `Source.noting` is the same
source with the list of its requests for a state, and notes change nothing but the notes.

`Source.plan` is all that happens before the source is asked.  What follows from a plan is
one lemma for each of its outcomes: refused, without bytes, with bytes.
-/

namespace TensorExchange

/-! ## Backends of any kind -/

/-- What a backend is asked for. -/
structure Request where
  size : Nat
  alignment : Nat
  device : Device
deriving DecidableEq, Repr

/-- Memory that was handed out: where it begins, and who takes it back. -/
structure Grant where
  base : Pointer
  owner : Owner

/-- A backend as an allocator sees it; its states are its own. -/
structure Source (σ : Type) where
  name : String
  supports : Device → Bool
  serve : Request → Heap → σ → Except (Failure Error Heap) (Heap × Grant) × σ

namespace Source

variable {σ : Type}

/-- All memory that the backend hands out is zero. -/
def Zeroes (s : Source σ) : Prop :=
  ∀ r h state h' g, (s.serve r h state).1 = .ok (h', g) →
    h'.read? g.base r.size = some (Array.replicate r.size 0)

/-- The packed layout of a request and its bytes, if they are admitted. -/
def plan (s : Source σ) (c : Config) (type : ElementType) (shape : List UInt64)
    (device : Device) : Except Error (Layout × Nat) := do
  if !s.supports device then throw (.allocation (.unsupportedDevice s.name device))
  let layout ← orLayoutError (Layout.contiguous shape)
  match layout.bytes? type.size with
  | none => throw (.allocation (.oversizedElements shape type))
  | some n =>
    if c.maxAllocation < n then throw (.allocation (.aboveLimit n c.maxAllocation))
    return (layout, n)

/-- The request for `n` bytes of elements of a type. -/
def request (c : Config) (type : ElementType) (device : Device) (n : Nat) : Request :=
  ⟨n, max c.alignment type.size, device⟩

/-- A new buffer with packed rows, in memory of the backend. -/
def allocate (s : Source σ) (c : Config) (type : ElementType) (shape : List UInt64)
    (device : Device) (h : Heap) (state : σ) : Except (Failure Error Heap) (Heap × Buffer) × σ :=
  match s.plan c type shape device with
  | .error e => (.error ⟨e, h⟩, state)
  | .ok (layout, n) =>
    let r := request c type device n
    if n = 0 then
      let (h, storage) := h.addEmptyStorage r.alignment device
      (.ok (h, .ofStorage storage layout type), state)
    else
      match s.serve r h state with
      | (.error f, state) => (.error f, state)
      | (.ok (h, g), state) =>
        let (h, storage) := h.addStorage g.owner g.base n (some r.alignment) device false
        (.ok (h, .ofStorage storage layout type), state)

/-- The backend with a note of each request. -/
def noting (s : Source σ) : Source (σ × List Request) where
  name := s.name
  supports := s.supports
  serve r h state :=
    let (result, own) := s.serve r h state.1
    (result, own, state.2 ++ [r])

/-- The requests that an allocation makes. -/
def requests (s : Source σ) (c : Config) (type : ElementType) (shape : List UInt64)
    (device : Device) (h : Heap) (state : σ) : List Request :=
  (s.noting.allocate c type shape device h (state, [])).2.2

end Source

/-- A backend of this library as any other. -/
def Backend.source (b : Backend) : Source Unit where
  name := b.name
  supports := b.supports
  serve r h _ := (do
    let (h, a) ← h.allocate b r.size r.alignment r.device
    return (h, ⟨.within a.block 0, .backend a⟩), ())

/-- An allocator of this library gives what it would with its backend taken as any other. -/
theorem Allocator.allocate_ofConfig (b : Backend) (c : Config) (h : Heap) (type : ElementType)
    (shape : List UInt64) (device : Device) :
    (ofConfig b c).allocate h type shape device =
      (b.source.allocate c type shape device h ()).1 := by
  have plans : (ofConfig b c).plan type shape device = b.source.plan c type shape device := rfl
  rw [allocate, Source.allocate, plans]
  cases b.source.plan c type shape device with
  | error e => rfl
  | ok planned =>
    obtain ⟨layout, n⟩ := planned
    by_cases hn : n = 0
    · subst hn
      rfl
    · let r := Source.request c type device n
      have asked : h.allocate (ofConfig b c).backend n ((ofConfig b c).alignmentFor type) device =
          h.allocate b r.size r.alignment r.device := rfl
      have planned : (leaving h (.ok (layout, n)) : Except (Failure Error Heap) _) =
          .ok (layout, n) := rfl
      simp only [bind, Except.bind, planned, hn, if_false, Backend.source, asked]
      cases h.allocate b r.size r.alignment r.device <;> rfl

theorem Heap.storageBytes_of_read {h : Heap} {storage : Storage} {bytes : Array UInt8}
    (hn : storage.size ≠ 0) (read : h.read? storage.base storage.size = some bytes) :
    h.storageBytes storage = .ok bytes := by
  rw [storageBytes, if_neg hn, read]

namespace Source

variable {σ : Type} {s : Source σ} {c : Config} {type : ElementType} {shape : List UInt64}
  {device : Device} {h h' : Heap} {state : σ} {b : Buffer} {layout : Layout} {n : Nat}

/-! ## What is planned -/

/-- A request is planned exactly if the device is served, the extents are counted, and the bytes
are within memory and within the limit. -/
theorem plan_eq_ok_iff : s.plan c type shape device = .ok (layout, n) ↔
    s.supports device = true ∧ Layout.contiguous shape = .ok layout ∧
      n = volume shape * type.size ∧ n ≤ maxSize ∧ n ≤ c.maxAllocation := by
  simp only [plan, guard_eq_ok, bind_eq_ok, orLayoutError_eq_ok, Bool.not_eq_true',
    Bool.not_eq_false]
  refine and_congr_right fun _ => ?_
  constructor
  case mp =>
    rintro ⟨layout', packed, ok⟩
    rw [Layout.bytes?, Layout.count_of_contiguous packed] at ok
    split at ok
    next => cases ok
    next m hm =>
      obtain ⟨limited, ok⟩ := guard_eq_ok.mp ok
      obtain ⟨rfl, rfl⟩ := Prod.mk.inj (pure_eq_ok.mp ok)
      split at hm
      next small =>
        obtain rfl := Option.some.inj hm
        exact ⟨packed, rfl, small, Nat.not_lt.mp limited⟩
      next => cases hm
  case mpr =>
    rintro ⟨packed, rfl, small, limited⟩
    refine ⟨layout, packed, ?_⟩
    simp only [Layout.bytes?, Layout.count_of_contiguous packed, if_pos small]
    exact guard_eq_ok.mpr ⟨Nat.not_lt.mpr limited, rfl⟩

theorem contiguous_of_prefixes (steps : ∀ k, volume (shape.take k) ≤ maxSize) :
    ∃ layout, Layout.contiguous shape = .ok layout := by
  have counted : count? shape = some (volume shape) :=
    count?_of_prefixes fun k => Nat.lt_of_le_of_lt (steps k) (by decide)
  have whole := steps shape.length
  rw [List.take_length] at whole
  refine ⟨_, Layout.contiguous_eq_ok_iff.mpr ⟨?_, rfl⟩⟩
  rw [checkShape, counted]
  exact if_pos whole

/-! ## What is allocated -/

theorem allocate_of_refused {e : Error} (refused : s.plan c type shape device = .error e) :
    s.allocate c type shape device h state = (.error ⟨e, h⟩, state) := by
  rw [allocate, refused]

theorem allocate_of_empty (planned : s.plan c type shape device = .ok (layout, 0)) :
    s.allocate c type shape device h state =
      (.ok ((h.addEmptyStorage (request c type device 0).alignment device).1,
        .ofStorage (h.addEmptyStorage (request c type device 0).alignment device).2 layout type),
        state) := by
  rw [allocate, planned]
  rfl

/-- A buffer with bytes takes what one request gives, or is refused as the request is. -/
theorem allocate_of_planned (planned : s.plan c type shape device = .ok (layout, n)) (hn : n ≠ 0) :
    s.allocate c type shape device h state =
      ((s.serve (request c type device n) h state).1.map fun (h, g) =>
        let (h, storage) := h.addStorage g.owner g.base n (some (request c type device n).alignment)
          device false
        (h, .ofStorage storage layout type),
        (s.serve (request c type device n) h state).2) := by
  rw [allocate, planned]
  simp only [if_neg hn]
  obtain ⟨result, own⟩ := s.serve (request c type device n) h state
  cases result <;> rfl

theorem allocate_noting (s : Source σ) (notes : List Request) :
    (s.noting.allocate c type shape device h (state, notes)).1 =
      (s.allocate c type shape device h state).1 := by
  have plans : s.noting.plan c type shape device = s.plan c type shape device := rfl
  cases planned : s.plan c type shape device with
  | error e => rw [allocate_of_refused planned, allocate_of_refused (plans.trans planned)]
  | ok p =>
    obtain ⟨layout, n⟩ := p
    by_cases hn : n = 0
    · subst hn
      rw [allocate_of_empty planned, allocate_of_empty (plans.trans planned)]
    · rw [allocate_of_planned planned hn, allocate_of_planned (plans.trans planned) hn]
      rfl

/-- A planned allocation asks once, and not at all where there are no bytes. -/
theorem requests_of_planned (planned : s.plan c type shape device = .ok (layout, n)) :
    s.requests c type shape device h state = if n = 0 then [] else [request c type device n] := by
  have planned : s.noting.plan c type shape device = .ok (layout, n) := planned
  unfold requests
  split
  case isTrue hn =>
    subst hn
    rw [allocate_of_empty planned]
  case isFalse hn =>
    rw [allocate_of_planned planned hn]
    rfl

/-- A buffer that an allocation made, with the request for its memory. -/
structure Allocated (s : Source σ) (c : Config) (type : ElementType) (shape : List UInt64)
    (device : Device) (h : Heap) (state : σ) (h' : Heap) (b : Buffer) : Prop where
  /-- The storage has the bytes of the elements, counted without a bound. -/
  size : b.storage.size = volume shape * type.size
  typed : b.type = type ∧ b.device = device
  within : b.storage.size ≤ c.maxAllocation ∧ b.storage.size ≤ maxSize
  zero : h'.storageBytes b.storage = .ok (Array.replicate b.storage.size 0)
  packed : Layout.contiguous shape = .ok b.layout
  inBounds : b.layout.checkWithin type.size b.storage.size = .ok ()
  asked : s.requests c type shape device h state =
    if b.storage.size = 0 then [] else [request c type device b.storage.size]

theorem checkWithin_of_contiguous (packed : Layout.contiguous shape = .ok layout) :
    layout.checkWithin type.size (volume shape * type.size) = .ok () := by
  refine (Layout.checkWithin_eq_ok_iff type.size_pos).mpr
    (Layout.fits_of_isContiguous (Layout.exact_of_contiguous packed)
      (Layout.isContiguous_of_contiguous packed) ?_)
  rw [Layout.byteOffset_of_contiguous packed, Layout.count_of_contiguous packed]
  simp

theorem allocated_of_eq_ok (zeroes : s.Zeroes)
    (ok : (s.allocate c type shape device h state).1 = .ok (h', b)) :
    s.Allocated c type shape device h state h' b := by
  cases planned : s.plan c type shape device with
  | error e =>
    rw [allocate_of_refused planned] at ok
    cases ok
  | ok p =>
    obtain ⟨layout, n⟩ := p
    obtain ⟨_, packed, rfl, small, limited⟩ := plan_eq_ok_iff.mp planned
    have requests : s.requests c type shape device h state = _ := requests_of_planned planned
    have inBounds : layout.checkWithin type.size _ = _ := checkWithin_of_contiguous packed
    by_cases hn : volume shape * type.size = 0
    case pos =>
      rw [hn] at planned small limited inBounds
      rw [allocate_of_empty planned] at ok
      obtain ⟨rfl, rfl⟩ := Prod.mk.inj (Except.ok.inj ok)
      rw [hn] at requests
      exact ⟨hn.symm, ⟨rfl, rfl⟩, ⟨limited, small⟩, rfl, packed, inBounds, requests⟩
    case neg =>
      rw [allocate_of_planned planned hn] at ok
      cases served : (s.serve (request c type device (volume shape * type.size)) h state).1 with
      | error e =>
        rw [served] at ok
        cases ok
      | ok granted =>
        obtain ⟨h₁, g⟩ := granted
        have read := zeroes _ _ _ _ _ served
        rw [served] at ok
        obtain ⟨rfl, rfl⟩ := Prod.mk.inj (Except.ok.inj ok)
        refine ⟨rfl, ⟨rfl, rfl⟩, ⟨limited, small⟩, ?_, packed, inBounds, requests⟩
        -- adding the storage leaves the memory as it was handed out
        exact Heap.storageBytes_of_read hn read

/-- Why an allocation may fail that is for a device the backend serves and whose extents can be
counted. -/
theorem allocate_eq_error_iff (supported : s.supports device = true)
    (steps : ∀ k, volume (shape.take k) ≤ maxSize) :
    (∃ f, (s.allocate c type shape device h state).1 = .error f) ↔
      maxSize < volume shape * type.size ∨ c.maxAllocation < volume shape * type.size ∨
        volume shape * type.size ≠ 0 ∧
          ∃ f, (s.serve (request c type device (volume shape * type.size)) h state).1 =
            .error f := by
  obtain ⟨layout, packed⟩ := contiguous_of_prefixes steps
  by_cases admitted : volume shape * type.size ≤ maxSize ∧
      volume shape * type.size ≤ c.maxAllocation
  case neg =>
    have refused : ∃ e, s.plan c type shape device = .error e := by
      cases planned : s.plan c type shape device with
      | error e => exact ⟨e, rfl⟩
      | ok p =>
        obtain ⟨_, n⟩ := p
        obtain ⟨_, _, rfl, within⟩ := plan_eq_ok_iff.mp planned
        exact absurd within admitted
    obtain ⟨e, refused⟩ := refused
    rw [allocate_of_refused refused]
    exact ⟨fun _ => by omega, fun _ => ⟨_, rfl⟩⟩
  case pos =>
    have planned : s.plan c type shape device = .ok (layout, volume shape * type.size) :=
      plan_eq_ok_iff.mpr ⟨supported, packed, rfl, admitted⟩
    by_cases hn : volume shape * type.size = 0
    case pos =>
      rw [hn] at planned
      rw [allocate_of_empty planned]
      exact ⟨fun ⟨_, failed⟩ => (by cases failed), fun why => by omega⟩
    case neg =>
      rw [allocate_of_planned planned hn]
      cases (s.serve (request c type device (volume shape * type.size)) h state).1 with
      | error f => exact ⟨fun _ => .inr (.inr ⟨hn, f, rfl⟩), fun _ => ⟨f, rfl⟩⟩
      | ok granted =>
        exact ⟨fun ⟨_, failed⟩ => (by cases failed), by rintro (big | big | ⟨_, _, ⟨⟩⟩) <;> omega⟩

/-- All that can be said of an allocation, whatever comes of it. -/
structure Exact (s : Source σ) (c : Config) (type : ElementType) (shape : List UInt64)
    (device : Device) (h : Heap) (state : σ) : Prop where
  obtained : ∀ h' b, (s.allocate c type shape device h state).1 = .ok (h', b) →
    s.Allocated c type shape device h state h' b
  refused : s.supports device = true → (∀ k, volume (shape.take k) ≤ maxSize) →
    ((∃ f, (s.allocate c type shape device h state).1 = .error f) ↔
      maxSize < volume shape * type.size ∨ c.maxAllocation < volume shape * type.size ∨
        volume shape * type.size ≠ 0 ∧
          ∃ f, (s.serve (request c type device (volume shape * type.size)) h state).1 = .error f)
  /-- The requests are those of the allocation itself: noting them changes nothing. -/
  noted : ∀ notes, (s.noting.allocate c type shape device h (state, notes)).1 =
    (s.allocate c type shape device h state).1

end Source

/-! ## Backends of this library -/

/-- A backend of this library is one like any other, and refuses host memory for two reasons: an
alignment that is none, and more than the machine has. -/
structure Backend.Sourced (b : Backend) : Prop where
  same : ∀ c h type shape device, (Allocator.ofConfig b c).allocate h type shape device =
    (b.source.allocate c type shape device h ()).1
  zeroes : b.source.Zeroes
  refuses : ∀ (r : Request) (h : Heap), b.supports r.device = true →
    ((∃ f, (b.source.serve r h ()).1 = .error f) ↔
      isPowerOfTwo r.alignment = false ∨ maxSize < roundUp r.size r.alignment ∨
        h.machine.refuses r.size r.alignment = true)

theorem Backend.zeroes_source (b : Backend) : b.source.Zeroes := by
  intro r h state h' g ok
  obtain ⟨⟨h₁, a⟩, allocated, ok⟩ := bind_eq_ok.mp ok
  obtain ⟨rfl, rfl⟩ := Prod.mk.inj (pure_eq_ok.mp ok)
  obtain ⟨rfl, rfl⟩ := Heap.allocate_eq_ok allocated
  have found : (h.addBlock (Array.replicate r.size 0)).1.blocks.get? h.blocks.next =
      some (Array.replicate r.size 0) := Table.get?_add_next _ _
  simp [Heap.read?, Heap.record, found]

theorem Backend.serve_eq_error_iff {b : Backend} (r : Request) (h : Heap)
    (supported : b.supports r.device = true) :
    (∃ f, (b.source.serve r h ()).1 = .error f) ↔
      isPowerOfTwo r.alignment = false ∨ maxSize < roundUp r.size r.alignment ∨
        h.machine.refuses r.size r.alignment = true := by
  have served : (∃ f, (b.source.serve r h ()).1 = .error f) ↔
      ∃ e, b.checkRequest h.machine r.size r.alignment r.device = .error e := by
    simp only [source, Heap.allocate]
    cases b.checkRequest h.machine r.size r.alignment r.device with
    | error e => exact ⟨fun _ => ⟨e, rfl⟩, fun _ => ⟨_, rfl⟩⟩
    | ok _ =>
      exact ⟨fun ⟨_, failed⟩ => (by cases failed), fun ⟨_, failed⟩ => (by cases failed)⟩
  rw [served, checkRequest, if_neg (by simp [supported])]
  split
  case isTrue unfit =>
    rw [Bool.or_eq_true, Bool.not_eq_true', decide_eq_true_eq] at unfit
    exact ⟨fun _ => unfit.imp_right .inl, fun _ => ⟨_, rfl⟩⟩
  case isFalse fit =>
    rw [Bool.not_eq_true, Bool.or_eq_false_iff, Bool.not_eq_false', decide_eq_false_iff_not] at fit
    split
    case isTrue full => exact ⟨fun _ => .inr (.inr full), fun _ => ⟨_, rfl⟩⟩
    case isFalse has => exact ⟨fun ⟨_, failed⟩ => (by cases failed), by simp [fit, has]⟩

theorem Backend.sourced (b : Backend) : b.Sourced where
  same := Allocator.allocate_ofConfig b
  zeroes := b.zeroes_source
  refuses := serve_eq_error_iff

/-- No allocation is undersized, whatever the backend, and none is refused that could be served. -/
theorem allocate_exact :
    (∀ (σ : Type) (s : Source σ), s.Zeroes → ∀ c type shape device h state,
      s.Exact c type shape device h state) ∧ ∀ b : Backend, b.Sourced := by
  refine ⟨fun σ s zeroes c type shape device h state => ?_, Backend.sourced⟩
  exact ⟨fun _ _ => Source.allocated_of_eq_ok zeroes, Source.allocate_eq_error_iff,
    fun notes => Source.allocate_noting s notes⟩

/-- Six elements of four bytes, under an alignment of one byte that their size exceeds, and under
one that is no power of two. -/
theorem allocated_six :
    (∃ h b, (Allocator.ofConfig ⟨.host, 0⟩ { Config.default with alignment := 1 }).allocate default
        .float32 [2, 3] .host = .ok (h, b) ∧
      b.storage.size = 24 ∧ h.storageBytes b.storage = .ok (Array.replicate 24 0) ∧
        (⟨.host, 0⟩ : Backend).source.requests { Config.default with alignment := 1 } .float32
          [2, 3] .host default () = [⟨24, 4, .host⟩]) ∧
      ∃ e, (Allocator.ofConfig ⟨.host, 0⟩ { Config.default with alignment := 48 }).allocate default
        .float32 [2, 3] .host = .error e := by
  obtain ⟨sources, backends⟩ := allocate_exact
  have host := backends ⟨.host, 0⟩
  have exact (c : Config) := sources Unit _ host.zeroes c .float32 [2, 3] .host default ()
  have steps : ∀ k, volume ([2, 3].take k) ≤ maxSize
    | 0 | 1 => by decide
    | k + 2 => by
      rw [List.take_of_length_le (by simp)]
      decide
  simp only [host.same]
  constructor
  · refine ⟨_, _, rfl, ?_⟩
    have obtained := (exact { Config.default with alignment := 1 }).obtained _ _ rfl
    exact ⟨obtained.size, obtained.zero, obtained.asked⟩
  · have refuses := host.refuses ⟨24, 48, .host⟩ default rfl
    exact ((exact { Config.default with alignment := 48 }).refused rfl steps).mpr
      (.inr (.inr ⟨by decide, refuses.mpr (.inl rfl)⟩))

end TensorExchange
