import TensorExchange.Proofs.Ownership.World

/-!
One-shot transfer: a capsule hands its tensor over once.

Any clients may try to take the tensor, as a buffer or as a managed tensor, or to read it
in place.  They come in any order, each with a heap of its own choosing, so that whatever
else happens between two attempts is covered; what they share is the capsule.

Main statement (`oneShot_attempts`), for every fresh capsule and every list of attempts.
The first attempt that the device permits takes the tensor.  All before it leave the capsule
as it was: whoever would take the tensor is told that the device is wrong, and whoever reads it
in place gets what it would have got alone.  All after it find the capsule consumed, whatever
device they accept.  With that goes:

* letting go of the capsule deletes the tensor exactly if no attempt took it;
* of any number of consumers that accept every device, the first wins and all others are
  late (`racers`, and `race` for those that run at once);
* a buffer that was wrapped comes out with the storage, the layout and the type it had.

The order of the checks is part of it: a consumer that accepts another device is told so as
long as the tensor is there, and that it is consumed afterwards.  Attempts carry the capsule
they leave, also those that are refused, so that "as it was" is something to prove.

A capsule is open or closed.  `Open.attempt_refused`, `Open.attempt_permitted` and
`Closed.attempt` say what one attempt does in each state, and a list of attempts is cut at
its first permitted one (`exists_first_permitted`).
-/

namespace TensorExchange

/-! ## Attempts -/

/-- What a client tries on a capsule. -/
inductive Attempt where
  | consume (accept : Accept)
  | take
  | bytes
  | elements (type : ElementType)

/-- What a client got. -/
inductive Gain where
  | buffer (heap : Heap) (buffer : Buffer)
  | tensor (tensor : ManagedTensor)
  | data (bytes : Array UInt8)

/-- Whether an attempt takes the tensor if it is still there. -/
def Attempt.permitted (device : Device) : Attempt → Bool
  | consume a => a.permits device
  | take => true
  | bytes | elements _ => false

/-- Whether an attempt took the tensor. -/
def Gain.transfers : Except Error Gain → Bool
  | .ok (buffer ..) | .ok (tensor _) => true
  | .ok (data _) | .error _ => false

namespace Capsule

/-- The capsule after an attempt, and what the client got. -/
def attempt (h : Heap) (c : Capsule) : Attempt → Capsule × Except Error Gain
  | .consume a =>
    match c.consumeAs h a with
    | .ok (h, c, b) => (c, .ok (.buffer h b))
    | .error f => (f.state.2, .error f.cause)
  | .take =>
    match c.takeTensor with
    | .ok (c, t) => (c, .ok (.tensor t))
    | .error f => (f.state, .error f.cause)
  | .bytes => (c, (c.bytes h).map .data)
  | .elements type => (c, (c.elements h type).map .data)

/-- The capsule after attempts, each in a heap of its own, and what each client got. -/
def attempts (c : Capsule) : List (Heap × Attempt) → Capsule × List (Except Error Gain)
  | [] => (c, [])
  | (h, a) :: rest =>
    let (c, gain) := c.attempt h a
    let (c, gains) := attempts c rest
    (c, gain :: gains)

/-- A capsule as it is made: around a buffer, or around a tensor of another runtime. -/
def Fresh (c : Capsule) : Prop := (∃ b o, c = .wrapWith b o) ∨ ∃ t, Capsule.ofTensor t = .ok c

/-! ## A capsule whose tensor is still there -/

/-- What is open to a client as long as nobody took the tensor. -/
structure Open (c : Capsule) : Prop where
  unconsumed : c.isConsumed = false
  refuses : ∀ h a, a.permits c.info.device = false →
    c.consumeAs h a = .error ⟨.deviceMismatch a.display c.info.device, (h, c)⟩
  consumes : ∀ h a, a.permits c.info.device = true → ∃ h' b, c.consumeAs h a = .ok (h', c.spent, b)
  takes : ∃ t, c.tensor? = some t ∧ c.takeTensor = .ok (c.spent, t)
  /-- Letting go of the capsule deletes the tensor. -/
  drops : ∀ h : Heap, ∃ t, c.tensor? = some t ∧ h.dropCapsule c = h.delete t

/-- What is left after somebody took the tensor. -/
structure Closed (c : Capsule) : Prop where
  consumed : c.isConsumed = true
  consumes : ∀ h a, c.consumeAs h a = .error ⟨.alreadyConsumed, (h, c)⟩
  takes : c.takeTensor = .error ⟨.alreadyConsumed, c⟩
  bytes : ∀ h, c.bytes h = .error .alreadyConsumed
  /-- Elements are not read either; a wrong type is reported first. -/
  elements : ∀ h type, c.elements h type =
    .error (if type = c.info.type then .alreadyConsumed
      else .elementTypeMismatch c.info.type type)
  /-- Letting go of the capsule changes nothing. -/
  drops : ∀ h : Heap, h.dropCapsule c = h

theorem Fresh.unconsumed {c : Capsule} (f : c.Fresh) : c.state = .unconsumed := by
  rcases f with ⟨b, o, rfl⟩ | ⟨t, ht⟩
  · rfl
  · obtain ⟨d, _, rfl⟩ := ofTensor_eq_ok ht
    rfl

theorem Fresh.cargo {c : Capsule} (f : c.Fresh) : ∃ cargo, c.cargo? = some cargo := by
  rcases f with ⟨b, o, rfl⟩ | ⟨t, ht⟩
  · exact ⟨.buffer b, rfl⟩
  · obtain ⟨d, _, rfl⟩ := ofTensor_eq_ok ht
    exact ⟨.tensor d t, rfl⟩

/-- As long as something is there to take, only the check of the consumer decides. -/
theorem take_of_cargo {c : Capsule} {cargo : Cargo} (unconsumed : c.isConsumed = false)
    (there : c.cargo? = some cargo) (check : Except Error Unit) :
    c.take check = (leaving c check).map fun _ => (c.spent, cargo) := by
  simp only [take, unconsumed, there]
  cases check <;> rfl

theorem take_of_consumed {c : Capsule} (consumed : c.isConsumed = true)
    (check : Except Error Unit) : c.take check = .error ⟨.alreadyConsumed, c⟩ := by
  simp only [take, consumed]
  rfl

theorem Fresh.isOpen {c : Capsule} (f : c.Fresh) : c.Open := by
  have unconsumed := isConsumed_eq_false_iff.mpr f.unconsumed
  obtain ⟨cargo, there⟩ := f.cargo
  have htake := take_of_cargo unconsumed there
  have htensor : c.tensor? = some (cargo.export c.info) := by rw [tensor?, there, Option.map_some]
  constructor
  case unconsumed => exact unconsumed
  case refuses =>
    intro h a hno
    simp only [consumeAs, htake, Accept.check, hno]
    rfl
  case consumes =>
    intro h a hyes
    have hcheck := Accept.check_eq_ok_iff.mpr hyes
    cases cargo with
    | buffer b => exact ⟨h, c.deliver b, by simp only [consumeAs, htake, hcheck]; rfl⟩
    | tensor d t => exact ⟨_, _, by simp only [consumeAs, htake, hcheck]; rfl⟩
  case takes => exact ⟨_, htensor, by simp only [takeTensor, htake]; rfl⟩
  case drops => exact fun h => ⟨_, htensor, by simp only [Heap.dropCapsule, htensor]⟩

theorem isConsumed_spent (c : Capsule) : c.spent.isConsumed = true := rfl

theorem info_spent (c : Capsule) : c.spent.info = c.info := by
  unfold spent emptied
  split <;> rfl

theorem isClosed_spent (c : Capsule) : c.spent.Closed := by
  have hconsumed := c.isConsumed_spent
  have hbytes : ∀ h, c.spent.bytes h = .error .alreadyConsumed := by
    intro h
    simp only [Capsule.bytes, hconsumed]
    rfl
  refine ⟨hconsumed, fun h a => ?_, ?_, hbytes, fun h type => ?_, fun h => h.dropCapsule_spent c⟩
  · simp only [consumeAs, take_of_consumed hconsumed]
    rfl
  · simp only [takeTensor, take_of_consumed hconsumed]
    rfl
  · simp only [Capsule.elements, hbytes]
    by_cases htype : type = c.spent.info.type
    · simp [htype]
      rfl
    · simp [htype]
      rfl

/-! ## Sequences of attempts -/

variable {c : Capsule}

theorem Open.attempt_refused (k : c.Open) (h : Heap) {a : Attempt}
    (hno : a.permitted c.info.device = false) :
    (c.attempt h a).1 = c ∧ Gain.transfers (c.attempt h a).2 = false := by
  cases a with
  | consume accept => simp [attempt, k.refuses h accept hno, Gain.transfers]
  | take => cases hno
  | bytes => cases hread : c.bytes h <;> simp [attempt, hread, Except.map, Gain.transfers]
  | elements type =>
    cases hread : c.elements h type <;> simp [attempt, hread, Except.map, Gain.transfers]

theorem Open.attempt_permitted (k : c.Open) (h : Heap) {a : Attempt}
    (hyes : a.permitted c.info.device = true) :
    (c.attempt h a).1 = c.spent ∧ Gain.transfers (c.attempt h a).2 = true := by
  cases a with
  | consume accept =>
    obtain ⟨h', b, hconsume⟩ := k.consumes h accept hyes
    simp [attempt, hconsume, Gain.transfers]
  | take =>
    obtain ⟨t, _, htake⟩ := k.takes
    simp [attempt, htake, Gain.transfers]
  | bytes => cases hyes
  | elements type => cases hyes

theorem Closed.attempt (k : c.Closed) (h : Heap) (a : Attempt) :
    (c.attempt h a).1 = c ∧ Gain.transfers (c.attempt h a).2 = false := by
  cases a with
  | consume accept => simp [Capsule.attempt, k.consumes, Gain.transfers]
  | take => simp [Capsule.attempt, k.takes, Gain.transfers]
  | bytes => simp [Capsule.attempt, k.bytes, Except.map, Gain.transfers]
  | elements type => simp [Capsule.attempt, k.elements, Except.map, Gain.transfers]

/-- What each of these attempts gets if it is the only one. -/
def gains (c : Capsule) (as : List (Heap × Attempt)) : List (Except Error Gain) :=
  as.map fun x => (c.attempt x.1 x.2).2

theorem attempts_append (c : Capsule) (before after : List (Heap × Attempt)) :
    c.attempts (before ++ after) =
      (((c.attempts before).1.attempts after).1,
        (c.attempts before).2 ++ ((c.attempts before).1.attempts after).2) := by
  induction before generalizing c with
  | nil => rfl
  | cons x rest ih => simp only [List.cons_append, attempts, ih]

/-- As long as no attempt is permitted each finds the capsule as it was. -/
theorem Open.attempts_refused (k : c.Open) {as : List (Heap × Attempt)}
    (hno : ∀ x ∈ as, x.2.permitted c.info.device = false) :
    c.attempts as = (c, c.gains as) ∧ (c.gains as).countP Gain.transfers = 0 := by
  induction as with
  | nil => exact ⟨rfl, rfl⟩
  | cons x rest ih =>
    obtain ⟨hrest, hcount⟩ := ih fun y hy => hno y (List.mem_cons_of_mem x hy)
    obtain ⟨hsame, hnone⟩ := k.attempt_refused x.1 (hno x (List.mem_cons_self ..))
    constructor
    · simp only [attempts, hsame, hrest, gains, List.map_cons]
    · simpa [gains, hnone] using hcount

theorem Closed.attempts (k : c.Closed) (as : List (Heap × Attempt)) :
    c.attempts as = (c, c.gains as) ∧ (c.gains as).countP Gain.transfers = 0 := by
  induction as with
  | nil => exact ⟨rfl, rfl⟩
  | cons x rest ih =>
    obtain ⟨hsame, hnone⟩ := k.attempt x.1 x.2
    constructor
    · simp only [Capsule.attempts, hsame, ih.1, gains, List.map_cons]
    · simpa [gains, hnone] using ih.2

/-- The first attempt that is permitted takes the tensor from all that come later. -/
theorem Open.attempts_permitted (k : c.Open) {before after : List (Heap × Attempt)} {h : Heap}
    {a : Attempt} (hno : ∀ x ∈ before, x.2.permitted c.info.device = false)
    (hyes : a.permitted c.info.device = true) :
    c.attempts (before ++ (h, a) :: after) =
        (c.spent, c.gains before ++ (c.attempt h a).2 :: c.spent.gains after) ∧
      (c.gains before ++ (c.attempt h a).2 :: c.spent.gains after).countP Gain.transfers = 1 := by
  obtain ⟨hbefore, hcount⟩ := k.attempts_refused hno
  obtain ⟨hspent, hgain⟩ := k.attempt_permitted h hyes
  obtain ⟨hafter, hcount'⟩ := c.isClosed_spent.attempts after
  constructor
  · rw [attempts_append, hbefore]
    simp only [Capsule.attempts, hspent, hafter]
  · simp [hcount, hgain, hcount']

/-! ## Racing -/

theorem race_of_closed (k : c.Closed) (h : Heap) (n : Nat) : c.race h n = (h, c, []) := by
  induction n with
  | zero => rfl
  | succ n ih =>
    simp only [race, consume, k.consumes]
    exact ih

/-- Of consumers that accept any device one takes the tensor. -/
theorem Open.race (k : c.Open) (h : Heap) (n : Nat) :
    ∃ h' b, c.consume h = .ok (h', c.spent, b) ∧ c.race h (n + 1) = (h', c.spent, [b]) := by
  obtain ⟨h', b, hconsume⟩ := k.consumes h .any rfl
  refine ⟨h', b, hconsume, ?_⟩
  simp only [Capsule.race, consume, hconsume, race_of_closed c.isClosed_spent]

/-! ## One shot -/

/-- Exactly one of any attempts on a capsule takes its tensor, if any is permitted. -/
structure OneShot (c : Capsule) (as : List (Heap × Attempt)) : Prop where
  once : (c.attempts as).2.countP Gain.transfers ≤ 1
  /-- Without a permitted attempt the capsule stays open, and each client got what it would have
  got alone. -/
  refused : (∀ x ∈ as, x.2.permitted c.info.device = false) →
    c.attempts as = (c, c.gains as) ∧ c.Open
  /-- The first permitted attempt takes the tensor; clients that came before it got what they would
  have got alone, and those that come after it what a closed capsule gives. -/
  permitted : ∀ before h a after, as = before ++ (h, a) :: after →
    (∀ x ∈ before, x.2.permitted c.info.device = false) → a.permitted c.info.device = true →
      c.attempts as = (c.spent, c.gains before ++ (c.attempt h a).2 :: c.spent.gains after) ∧
        Gain.transfers (c.attempt h a).2 = true ∧ c.Open ∧ c.spent.Closed
  /-- Letting go of the capsule deletes the tensor exactly if no attempt took it. -/
  drop : ∀ h : Heap,
    ((c.attempts as).2.countP Gain.transfers = 0 ∧
        ∃ t, c.tensor? = some t ∧ h.dropCapsule (c.attempts as).1 = h.delete t) ∨
      ((c.attempts as).2.countP Gain.transfers = 1 ∧ h.dropCapsule (c.attempts as).1 = h)
  /-- Consumers that accept any device: the first one wins and all others are late. -/
  racers : ∀ h heaps, as = (h :: heaps).map (·, .consume .any) →
    ∃ g, (c.attempts as).2 = .ok g :: heaps.map fun _ => .error .alreadyConsumed
  race : ∀ h n, ∃ h' b, c.race h (n + 1) = (h', c.spent, [b])
  /-- A buffer that was wrapped comes out as it went in. -/
  native : ∀ b o, c = .wrapWith b o → ∀ h a, a.permits b.device = true →
    ∃ b', c.consumeAs h a = .ok (h, c.spent, b') ∧ b'.storage = b.storage ∧
      b'.layout = b.layout ∧ b'.type = b.type

theorem exists_first_permitted (device : Device) (as : List (Heap × Attempt)) :
    (∀ x ∈ as, x.2.permitted device = false) ∨
      ∃ before h a after, as = before ++ (h, a) :: after ∧
        (∀ x ∈ before, x.2.permitted device = false) ∧ a.permitted device = true := by
  induction as with
  | nil => exact .inl (by simp)
  | cons x rest ih =>
    by_cases hx : x.2.permitted device = true
    · exact .inr ⟨[], x.1, x.2, rest, rfl, by simp, hx⟩
    · have hx : x.2.permitted device = false := by simpa using hx
      rcases ih with hno | ⟨before, h, a, after, rfl, hno, hyes⟩
      · exact .inl (List.forall_mem_cons.mpr ⟨hx, hno⟩)
      · exact .inr ⟨x :: before, h, a, after, rfl, List.forall_mem_cons.mpr ⟨hx, hno⟩, hyes⟩

/-- A consumer that comes after the tensor was taken is late. -/
theorem Closed.gains_consume (k : c.Closed) (a : Accept) (heaps : List Heap) :
    c.gains (heaps.map (·, .consume a)) = heaps.map fun _ => .error .alreadyConsumed := by
  rw [gains, List.map_map]
  refine List.map_congr_left fun h _ => ?_
  simp only [Function.comp_apply, Capsule.attempt, k.consumes]

/-- A native capsule gives the buffer that it was made of, at most without permission to write. -/
theorem consumeAs_wrapWith (b : Buffer) (o : ExportOptions) (h : Heap) {a : Accept}
    (hyes : a.permits b.device = true) :
    ∃ b', (wrapWith b o).consumeAs h a = .ok (h, (wrapWith b o).spent, b') ∧
      b'.storage = b.storage ∧ b'.layout = b.layout ∧ b'.type = b.type := by
  have hcheck : a.check (wrapWith b o).info.device = .ok () := Accept.check_eq_ok_iff.mpr hyes
  refine ⟨(wrapWith b o).deliver b, ?_, ?_⟩
  · simp only [consumeAs, take_of_cargo (c := wrapWith b o) rfl rfl, hcheck]
    rfl
  · unfold deliver
    split <;> exact ⟨rfl, rfl, rfl⟩

/-- Whatever is tried on a capsule, its tensor is taken at most once, by the first attempt that may
take it. -/
theorem oneShot_attempts (f : c.Fresh) (as : List (Heap × Attempt)) : c.OneShot as := by
  have k := f.isOpen
  have hdrop : ∀ h : Heap,
      ((c.attempts as).2.countP Gain.transfers = 0 ∧
          ∃ t, c.tensor? = some t ∧ h.dropCapsule (c.attempts as).1 = h.delete t) ∨
        ((c.attempts as).2.countP Gain.transfers = 1 ∧ h.dropCapsule (c.attempts as).1 = h) := by
    intro h
    rcases exists_first_permitted c.info.device as with
      hno | ⟨before, h', a, after, rfl, hno, hyes⟩
    · obtain ⟨hsame, hcount⟩ := k.attempts_refused hno
      rw [hsame]
      exact .inl ⟨hcount, k.drops h⟩
    · obtain ⟨hsame, hcount⟩ : c.attempts (before ++ (h', a) :: after) = _ ∧ _ :=
        k.attempts_permitted hno hyes
      rw [hsame]
      exact .inr ⟨hcount, c.isClosed_spent.drops h⟩
  constructor
  case once => rcases hdrop default with ⟨hcount, _⟩ | ⟨hcount, _⟩ <;> omega
  case refused => exact fun hno => ⟨(k.attempts_refused hno).1, k⟩
  case permitted =>
    rintro before h a after rfl hno hyes
    exact ⟨(k.attempts_permitted hno hyes).1, (k.attempt_permitted h hyes).2, k, c.isClosed_spent⟩
  case drop => exact hdrop
  case racers =>
    rintro h heaps rfl
    have hfirst : c.attempts ([] ++ (h, .consume .any) :: heaps.map (·, .consume .any)) = _ :=
      (k.attempts_permitted (by simp) rfl).1
    obtain ⟨h', b, hconsume⟩ := k.consumes h .any rfl
    refine ⟨.buffer h' b, ?_⟩
    rw [List.map_cons, ← List.nil_append ((h, _) :: _), hfirst, c.isClosed_spent.gains_consume]
    simp only [gains, List.map_nil, List.nil_append, attempt, hconsume]
  case race =>
    intro h n
    obtain ⟨h', b, _, hrace⟩ := k.race h n
    exact ⟨h', b, hrace⟩
  case native =>
    rintro b o rfl h a hyes
    exact consumeAs_wrapWith b o h hyes

/-- Four bytes, in a heap that has nothing else. -/
def fourBytes : Heap × Buffer := Buffer.ofBytes (.empty .boundless) .uint8 #[1, 2, 3, 4]

/-- The bytes are read in place and refused to another device, then taken, and then it is too
late. -/
theorem oneShot_refused_won_late :
    (wrapWith fourBytes.2 .default).Fresh ∧
      (wrapWith fourBytes.2 .default).OneShot
          [(fourBytes.1, .bytes), (fourBytes.1, .consume (.device ⟨.cuda, 0⟩)),
            (fourBytes.1, .consume .any), (fourBytes.1, .take)] ∧
        ((wrapWith fourBytes.2 .default).attempts
          [(fourBytes.1, .bytes), (fourBytes.1, .consume (.device ⟨.cuda, 0⟩)),
            (fourBytes.1, .consume .any), (fourBytes.1, .take)]).2.map Gain.transfers =
              [false, false, true, false] :=
  have fresh : (wrapWith _ _).Fresh := .inl ⟨_, _, rfl⟩
  ⟨fresh, oneShot_attempts fresh _, by decide +kernel⟩

end Capsule

end TensorExchange
