import TensorExchange.Capsule
import TensorExchange.Proofs.Result
import TensorExchange.Serialized

/-!
Device texts: what the text that shows a device is read as.

A text is trimmed and lowercased, what stands before the first colon is looked up among
the names of the kinds, and what follows it is the index, 0 where there is none.  A device
is shown by the name of its kind, a colon and its index, but host memory by its name alone.

Main statement (`legible`), for every device:

    parse? d.display = some d  ↔  d.Proper        where  d.Proper: host memory has index 0

and host memory with another index is read back as the first one.  The same holds where a
device is serialized.  It follows that two devices are shown alike exactly if they are
equal or both host memory, and that a mismatch which is reported names the same text twice
only between two host memories.

Devices that are not proper are not made up for the statement.  The text `cpu:1` names one
and so does a pair that a foreign library sends (`illegible_second_host`); what shows them
is what drops the index.  For every device there is a text that names it, `numbered`, only
it is not always the text that is shown.

The proof reads a text the way the reader does.  No character of a name or of a number is
trimmed or lowercased (`Text.Kept`), names have no colon, and the digits of a number are
read as the number; that a name names its kind is decided, kind by kind.
-/

namespace TensorExchange

/-! ## Characters that reading keeps -/

namespace Text

/-- A character that is neither trimmed nor lowercased. -/
def Kept (c : Char) : Prop := isBlank c = false ∧ isCaseless c = true

instance (c : Char) : Decidable (Kept c) := inferInstanceAs (Decidable (_ ∧ _))

theorem lower_trim_of_kept {s : String} (h : ∀ c ∈ s.toList, Kept c) : lower (trim s) = s := by
  rw [trim_of_no_blank fun c hc => (h c hc).1]
  exact lower_of_caseless fun c hc => (h c hc).2

theorem kept_digitChar {d : Nat} (h : d < 10) : Kept (digitChar d) := by
  have all : ∀ d < 10, Kept (digitChar d) := by decide +kernel
  exact all d h

theorem kept_of_mem_decimal {n : Nat} : ∀ c ∈ decimal n, Kept c := by
  induction n using Nat.strongRecOn with
  | ind n ih =>
    intro c hc
    rw [decimal] at hc
    split at hc
    case isTrue hlt =>
      rw [List.mem_singleton.mp hc]
      exact kept_digitChar hlt
    case isFalse hge =>
      rcases List.mem_append.mp hc with hc | hc
      · exact ih (n / 10) (by omega) c hc
      · rw [List.mem_singleton.mp hc]
        exact kept_digitChar (Nat.mod_lt n (by decide))

end Text

namespace DeviceKind

theorem kept_of_mem_name (k : DeviceKind) : ∀ c ∈ k.name.toList, Text.Kept c := by
  have all : k.name.toList.all (fun c => decide (Text.Kept c)) = true := by
    cases k <;> decide +kernel
  exact fun c hc => of_decide_eq_true (List.all_eq_true.mp all c hc)

theorem colon_notMem_name (k : DeviceKind) : ':' ∉ k.name.toList := by
  cases k <;> decide +kernel

theorem ofName?_name (k : DeviceKind) : ofName? k.name = some k := by
  cases k <;> decide +kernel

end DeviceKind

theorem Buffer.reshape_eq_error {h : Heap} {b : Buffer} {shape : List UInt64}
    {f : Failure Error Heap} (failed : b.reshape h shape = .error f) :
    ∃ why, f.cause = .shape why := by
  rw [reshape, reshapeLayout] at failed
  split at failed
  case isTrue =>
    obtain rfl := Except.error.inj failed
    exact ⟨_, rfl⟩
  case isFalse =>
    cases reshaped : b.layout.reshaped shape with
    | ok l =>
      rw [reshaped] at failed
      cases failed
    | error why =>
      rw [reshaped] at failed
      obtain rfl := Except.error.inj failed
      exact ⟨_, rfl⟩

namespace Device

/-! ## Reading a text -/

theorem splitColon_append {name : List Char} (h : ':' ∉ name) (rest : List Char) :
    splitColon (name ++ ':' :: rest) = (name, some rest) := by
  induction name with
  | nil => rfl
  | cons c name ih =>
    rw [List.mem_cons, not_or] at h
    rw [List.cons_append, splitColon, ih h.2]
    exact fun hc => h.1 hc.symm

theorem splitColon_of_notMem {name : List Char} (h : ':' ∉ name) :
    splitColon name = (name, none) := by
  induction name with
  | nil => rfl
  | cons c name ih =>
    rw [List.mem_cons, not_or] at h
    rw [splitColon, ih h.2]
    exact fun hc => h.1 hc.symm

theorem readIndex?_decimal (i : UInt32) : readIndex? (some (Text.decimal i.toNat)) = some i := by
  have hread : Text.readNumeral 0x100000000 (Text.decimal i.toNat) = .ok i.toNat :=
    Text.readNumeral_decimal i.toNat_lt
  rw [readIndex?, hread]
  exact congrArg some UInt32.ofNat_toNat

/-- The text that gives a device its index, whatever its kind. -/
def numbered (d : Device) : String :=
  d.kind.name ++ ":" ++ String.ofList (Text.decimal d.index.toNat)

theorem toList_numbered (d : Device) :
    d.numbered.toList = d.kind.name.toList ++ ':' :: Text.decimal d.index.toNat := by
  simp [numbered]

theorem kept_of_mem_numbered (d : Device) : ∀ c ∈ d.numbered.toList, Text.Kept c := by
  intro c hc
  rw [toList_numbered] at hc
  rcases List.mem_append.mp hc with hc | hc
  · exact d.kind.kept_of_mem_name c hc
  rcases List.mem_cons.mp hc with rfl | hc
  · decide +kernel
  · exact Text.kept_of_mem_decimal c hc

theorem parse?_numbered (d : Device) : parse? d.numbered = some d := by
  have hsplit : splitColon d.numbered.toList =
      (d.kind.name.toList, some (Text.decimal d.index.toNat)) := by
    rw [toList_numbered]
    exact splitColon_append d.kind.colon_notMem_name _
  rw [parse?, Text.lower_trim_of_kept d.kept_of_mem_numbered, hsplit]
  simp [readIndex?_decimal, DeviceKind.ofName?_name]

theorem parse?_name (k : DeviceKind) : parse? k.name = some ⟨k, 0⟩ := by
  rw [parse?, Text.lower_trim_of_kept k.kept_of_mem_name,
    splitColon_of_notMem k.colon_notMem_name]
  simp [readIndex?, DeviceKind.ofName?_name]

/-! ## Reading what is shown -/

variable {d e : Device}

theorem display_of_isCpu (h : d.isCpu = true) : d.display = "cpu" := if_pos h

theorem display_of_not_isCpu (h : ¬ d.isCpu = true) : d.display = d.numbered := if_neg h

/-- Nothing that is shown has a blank or a capital. -/
theorem kept_of_mem_display (d : Device) : ∀ c ∈ d.display.toList, Text.Kept c := by
  by_cases h : d.isCpu = true
  · rw [display_of_isCpu h]
    exact DeviceKind.cpu.kept_of_mem_name
  · rw [display_of_not_isCpu h]
    exact d.kept_of_mem_numbered

theorem parse?_display (d : Device) : parse? d.display = some (if d.isCpu then host else d) := by
  split
  case isTrue h =>
    rw [display_of_isCpu h]
    exact parse?_name .cpu
  case isFalse h =>
    rw [display_of_not_isCpu h]
    exact parse?_numbered d

/-- Host memory is not numbered. -/
def Proper (d : Device) : Prop := d.isCpu = true → d.index = 0

theorem eq_host_iff : d = host ↔ d.isCpu = true ∧ d.index = 0 := by
  cases d
  simp [host, isCpu]

theorem parse?_display_eq_iff : parse? d.display = some d ↔ d.Proper := by
  rw [parse?_display, Option.some.injEq, Proper]
  by_cases h : d.isCpu = true
  · rw [if_pos h, eq_comm, eq_host_iff]
    simp [h]
  · simp [h]

theorem ofSerialized_display_eq_iff :
    ofSerialized (.text d.display) = .ok d ↔ d.Proper := by
  rw [← parse?_display_eq_iff, ofSerialized]
  cases parse? d.display <;> simp

/-- Two devices are shown alike if they are equal or both host memory. -/
theorem display_eq_iff : e.display = d.display ↔ e = d ∨ e.isCpu = true ∧ d.isCpu = true := by
  constructor
  · intro h
    have hread : some _ = some _ := (parse?_display e).symm.trans (h ▸ parse?_display d)
    rw [Option.some.injEq] at hread
    by_cases he : e.isCpu = true <;> by_cases hd : d.isCpu = true
    · exact .inr ⟨he, hd⟩
    · rw [if_pos he, if_neg hd] at hread
      exact absurd (hread ▸ rfl) hd
    · rw [if_neg he, if_pos hd] at hread
      exact absurd (hread ▸ rfl) he
    · rw [if_neg he, if_neg hd] at hread
      exact .inl hread
  · rintro (rfl | ⟨he, hd⟩)
    · rfl
    · rw [display_of_isCpu he, display_of_isCpu hd]

/-! ## Mismatches -/

/-- No device is shown as the memory that the host can use: there is a blank in that. -/
theorem display_ne_host (d : Device) : d.display ≠ Accept.host.display := by
  intro h
  have hblank : ' ' ∈ d.display.toList := by
    rw [h]
    decide +kernel
  exact absurd (d.kept_of_mem_display ' ' hblank) (by decide +kernel)

/-- A consumer that refuses a device names it by its own text only if it wants host memory too. -/
theorem check_eq_error {a : Accept} {cause : Error} (refused : a.check d = .error cause) :
    cause = .deviceMismatch a.display d ∧
      (a.display = d.display ↔ (∃ e, a = .device e ∧ e.isCpu = true) ∧ d.isCpu = true) := by
  have hpermits : ¬ a.permits d = true := by
    intro h
    rw [Accept.check_eq_ok_iff.mpr h] at refused
    cases refused
  rw [Accept.check, if_neg hpermits] at refused
  refine ⟨(Except.error.inj refused).symm, ?_⟩
  cases a with
  | any => exact absurd rfl hpermits
  | host =>
    constructor
    · exact fun h => absurd h.symm d.display_ne_host
    · rintro ⟨⟨e, h, _⟩, _⟩
      cases h
  | device e =>
    have hne : e ≠ d := by simpa [Accept.permits] using hpermits
    rw [Accept.display, display_eq_iff]
    constructor
    · rintro (h | ⟨he, hd⟩)
      · exact absurd h hne
      · exact ⟨⟨e, rfl, he⟩, hd⟩
    · rintro ⟨⟨_, ⟨⟩, he⟩, hd⟩
      exact .inr ⟨he, hd⟩

/-- A buffer that is declared to live elsewhere is refused with both texts. -/
theorem wrapAs_eq_mismatch {h : Heap} {b : Buffer} {shape : List UInt64} {type : ElementType}
    {expected : String} {actual : Device} {f : Failure Error Heap}
    (refused : Capsule.wrapAs h b shape type d = .error f)
    (cause : f.cause = .deviceMismatch expected actual) :
    expected = d.display ∧ actual = b.device ∧
      (expected = actual.display ↔ d.isCpu = true ∧ b.device.isCpu = true) := by
  unfold Capsule.wrapAs at refused
  by_cases htype : b.type ≠ type
  · rw [if_pos htype] at refused
    obtain rfl := Except.error.inj refused
    cases cause
  by_cases hdevice : b.device ≠ d
  · rw [if_neg htype, if_pos hdevice] at refused
    obtain rfl := Except.error.inj refused
    cases cause
    refine ⟨rfl, rfl, ?_⟩
    rw [display_eq_iff]
    exact ⟨fun h => h.resolve_left fun heq => hdevice heq.symm, .inr⟩
  -- what is left to fail is the reshape, for its shape
  rw [if_neg htype, if_neg hdevice] at refused
  by_cases hshape : b.layout.shape = shape
  · rw [if_pos hshape] at refused
    cases refused
  · rw [if_neg hshape] at refused
    cases hreshape : b.reshape h shape with
    | ok reshaped =>
      rw [hreshape] at refused
      cases refused
    | error g =>
      rw [hreshape] at refused
      obtain ⟨why, hwhy⟩ := Buffer.reshape_eq_error hreshape
      obtain rfl := Except.error.inj refused
      cases hwhy.symm.trans cause

/-! ## What a text is worth -/

/-- What the text that shows a device is worth. -/
structure Legible (d : Device) : Prop where
  /-- There is a text for every device. -/
  named : parse? d.numbered = some d
  readsBack : parse? d.display = some d ↔ d.Proper
  /-- Host memory is read as the first of its kind. -/
  first : d.isCpu = true → parse? d.display = some host
  serialized : ofSerialized (.text d.display) = .ok d ↔ d.Proper
  apart : ∀ e, e.display = d.display ↔ e = d ∨ e.isCpu = true ∧ d.isCpu = true
  refused : ∀ a cause, Accept.check a d = .error cause → cause = .deviceMismatch a.display d ∧
    (a.display = d.display ↔ (∃ e, a = .device e ∧ e.isCpu = true) ∧ d.isCpu = true)
  declared : ∀ h b shape type f expected actual, Capsule.wrapAs h b shape type d = .error f →
    f.cause = .deviceMismatch expected actual →
      expected = d.display ∧ actual = b.device ∧
        (expected = actual.display ↔ d.isCpu = true ∧ b.device.isCpu = true)

theorem legible (d : Device) : d.Legible where
  named := parse?_numbered d
  readsBack := parse?_display_eq_iff
  first := fun h => by rw [parse?_display, if_pos h]
  serialized := ofSerialized_display_eq_iff
  apart := fun _ => display_eq_iff
  refused := fun _ _ => check_eq_error
  declared := fun _ _ _ _ _ _ _ => wrapAs_eq_mismatch

/-- A second host memory, which a text and a pair name and no text shows. -/
theorem illegible_second_host :
    parse? "cpu:1" = some ⟨.cpu, 1⟩ ∧ ofPair? ⟨1, 1⟩ = some ⟨.cpu, 1⟩ ∧
      parse? (display ⟨.cpu, 1⟩) = some host ∧ host ≠ ⟨.cpu, 1⟩ ∧
        Accept.check (.device host) ⟨.cpu, 1⟩ = .error (.deviceMismatch "cpu" ⟨.cpu, 1⟩) ∧
          display ⟨.cpu, 1⟩ = "cpu" :=
  ⟨by decide +kernel, by decide +kernel, by decide +kernel, by decide +kernel, rfl, rfl⟩

end Device

end TensorExchange
