import TensorExchange.Config
import TensorExchange.Proofs.Result

/-!
The environment laid over a configuration: what each setting does, and what a refusal leaves.

The settings are read one after the other, and each is written into the configuration
before the next one is read.  So an environment that cannot be read to the end has changed
the configuration by then.

Main statement (`applied_applyEnvironment`), for every configuration and environment:

* laying over succeeds exactly if every field becomes what its setting says, or stays what
  it was where the setting is absent (`Overlaid`), and the outcome is valid;
* if a setting is refused, the fields of the settings before it hold what those say and
  all others what they were (`RefusedAt`);
* if only the validation at the end refuses, all four fields are overridden.

So laying over is not all or nothing; `applyEnvironment_halfReadable` has an alignment
that stays although the setting after it is refused.  The configuration of a process does
not see this: it starts from the defaults and falls back to them as a whole.

The settings differ in their names, in how they read a text and in the field they set, and
in nothing else.  What one does is `Setting.Lays`, a list of them is laid by `Laid`, which
follows the list, and the statement about a refusal is an append of what was laid before
and what was not reached.  That what one setting lays does not depend on the others needs
their names to be distinct (`settings_distinct`).
-/

namespace TensorExchange.Config

/-! ## What an environment says -/

/-- A field goes from `before` to `after` by a setting that may be absent. -/
def Overrides {α : Type} (read : String → Except ConfigCause α) (value : Option String)
    (before after : α) : Prop :=
  match value with
  | none => after = before
  | some text => read text = .ok after

/-- `c'` is `c` with every setting of the environment laid over it. -/
structure Overlaid (env : Environment) (c c' : Config) : Prop where
  alignment : Overrides (readSize "HANDOFF_ALIGNMENT") (env "HANDOFF_ALIGNMENT")
    c.alignment c'.alignment
  maxAllocation : Overrides (readSize "HANDOFF_MAX_ALLOCATION") (env "HANDOFF_MAX_ALLOCATION")
    c.maxAllocation c'.maxAllocation
  format : Overrides (readFormat "HANDOFF_CAPSULE_FORMAT") (env "HANDOFF_CAPSULE_FORMAT")
    c.format c'.format
  readOnlyExports : Overrides (readFlag "HANDOFF_READ_ONLY") (env "HANDOFF_READ_ONLY")
    c.readOnlyExports c'.readOnlyExports

/-- The environment without the settings that are not listed. -/
def Environment.only (env : Environment) (listed : List Setting) : Environment := fun name =>
  if name ∈ listed.map Setting.name then env name else none

/-- The environment's first setting that cannot be read is `s`, for the cause `cause`; what comes
before it makes `c'` of `c`. -/
structure RefusedAt (env : Environment) (c c' : Config) (s : Setting) (cause : ConfigCause) :
    Prop where
  refused : ∃ text, env s.name = some text ∧ s.lay text c' = .error cause
  laid : ∃ earlier later, settings = earlier ++ s :: later ∧ Overlaid (env.only earlier) c c'

/-! ## One setting after the other -/

/-- One step of laying over. -/
def Setting.Lays (s : Setting) (value : Option String) (c d : Config) : Prop :=
  match value with
  | none => d = c
  | some text => s.lay text c = .ok d

/-- The settings of a list, none of them refused, make `c'` of `c`. -/
def Laid (env : Environment) : List Setting → Config → Config → Prop
  | [], c, c' => c' = c
  | s :: rest, c, c' => ∃ d, s.Lays (env s.name) c d ∧ Laid env rest d c'

variable {env : Environment} {c c' : Config}

theorem layAll_eq_ok_iff {listed : List Setting} :
    layAll env listed c = (c', .ok ()) ↔ Laid env listed c c' ∧ c'.validate = .ok () := by
  induction listed generalizing c with
  | nil =>
    rw [layAll, Prod.mk.injEq, Laid, eq_comm (a := c)]
    exact and_congr_right fun h => by rw [h]
  | cons s rest ih =>
    rw [layAll, Laid]
    cases value : env s.name with
    | none => simp [Setting.Lays, ih]
    | some text =>
      cases laid : s.lay text c with
      | error cause => simp [Setting.Lays, laid]
      | ok d => simp [Setting.Lays, laid, ih]

/-- Laying over that fails does so at the first setting that is refused, or at the end of all. -/
theorem layAll_eq_error {listed : List Setting} {e : Error}
    (h : layAll env listed c = (c', .error e)) :
    (Laid env listed c c' ∧ c'.validate = .error e) ∨
      ∃ earlier s later text cause, listed = earlier ++ s :: later ∧ Laid env earlier c c' ∧
        env s.name = some text ∧ s.lay text c' = .error cause ∧ e = .config cause := by
  induction listed generalizing c with
  | nil =>
    obtain ⟨rfl, invalid⟩ := Prod.mk.inj h
    exact .inl ⟨rfl, invalid⟩
  | cons s rest ih =>
    -- A setting that is laid over moves from the rest to what comes before the refusal.
    have later {d : Config} (step : s.Lays (env s.name) c d)
        (h : layAll env rest d = (c', .error e)) :
        (Laid env (s :: rest) c c' ∧ c'.validate = .error e) ∨
          ∃ earlier t later text cause, s :: rest = earlier ++ t :: later ∧
            Laid env earlier c c' ∧ env t.name = some text ∧ t.lay text c' = .error cause ∧
              e = .config cause := by
      rcases ih h with ⟨laid, invalid⟩ | ⟨earlier, t, later, text, cause, rfl, laid, refused⟩
      · exact .inl ⟨⟨d, step, laid⟩, invalid⟩
      · exact .inr ⟨s :: earlier, t, later, text, cause, rfl, ⟨d, step, laid⟩, refused⟩
    rw [layAll] at h
    cases value : env s.name with
    | none =>
      rw [value] at h
      exact later (by rw [value]; rfl) h
    | some text =>
      simp only [value] at h
      cases laid : s.lay text c with
      | ok d =>
        rw [laid] at h
        exact later (by rw [value]; exact laid) h
      | error cause =>
        rw [laid] at h
        obtain ⟨rfl, refused⟩ := Prod.mk.inj h
        obtain rfl := Except.error.inj refused
        exact .inr ⟨[], s, rest, text, cause, rfl, rfl, value, laid, rfl⟩

theorem laid_of_absent {listed : List Setting} (h : ∀ s ∈ listed, env s.name = none) :
    Laid env listed c c := by
  induction listed with
  | nil => rfl
  | cons s rest ih =>
    refine ⟨c, ?_, ih fun t ht => h t (List.mem_cons_of_mem s ht)⟩
    rw [h s List.mem_cons_self]
    rfl

theorem Laid.append {earlier later : List Setting} {d : Config} (h : Laid env earlier c d)
    (h' : Laid env later d c') : Laid env (earlier ++ later) c c' := by
  induction earlier generalizing c with
  | nil => exact (show d = c from h) ▸ h'
  | cons s rest ih =>
    obtain ⟨d', step, h⟩ := h
    exact ⟨d', step, ih h⟩

theorem Laid.congr {other : Environment} {listed : List Setting}
    (same : ∀ s ∈ listed, other s.name = env s.name) (h : Laid env listed c c') :
    Laid other listed c c' := by
  induction listed generalizing c with
  | nil => exact h
  | cons s rest ih =>
    obtain ⟨d, step, h⟩ := h
    refine ⟨d, same s List.mem_cons_self ▸ step, ih (fun t ht => ?_) h⟩
    exact same t (List.mem_cons_of_mem s ht)

/-- Laying over the first settings is laying over all in an environment that has no others. -/
theorem Laid.only {earlier later : List Setting}
    (distinct : ((earlier ++ later).map Setting.name).Nodup) (h : Laid env earlier c c') :
    Laid (env.only earlier) (earlier ++ later) c c' := by
  refine (h.congr fun s hs => ?_).append (laid_of_absent fun s hs => ?_)
  · exact if_pos (List.mem_map_of_mem hs)
  · rw [List.map_append, List.nodup_append] at distinct
    exact if_neg fun listed => distinct.2.2 _ listed _ (List.mem_map_of_mem hs) rfl

/-! ## All four settings -/

theorem lays_iff {α : Type} {s : Setting} {read : String → Except ConfigCause α}
    (field : Config → α) (put : Config → α → Config)
    (reads : ∀ text c, s.lay text c = (do return put c (← read text)))
    (kept : ∀ c, put c (field c) = c) {value : Option String} {d : Config} :
    s.Lays value c d ↔ ∃ a, Overrides read value (field c) a ∧ d = put c a := by
  cases value with
  | none => simp [Setting.Lays, Overrides, kept]
  | some text =>
    simp only [Setting.Lays, Overrides, reads, bind_eq_ok, pure_eq_ok]
    exact exists_congr fun a => and_congr_right fun _ => eq_comm

/-- The four settings, laid over one after the other, override one field each. -/
theorem laid_settings_iff : Laid env settings c c' ↔ Overlaid env c c' := by
  have alignment {c d : Config} {value : Option String} : alignmentSetting.Lays value c d ↔ _ :=
    lays_iff alignment (fun c a => { c with alignment := a })
      (fun _ _ => rfl) (fun _ => rfl)
  have limit {c d : Config} {value : Option String} : limitSetting.Lays value c d ↔ _ :=
    lays_iff maxAllocation (fun c a => { c with maxAllocation := a })
      (fun _ _ => rfl) (fun _ => rfl)
  have format {c d : Config} {value : Option String} : formatSetting.Lays value c d ↔ _ :=
    lays_iff format (fun c a => { c with format := a })
      (fun _ _ => rfl) (fun _ => rfl)
  have readOnly {c d : Config} {value : Option String} : readOnlySetting.Lays value c d ↔ _ :=
    lays_iff readOnlyExports (fun c a => { c with readOnlyExports := a })
      (fun _ _ => rfl) (fun _ => rfl)
  simp only [settings, Laid, alignment, limit, format, readOnly]
  constructor
  case mp =>
    rintro ⟨_, ⟨a, ha, rfl⟩, _, ⟨m, hm, rfl⟩, _, ⟨f, hf, rfl⟩, _, ⟨r, hr, rfl⟩, rfl⟩
    exact ⟨ha, hm, hf, hr⟩
  case mpr =>
    rintro ⟨ha, hm, hf, hr⟩
    exact ⟨_, ⟨_, ha, rfl⟩, _, ⟨_, hm, rfl⟩, _, ⟨_, hf, rfl⟩, _, ⟨_, hr, rfl⟩, rfl⟩

theorem settings_distinct : (settings.map Setting.name).Nodup := by
  decide

theorem applyEnvironment_eq_ok_iff :
    c.applyEnvironment env = (c', .ok ()) ↔ Overlaid env c c' ∧ c'.validate = .ok () := by
  rw [applyEnvironment, layAll_eq_ok_iff, laid_settings_iff]

/-! ## What laying over comes to -/

/-- What laying an environment over `c` comes to: the configuration reached, and how it ended. -/
structure Applied (env : Environment) (c c' : Config) (result : Except Error Unit) : Prop where
  /-- It succeeds exactly if all settings are laid over and the outcome is valid. -/
  complete : result = .ok () ↔ Overlaid env c c' ∧ c'.validate = .ok ()
  /-- It is not refused where the whole environment makes a valid configuration. -/
  reached : ∀ d, Overlaid env c d → d.validate = .ok () → c' = d
  /-- If it fails, then either all settings are laid over and the outcome is not valid, or those
  before the first that is refused are laid over, and nothing else. -/
  partway : ∀ e, result = .error e → (Overlaid env c c' ∧ c'.validate = .error e) ∨
    ∃ s cause, RefusedAt env c c' s cause ∧ e = .config cause

/-- Laying an environment over a configuration is complete, or stops partway and keeps what was
laid over. -/
theorem applied_applyEnvironment (c : Config) (env : Environment) :
    Applied env c (c.applyEnvironment env).1 (c.applyEnvironment env).2 := by
  constructor
  case complete =>
    rw [← applyEnvironment_eq_ok_iff, Prod.ext_iff]
    exact ⟨fun ok => ⟨rfl, ok⟩, And.right⟩
  case reached =>
    exact fun d laid valid => congrArg Prod.fst (applyEnvironment_eq_ok_iff.mpr ⟨laid, valid⟩)
  case partway =>
    intro e failed
    have ended : layAll env settings c = ((c.applyEnvironment env).1, .error e) :=
      Prod.ext rfl failed
    rcases layAll_eq_error ended with ⟨laid, invalid⟩ |
        ⟨earlier, s, later, text, cause, all, laid, value, refused, rfl⟩
    · exact .inl ⟨laid_settings_iff.mp laid, invalid⟩
    · have only := Laid.only (all ▸ settings_distinct) laid
      rw [← all] at only
      exact .inr ⟨s, cause,
        ⟨⟨text, value, refused⟩, earlier, later, all, laid_settings_iff.mp only⟩, rfl⟩

/-- An alignment that can be read, and a truth value that cannot. -/
def halfReadable : Environment := fun name =>
  if name = "HANDOFF_ALIGNMENT" then some "128"
  else if name = "HANDOFF_READ_ONLY" then some "maybe"
  else none

/-- The environment is refused, and the alignment is another than before. -/
theorem applyEnvironment_halfReadable :
    (default.applyEnvironment halfReadable).2 =
        .error (.config (.badFlag "HANDOFF_READ_ONLY" "maybe")) ∧
      (default.applyEnvironment halfReadable).1 = { default with alignment := 128 } ∧
        (default.applyEnvironment halfReadable).1 ≠ default :=
  ⟨rfl, rfl, by decide +kernel⟩

end TensorExchange.Config
