import VmDeploy.Config
import VmDeploy.Proofs.Id.Uuid
import VmDeploy.Proofs.Instance.Jobs
import VmDeploy.Proofs.Text.Decimal

/-!
# Settings and their variables

Every setting has a variable of its own. A text in it says what the setting is (`Setting.Says`), and
without a text there is a default. Settings are accepted exactly if no variable holds a text that
says nothing, and then they are the ones that take each value from its own variable. Otherwise the
first offending variable, in the order in which they are read, is named (`Config.IsReading`).

A text in one of the three variables that are no number and no UUID always says something, so these
are not in the order.

That the polling interval is at least a millisecond is all that a wait for jobs asks of it, so with
accepted settings no wait is refused, whatever its window.
-/

set_option autoImplicit false

namespace VmDeploy

/-- A setting. -/
inductive Setting where
  | dataDir | logLevel | cpiPath | directorUuid | jobsPollInterval | agentWaitTimeout
  | agentPollDelay | deletePingTimeout | deletePingDelay | tunnelDialMaxTries | tunnelDialDelay
  | agentTaskPollDelay

namespace Setting

/-- The name of the variable that holds a setting. -/
def key : Setting → String
  | .dataDir => "DIRBOOT_DATA_DIR"
  | .logLevel => "DIRBOOT_LOG_LEVEL"
  | .cpiPath => "DIRBOOT_CPI_PATH"
  | .directorUuid => "DIRBOOT_DIRECTOR_UUID"
  | .jobsPollInterval => "DIRBOOT_JOBS_POLL_INTERVAL_MS"
  | .agentWaitTimeout => "DIRBOOT_AGENT_WAIT_TIMEOUT_MS"
  | .agentPollDelay => "DIRBOOT_AGENT_POLL_DELAY_MS"
  | .deletePingTimeout => "DIRBOOT_DELETE_PING_TIMEOUT_MS"
  | .deletePingDelay => "DIRBOOT_DELETE_PING_DELAY_MS"
  | .tunnelDialMaxTries => "DIRBOOT_TUNNEL_DIAL_MAX_TRIES"
  | .tunnelDialDelay => "DIRBOOT_TUNNEL_DIAL_DELAY_MS"
  | .agentTaskPollDelay => "DIRBOOT_AGENT_TASK_POLL_DELAY_MS"

/-- What kind of value a setting has. -/
abbrev Value : Setting → Type
  | .dataDir | .logLevel => String
  | .cpiPath => Option String
  | .directorUuid => Option Uuid
  | .tunnelDialMaxTries => UInt32
  | .jobsPollInterval | .agentWaitTimeout | .agentPollDelay | .deletePingTimeout
  | .deletePingDelay | .tunnelDialDelay | .agentTaskPollDelay => Duration

/-- A setting among all. -/
def value (c : Config) : (s : Setting) → s.Value
  | .dataDir => c.dataDir
  | .logLevel => c.logLevel
  | .cpiPath => c.cpiPath
  | .directorUuid => c.directorUuid
  | .jobsPollInterval => c.jobsPollInterval
  | .agentWaitTimeout => c.agentWaitTimeout
  | .agentPollDelay => c.agentPollDelay
  | .deletePingTimeout => c.deletePingTimeout
  | .deletePingDelay => c.deletePingDelay
  | .tunnelDialMaxTries => c.tunnelDialMaxTries
  | .tunnelDialDelay => c.tunnelDialDelay
  | .agentTaskPollDelay => c.agentTaskPollDelay

/-- A text says a number that fits, blanks around it apart. -/
def SaysNumber (bound : Nat) (text : String) (n : Nat) : Prop :=
  Text.Decimal.Spells (Text.trim text.toList) n ∧ n < bound

/-- A text says a span, in milliseconds. -/
def SaysSpan (text : String) (span : Duration) : Prop :=
  ∃ n, SaysNumber UInt64.size text n ∧ span = .ofMillis n

/-- A text says what a setting is. -/
def Says : (s : Setting) → (text : String) → s.Value → Prop
  | .dataDir, text, (dir : String) => dir = text
  | .logLevel, text, (level : String) => level = text
  | .cpiPath, text, (path : Option String) => path = some text
  | .directorUuid, text, (id : Option Uuid) => ∃ uuid, id = some uuid ∧ Uuid.Spells text uuid
  | .jobsPollInterval, text, (span : Duration) => SaysSpan text span ∧ span ≠ .zero
  | .tunnelDialMaxTries, text, (tries : UInt32) => SaysNumber UInt32.size text tries.toNat
  | .agentWaitTimeout, text, span | .agentPollDelay, text, span | .deletePingTimeout, text, span
  | .deletePingDelay, text, span | .tunnelDialDelay, text, span
  | .agentTaskPollDelay, text, span => SaysSpan text span

/-- What texts say of a value, or a default where there is no text. -/
def Takes {α : Type} (means : String → α → Prop) (absent : α) : Option String → α → Prop
  | none, v => v = absent
  | some text, v => means text v

/-- A setting is what its variable says, or its default. -/
def IsTaken (lookup : Config.Variables) (s : Setting) (v : s.Value) : Prop :=
  Takes s.Says (s.value {}) (lookup s.key) v

/-- A variable holds a text that says nothing. -/
def Offends (lookup : Config.Variables) (s : Setting) : Prop :=
  ∃ text, lookup s.key = some text ∧ ∀ v, ¬ s.Says text v

/-- The order in which variables are read that may offend. -/
def order : List Setting :=
  [.directorUuid, .jobsPollInterval, .agentWaitTimeout, .agentPollDelay, .deletePingTimeout,
    .deletePingDelay, .tunnelDialMaxTries, .tunnelDialDelay, .agentTaskPollDelay]

/-- The first of some variables that offends. -/
def OffendsFirst (lookup : Config.Variables) (settings : List Setting) (s : Setting) : Prop :=
  ∃ before after, settings = before ++ s :: after ∧ s.Offends lookup ∧
    ∀ earlier ∈ before, ¬ earlier.Offends lookup

end Setting

/-- An error is about a variable: its wording begins with the name. -/
def ConfigError.Names (e : ConfigError) (key : String) : Prop :=
  ∃ rest, e.message = "Invalid " ++ key ++ rest ∨ e.message = "Invalid value for " ++ key ++ rest

/-- A wait for jobs is refused, because they were to be looked at more than once in a
millisecond. -/
def Failure.IsRefusal (f : Failure) : Prop :=
  ∃ name interval, f = .context name
    (.plain s!"Job poll interval must be at least 1ms, got {Duration.text interval}")

/-- How settings are read from variables. -/
structure Config.IsReading (lookup : Config.Variables) (r : Except ConfigError Config) : Prop where
  /-- Settings are accepted exactly if no variable offends. -/
  accepted_iff : r.isOk = true ↔ ∀ s : Setting, ¬ s.Offends lookup
  /-- Those are accepted that take every value from its own variable. -/
  eq_ok_iff : ∀ c, r = .ok c ↔ ∀ s : Setting, s.IsTaken lookup (s.value c)
  /-- A value depends on no other variable. -/
  own : ∀ c, r = .ok c → ∀ lookup' c', Config.ofLookup lookup' = .ok c' →
    ∀ s : Setting, lookup' s.key = lookup s.key → s.value c' = s.value c
  /-- The first offending variable is named. -/
  names : ∀ e, r = .error e →
    ∃ s : Setting, s.OffendsFirst lookup Setting.order ∧ e.Names s.key
  /-- With accepted settings the jobs can be looked at, some number of times. -/
  watches : ∀ c, r = .ok c → ∀ watch : WatchTime,
    ∃ looks, watchAttempts watch c.instanceSettings.jobsPollInterval = .ok looks
  /-- A wait for the jobs may fail, but it is not refused. -/
  unrefused : ∀ c, r = .ok c → ∀ (i : Instance) (vm : AgentVm) (watch : WatchTime),
    i.settings = c.instanceSettings → i.vm = .ofAgent vm →
      ∀ {σ : Type} (env : Environment services σ) (s : σ) (ms : List (Moment services σ))
        (f : Failure) (s' : σ), Action.Runs env (i.waitForJobs watch) s ms (.error f) s' →
          ¬ f.IsRefusal

/-! ## Single variables -/

/-- A variable is read as what its text means or its default, and an error names it. -/
structure ReadsAs {α : Type} (key : String) (means : String → α → Prop) (absent : α)
    (held : Option String) (r : Except ConfigError α) : Prop where
  eq_ok_iff : ∀ v, r = .ok v ↔ Setting.Takes means absent held v
  names : ∀ e, r = .error e → e.Names key

theorem names_invalidNumber (key value : String) (fault : Text.Decimal.Fault) :
    (ConfigError.invalidNumber key value fault).Names key := by
  refine ⟨": '" ++ value ++ "'", .inr ?_⟩
  show "Invalid value for " ++ key ++ ": '" ++ value ++ "'" = _
  simp only [String.append_assoc]

theorem names_invalidUuid (value : String) :
    (ConfigError.invalidUuid value).Names "DIRBOOT_DIRECTOR_UUID" := by
  refine ⟨" '" ++ value ++ "'", .inl ?_⟩
  show "Invalid DIRBOOT_DIRECTOR_UUID '" ++ value ++ "'" = _
  simp only [← String.append_assoc]
  rfl

theorem names_zeroPollInterval :
    ConfigError.zeroPollInterval.Names "DIRBOOT_JOBS_POLL_INTERVAL_MS" :=
  ⟨": must be at least 1", .inr (by decide)⟩

section

variable {α : Type} {lookup : Config.Variables} {key : String} {bound : Nat} {absent : α}

/-- What is no number that fits is reported with the name of its variable. -/
theorem readsAs_number (positive : 0 < bound) (f : Nat → α) :
    ReadsAs key (fun text v => ∃ n, Setting.SaysNumber bound text n ∧ v = f n) absent (lookup key)
      (do return ((← Config.number? lookup bound key).map f).getD absent) := by
  unfold Config.number?
  cases held : lookup key with
  | none =>
    exact ⟨fun v => by simp [Setting.Takes, pure, Except.pure, bind, Except.bind, eq_comm], nofun⟩
  | some text =>
    dsimp only
    cases read : Text.Decimal.readUnsigned bound (Text.trim text.toList) with
    | ok n =>
      have said := (Text.Decimal.readUnsigned_eq_ok_iff positive).mp read
      refine ⟨fun v => ?_, nofun⟩
      constructor
      · intro same
        cases same
        exact ⟨n, said, rfl⟩
      · rintro ⟨m, ⟨spells, -⟩, rfl⟩
        rw [spells.unique said.1]
        rfl
    | error fault =>
      refine ⟨fun v => iff_of_false nofun ?_, ?_⟩
      · rintro ⟨n, said, -⟩
        cases read.symm.trans ((Text.Decimal.readUnsigned_eq_ok_iff positive).mpr said)
      · intro e same
        cases same
        exact names_invalidNumber key text fault

theorem readsAs_millis {absent : Duration} :
    ReadsAs key Setting.SaysSpan absent (lookup key) (Config.millis lookup key absent) :=
  readsAs_number (by decide) Duration.ofMillis

/-- A value that is refused was said by no text, if it is not the default. -/
theorem ReadsAs.refused {α : Type} [DecidableEq α] {key : String} {means : String → α → Prop}
    {absent bad : α} {held : Option String} {r : Except ConfigError α} {e : ConfigError}
    (reads : ReadsAs key means absent held r) (good : absent ≠ bad) (names : e.Names key) :
    ReadsAs key (fun text v => means text v ∧ v ≠ bad) absent held (do
      let v ← r
      if v = bad then throw e
      return v) where
  eq_ok_iff v := by
    have both : Setting.Takes (fun text v => means text v ∧ v ≠ bad) absent held v ↔
        Setting.Takes means absent held v ∧ v ≠ bad := by
      cases held with
      | none => exact ⟨fun default => ⟨default, default ▸ good⟩, And.left⟩
      | some text => exact .rfl
    rw [both, ← reads.eq_ok_iff, Result.bind_eq_ok]
    constructor
    · rintro ⟨w, read, kept⟩
      split at kept
      · cases kept
      · rename_i other
        cases kept
        exact ⟨read, other⟩
    · rintro ⟨read, other⟩
      exact ⟨v, read, if_neg other⟩
  names e' failed := by
    cases r with
    | error _ =>
      cases failed
      exact reads.names _ rfl
    | ok w =>
      change (if w = bad then _ else _) = _ at failed
      split at failed
      · cases failed
        exact names
      · cases failed

theorem readsAs_text {absent : String} :
    ReadsAs key (fun text v => v = text) absent (lookup key) (.ok ((lookup key).getD absent)) := by
  refine ⟨fun v => ?_, nofun⟩
  cases lookup key <;> simp [Setting.Takes, eq_comm]

theorem readsAs_path :
    ReadsAs key (fun text v => v = some text) none (lookup key) (.ok (lookup key)) := by
  refine ⟨fun v => ?_, nofun⟩
  cases lookup key <;> simp [Setting.Takes, eq_comm]

theorem readsAs_uuid :
    ReadsAs "DIRBOOT_DIRECTOR_UUID" (fun text id => ∃ uuid, id = some uuid ∧ Uuid.Spells text uuid)
      none (lookup "DIRBOOT_DIRECTOR_UUID") (Config.uuid? lookup) := by
  unfold Config.uuid?
  cases lookup "DIRBOOT_DIRECTOR_UUID" with
  | none => exact ⟨fun v => by simp [Setting.Takes, eq_comm], nofun⟩
  | some text =>
    dsimp only
    simp only [← Uuid.parse_eq_some_iff]
    cases read : Uuid.parse text with
    | some id =>
      refine ⟨fun v => ?_, nofun⟩
      simp [Setting.Takes, read, eq_comm]
    | none =>
      refine ⟨fun v => iff_of_false nofun ?_, ?_⟩
      · rintro ⟨id, -, same⟩
        cases read.symm.trans same
      · intro e same
        cases same
        exact names_invalidUuid text

end

namespace Setting

/-- Reads a setting. -/
def read (lookup : Config.Variables) : (s : Setting) → Except ConfigError s.Value
  | .dataDir => .ok ((lookup "DIRBOOT_DATA_DIR").getD ({} : Config).dataDir)
  | .logLevel => .ok ((lookup "DIRBOOT_LOG_LEVEL").getD ({} : Config).logLevel)
  | .cpiPath => .ok (lookup "DIRBOOT_CPI_PATH")
  | .directorUuid => Config.uuid? lookup
  | .jobsPollInterval => do
    let interval ←
      Config.millis lookup "DIRBOOT_JOBS_POLL_INTERVAL_MS" ({} : Config).jobsPollInterval
    if interval = .zero then throw .zeroPollInterval
    return interval
  | .agentWaitTimeout =>
    Config.millis lookup "DIRBOOT_AGENT_WAIT_TIMEOUT_MS" ({} : Config).agentWaitTimeout
  | .agentPollDelay =>
    Config.millis lookup "DIRBOOT_AGENT_POLL_DELAY_MS" ({} : Config).agentPollDelay
  | .deletePingTimeout =>
    Config.millis lookup "DIRBOOT_DELETE_PING_TIMEOUT_MS" ({} : Config).deletePingTimeout
  | .deletePingDelay =>
    Config.millis lookup "DIRBOOT_DELETE_PING_DELAY_MS" ({} : Config).deletePingDelay
  | .tunnelDialMaxTries => do
    let tries ← Config.number? lookup UInt32.size "DIRBOOT_TUNNEL_DIAL_MAX_TRIES"
    return (tries.map UInt32.ofNat).getD ({} : Config).tunnelDialMaxTries
  | .tunnelDialDelay =>
    Config.millis lookup "DIRBOOT_TUNNEL_DIAL_DELAY_MS" ({} : Config).tunnelDialDelay
  | .agentTaskPollDelay =>
    Config.millis lookup "DIRBOOT_AGENT_TASK_POLL_DELAY_MS" ({} : Config).agentTaskPollDelay

theorem read_readsAs (lookup : Config.Variables) (s : Setting) :
    ReadsAs s.key s.Says (s.value {}) (lookup s.key) (s.read lookup) := by
  cases s with
  | dataDir | logLevel => exact readsAs_text
  | cpiPath => exact readsAs_path
  | directorUuid => exact readsAs_uuid
  | jobsPollInterval =>
    have default : ({} : Config).jobsPollInterval ≠ .zero := by decide
    exact readsAs_millis.refused default names_zeroPollInterval
  | tunnelDialMaxTries =>
    have means : Says .tunnelDialMaxTries
        = fun text tries => ∃ n, SaysNumber UInt32.size text n ∧ tries = UInt32.ofNat n := by
      funext text tries
      refine propext ⟨fun said => ⟨tries.toNat, said, UInt32.ofNat_toNat.symm⟩, ?_⟩
      rintro ⟨n, said, rfl⟩
      show SaysNumber UInt32.size text (UInt32.ofNat n).toNat
      rwa [UInt32.toNat_ofNat_of_lt' said.2]
    rw [means]
    exact readsAs_number (by decide) UInt32.ofNat
  | _ => exact readsAs_millis

variable {lookup lookup' : Config.Variables} {s : Setting} {v w : s.Value}

theorem read_eq_ok_iff : s.read lookup = .ok v ↔ s.IsTaken lookup v :=
  (read_readsAs lookup s).eq_ok_iff v

theorem IsTaken.unique (taken : s.IsTaken lookup v) (taken' : s.IsTaken lookup w) : v = w :=
  Except.ok.inj ((read_eq_ok_iff.mpr taken).symm.trans (read_eq_ok_iff.mpr taken'))

theorem IsTaken.not_offends (taken : s.IsTaken lookup v) : ¬ s.Offends lookup := by
  rintro ⟨text, held, silent⟩
  unfold IsTaken at taken
  rw [held] at taken
  exact silent v taken

/-- A variable that cannot be read offends. -/
theorem offends_of_read {e : ConfigError} (failed : s.read lookup = .error e) :
    s.Offends lookup := by
  have silent : ∀ v, ¬ s.IsTaken lookup v := by
    intro v taken
    cases (read_eq_ok_iff.mpr taken).symm.trans failed
  unfold IsTaken at silent
  cases held : lookup s.key with
  | none =>
    rw [held] at silent
    exact absurd rfl (silent _)
  | some text =>
    rw [held] at silent
    exact ⟨text, held, silent⟩

/-- The values of all settings are all there is to know of them. -/
theorem value_injective {c c' : Config} (same : ∀ s : Setting, s.value c = s.value c') :
    c = c' := by
  cases c
  cases c'
  congr
  · exact same .dataDir
  · exact same .logLevel
  · exact same .cpiPath
  · exact same .directorUuid
  · exact same .agentWaitTimeout
  · exact same .agentPollDelay
  · exact same .deletePingTimeout
  · exact same .deletePingDelay
  · exact same .jobsPollInterval
  · exact same .tunnelDialMaxTries
  · exact same .tunnelDialDelay
  · exact same .agentTaskPollDelay

end Setting

/-! ## All variables -/

namespace Config

variable {lookup : Variables} {settings : List Setting} {s : Setting}
  {r : Except ConfigError Config} {c : Config} {e : ConfigError}

/-- Settings are read one after the other, up to the first that cannot be read. -/
inductive Course (lookup : Variables) : List Setting → Except ConfigError Config → Prop
  | done {c : Config} (taken : ∀ s : Setting, s.IsTaken lookup (s.value c)) :
    Course lookup [] (.ok c)
  | failed {s : Setting} {settings : List Setting} {e : ConfigError} (offends : s.Offends lookup)
      (names : e.Names s.key) : Course lookup (s :: settings) (.error e)
  | next {s : Setting} {settings : List Setting} {r : Except ConfigError Config} {v : s.Value}
      (taken : s.IsTaken lookup v) (later : Course lookup settings r) :
      Course lookup (s :: settings) r

/-- One setting is read before the others. -/
theorem Course.bind {f : s.Value → Except ConfigError Config}
    (later : ∀ v, s.IsTaken lookup v → Course lookup settings (f v)) :
    Course lookup (s :: settings) (s.read lookup >>= f) := by
  cases read : s.read lookup with
  | error e => exact .failed (Setting.offends_of_read read) ((s.read_readsAs lookup).names e read)
  | ok v =>
    have taken := Setting.read_eq_ok_iff.mp read
    exact .next taken (later v taken)

theorem Course.taken (course : Course lookup settings (.ok c)) :
    ∀ s : Setting, s.IsTaken lookup (s.value c) := by
  generalize here : (.ok c : Except ConfigError Config) = r at course
  induction course with
  | done taken =>
    cases here
    exact taken
  | failed => cases here
  | next _ _ ih => exact ih here

theorem Course.offendsFirst (course : Course lookup settings (.error e)) :
    ∃ s : Setting, s.OffendsFirst lookup settings ∧ e.Names s.key := by
  generalize here : (.error e : Except ConfigError Config) = r at course
  induction course with
  | done => cases here
  | failed offends names =>
    cases here
    exact ⟨_, ⟨[], _, rfl, offends, nofun⟩, names⟩
  | next taken _ ih =>
    obtain ⟨s, ⟨before, after, rfl, offends, innocent⟩, names⟩ := ih here
    exact ⟨s, ⟨_ :: before, after, rfl, offends,
      List.forall_mem_cons.mpr ⟨taken.not_offends, innocent⟩⟩, names⟩

/-- Settings are read as each of them is. -/
theorem ofLookup_eq (lookup : Variables) : ofLookup lookup = (do
    let directorUuid ← Setting.read lookup .directorUuid
    let jobsPollInterval ← Setting.read lookup .jobsPollInterval
    let agentWaitTimeout ← Setting.read lookup .agentWaitTimeout
    let agentPollDelay ← Setting.read lookup .agentPollDelay
    let deletePingTimeout ← Setting.read lookup .deletePingTimeout
    let deletePingDelay ← Setting.read lookup .deletePingDelay
    let tunnelDialMaxTries ← Setting.read lookup .tunnelDialMaxTries
    let tunnelDialDelay ← Setting.read lookup .tunnelDialDelay
    let agentTaskPollDelay ← Setting.read lookup .agentTaskPollDelay
    return {
      dataDir := (lookup "DIRBOOT_DATA_DIR").getD ({} : Config).dataDir
      logLevel := (lookup "DIRBOOT_LOG_LEVEL").getD ({} : Config).logLevel
      cpiPath := lookup "DIRBOOT_CPI_PATH"
      directorUuid, agentWaitTimeout, agentPollDelay, deletePingTimeout, deletePingDelay
      jobsPollInterval, tunnelDialMaxTries, tunnelDialDelay, agentTaskPollDelay }) := by
  refine congrArg (uuid? lookup >>= ·) (funext fun directorUuid => ?_)
  unfold Setting.read
  rw [bind_assoc]
  refine congrArg (_ >>= ·) (funext fun interval => ?_)
  split
  · rfl
  · simp only [bind_assoc, pure_bind]

theorem ofLookup_course (lookup : Variables) : Course lookup Setting.order (ofLookup lookup) := by
  rw [ofLookup_eq]
  refine .bind fun directorUuid takenUuid => ?_
  refine .bind fun jobsPollInterval takenInterval => ?_
  refine .bind fun agentWaitTimeout takenTimeout => ?_
  refine .bind fun agentPollDelay takenDelay => ?_
  refine .bind fun deletePingTimeout takenPingTimeout => ?_
  refine .bind fun deletePingDelay takenPingDelay => ?_
  refine .bind fun tunnelDialMaxTries takenTries => ?_
  refine .bind fun tunnelDialDelay takenDialDelay => ?_
  refine .bind fun agentTaskPollDelay takenTaskDelay => ?_
  refine .done fun s => ?_
  cases s with
  | dataDir | logLevel | cpiPath => exact Setting.read_eq_ok_iff.mp rfl
  | _ => assumption

/-- Settings are accepted exactly if they take every value from its own variable. -/
theorem ofLookup_eq_ok_iff :
    ofLookup lookup = .ok c ↔ ∀ s : Setting, s.IsTaken lookup (s.value c) := by
  have course := ofLookup_course lookup
  constructor
  · intro accepted
    rw [accepted] at course
    exact course.taken
  · intro taken
    cases read : ofLookup lookup with
    | ok c' =>
      rw [read] at course
      rw [Setting.value_injective fun s => (course.taken s).unique (taken s)]
    | error e =>
      rw [read] at course
      obtain ⟨s, ⟨_, _, _, offends, _⟩, _⟩ := course.offendsFirst
      exact absurd offends (taken s).not_offends

theorem isOk_ofLookup_iff :
    (ofLookup lookup).isOk = true ↔ ∀ s : Setting, ¬ s.Offends lookup := by
  have course := ofLookup_course lookup
  cases read : ofLookup lookup with
  | ok c => exact iff_of_true rfl fun s => (ofLookup_eq_ok_iff.mp read s).not_offends
  | error e =>
    rw [read] at course
    obtain ⟨s, ⟨_, _, _, offends, _⟩, _⟩ := course.offendsFirst
    exact iff_of_false nofun fun innocent => innocent s offends

/-! ## Waits -/

/-- An accepted polling interval has a whole millisecond. -/
theorem pollInterval_of_ofLookup (accepted : ofLookup lookup = .ok c) :
    c.jobsPollInterval.toMillis ≠ 0 := by
  have taken := ofLookup_eq_ok_iff.mp accepted .jobsPollInterval
  unfold Setting.IsTaken at taken
  change Setting.Takes _ _ _ c.jobsPollInterval at taken
  generalize c.jobsPollInterval = interval at taken ⊢
  cases held : lookup (Setting.key .jobsPollInterval) with
  | none =>
    rw [held] at taken
    rw [show interval = .ofMillis 1000 from taken]
    decide
  | some text =>
    rw [held] at taken
    obtain ⟨⟨n, -, rfl⟩, positive⟩ := taken
    rw [Duration.toMillis_ofMillis]
    rintro rfl
    exact positive rfl

end Config

/-- Jobs that are looked at every so many milliseconds can be watched. -/
theorem watchAttempts_of_toMillis (watch : WatchTime) {interval : Duration}
    (positive : interval.toMillis ≠ 0) : ∃ looks, watchAttempts watch interval = .ok looks :=
  ⟨_, if_neg positive⟩

/-- A wait for jobs that gets to look at them fails with the last of the looks. -/
theorem Instance.failed_of_waitForJobs {σ : Type} {env : Environment services σ} {i : Instance}
    {vm : AgentVm} {watch : WatchTime} {looks : UInt32} {s s' : σ}
    {ms : List (Moment services σ)} {f : Failure} (driven : i.vm = .ofAgent vm)
    (counted : watchAttempts watch i.settings.jobsPollInterval = .ok looks)
    (run : Action.Runs env (i.waitForJobs watch) s ms (.error f) s') :
    ∃ e : RetryError Failure, f = .context "Waiting for jobs to be running" (.ofRetry e) := by
  unfold waitForJobs at run
  rw [counted] at run
  obtain ⟨_, _, _, _, ran⟩ := Action.runs_step_iff.mp run
  rcases Action.runs_bind_iff.mp ran with ⟨_, _, sleeps⟩ | ⟨_, _, _, _, _, _, waits⟩
  · obtain ⟨_, failed, _⟩ := Action.runs_lift_iff.mp sleeps
    cases failed
  · rw [driven] at waits
    obtain ⟨r, told, tries⟩ := Action.runs_inContext_iff.mp waits
    obtain ⟨answer, rfl, _⟩ := Action.runs_ofResult_iff.mp tries
    cases answer with
    | ok _ => cases told
    | error e =>
      cases told
      exact ⟨e, rfl⟩

/-- Settings are read from their variables, or the first variable that offends is named. -/
theorem Config.isReading_ofLookup (lookup : Variables) : IsReading lookup (ofLookup lookup) where
  accepted_iff := isOk_ofLookup_iff
  eq_ok_iff _ := ofLookup_eq_ok_iff
  own c accepted lookup' c' accepted' s same := by
    have taken := ofLookup_eq_ok_iff.mp accepted s
    have taken' := ofLookup_eq_ok_iff.mp accepted' s
    unfold Setting.IsTaken at taken'
    rw [same] at taken'
    exact Setting.IsTaken.unique taken' taken
  names e refused := by
    have course := ofLookup_course lookup
    rw [refused] at course
    exact course.offendsFirst
  watches c accepted watch := watchAttempts_of_toMillis watch (pollInterval_of_ofLookup accepted)
  unrefused c accepted i vm watch settings driven σ env s ms f s' run := by
    have positive := pollInterval_of_ofLookup accepted
    obtain ⟨looks, counted⟩ := watchAttempts_of_toMillis watch positive
    have counted : watchAttempts watch i.settings.jobsPollInterval = .ok looks := by
      rw [settings]
      exact counted
    obtain ⟨e, rfl⟩ := Instance.failed_of_waitForJobs driven counted run
    rintro ⟨name, interval, refused⟩
    cases refused

end VmDeploy
