import DecompileServer.Proofs.Settings

/-!
# What the environment overrides

The environment is applied to a configuration in place: first the programs that it names, then the
port. Whether or not that succeeds, a valid configuration stays valid and nothing else changes
(`override_settles`). It fails only over the port, which is kept then; the programs have been replaced
by that time, so a fault can leave another configuration than before (`fault_leaves_programs`).
-/
namespace DecompileServer.Config

variable {config : Config} {valueOf : String → Option String} {name text : String}

/-- Whether a variable is set to a value that shows something. -/
def IsSet (valueOf : String → Option String) (name value : String) : Prop :=
  valueOf name = some value ∧ Text.isBlankText value = false

/-- The settings are the variables that are set. -/
theorem setting?_eq_some_iff : setting? valueOf name = some text ↔ IsSet valueOf name text := by
  simp [setting?, IsSet, Option.filter_eq_some_iff]

/-- There is no setting exactly if the variable is not set. -/
theorem setting?_eq_none_iff :
    setting? valueOf name = none ↔ ¬∃ value, IsSet valueOf name value := by
  rw [Option.eq_none_iff_forall_ne_some, not_exists]
  exact forall_congr' fun value => not_congr setting?_eq_some_iff

/-- The port of the environment is the one that its variable writes. -/
theorem environmentPort?_eq_some_iff {port : UInt16} : environmentPort? valueOf = some port ↔
    ∃ text, IsSet valueOf portVariable text ∧ WritesPort (Text.trim text) port := by
  simp only [environmentPort?, Option.bind_eq_some_iff, setting?_eq_some_iff,
    portOfText?_eq_some_iff]

/-- A port that is given keeps a valid configuration valid. -/
theorem IsValid.withPort {port : UInt16} (valid : config.IsValid)
    (given : givenPort? text = some port) : (config.withPort port).IsValid := by
  have positive := (Option.filter_eq_some_iff.mp given).2
  exact valid.withPort_iff.mpr (by simpa using positive)

/-- What the environment makes of a configuration, the port apart: the programs that it names come
in the place of those before, and all else is kept. -/
structure Replaced (valueOf : String → Option String) (config changed : Config) : Prop where
  /-- The archive is the one that is set. -/
  archive : ∀ value, IsSet valueOf "CFR_JAR" value → changed.engine.archive = some ⟨value⟩
  /-- The archive is kept if none is set. -/
  archive_kept : (¬∃ value, IsSet valueOf "CFR_JAR" value) →
    changed.engine.archive = config.engine.archive
  /-- The virtual machine is the one that is set. -/
  machine : ∀ value, IsSet valueOf "JAVADC_JAVA" value → changed.engine.machine = value
  /-- The virtual machine is kept if none is set. -/
  machine_kept : (¬∃ value, IsSet valueOf "JAVADC_JAVA" value) →
    changed.engine.machine = config.engine.machine
  /-- Nothing else but the port may differ. -/
  rest : changed =
    { config with
      engine := { config.engine with
        archive := changed.engine.archive
        machine := changed.engine.machine }
      http := { config.http with port := changed.http.port } }

namespace Replaced

/-- Naming programs replaces them. -/
theorem withPrograms (config : Config) (valueOf : String → Option String) :
    Replaced valueOf config (config.withPrograms valueOf) where
  archive value set := by simp [Config.withPrograms, setting?_eq_some_iff.mpr set]
  archive_kept unset := by simp [Config.withPrograms, setting?_eq_none_iff.mpr unset]
  machine value set := by simp [Config.withPrograms, setting?_eq_some_iff.mpr set]
  machine_kept unset := by simp [Config.withPrograms, setting?_eq_none_iff.mpr unset]
  rest := rfl

/-- The port does not matter for what is replaced. -/
theorem withPort {changed : Config} (replaced : Replaced valueOf config changed) (port : UInt16) :
    Replaced valueOf config (changed.withPort port) where
  archive := replaced.archive
  archive_kept := replaced.archive_kept
  machine := replaced.machine
  machine_kept := replaced.machine_kept
  rest := congrArg (·.withPort port) replaced.rest

/-- With the port from before, the configuration is the same exactly if the programs that are set are
those from before. -/
theorem eq_iff {changed : Config} (replaced : Replaced valueOf config changed)
    (port : changed.http.port = config.http.port) : changed = config ↔
      (∀ value, IsSet valueOf "CFR_JAR" value → config.engine.archive = some ⟨value⟩) ∧
        ∀ value, IsSet valueOf "JAVADC_JAVA" value → config.engine.machine = value := by
  constructor
  · rintro rfl
    exact ⟨replaced.archive, replaced.machine⟩
  · rintro ⟨archive, machine⟩
    have sameArchive : changed.engine.archive = config.engine.archive := by
      by_cases set : ∃ value, IsSet valueOf "CFR_JAR" value
      · obtain ⟨value, set⟩ := set
        rw [replaced.archive value set, archive value set]
      · exact replaced.archive_kept set
    have sameMachine : changed.engine.machine = config.engine.machine := by
      by_cases set : ∃ value, IsSet valueOf "JAVADC_JAVA" value
      · obtain ⟨value, set⟩ := set
        rw [replaced.machine value set, machine value set]
      · exact replaced.machine_kept set
    rw [replaced.rest, sameArchive, sameMachine, port]

end Replaced

/-- What the environment does to a valid configuration. The configuration stays valid, and changes at
most in the archive, the virtual machine and the port, in each only if its variable is set to something
that shows. The environment succeeds exactly if the variable for the port gives one or is not set; the
port is the given one then, or is kept. A fault names the text that gives no port; it keeps the port and
replaces the programs all the same, so the configuration is the one from before exactly if the programs
that are set are those from before, as when none is. -/
theorem override_settles (config : Config) (valueOf : String → Option String)
    (valid : config.IsValid) :
    let changed := (config.override valueOf).2
    changed.IsValid ∧ Replaced valueOf config changed ∧
      ((config.override valueOf).1 = .ok () ↔
        ∀ text, IsSet valueOf portVariable text → ∃ port, givenPort? text = some port) ∧
      ((config.override valueOf).1 = .ok () →
        (∀ text, IsSet valueOf portVariable text → givenPort? text = some changed.http.port) ∧
        ((¬∃ text, IsSet valueOf portVariable text) → changed.http.port = config.http.port)) ∧
      ∀ rule, (config.override valueOf).1 = .error rule →
        (∃ text, IsSet valueOf portVariable text ∧ givenPort? text = none ∧ rule = .noPort text) ∧
        changed.http.port = config.http.port ∧
        (changed = config ↔
          (∀ value, IsSet valueOf "CFR_JAR" value → config.engine.archive = some ⟨value⟩) ∧
            ∀ value, IsSet valueOf "JAVADC_JAVA" value → config.engine.machine = value) := by
  have only : ∀ {first second}, IsSet valueOf portVariable first →
      IsSet valueOf portVariable second → first = second := fun first second =>
    Option.some.inj (first.1.symm.trans second.1)
  have programs := Replaced.withPrograms config valueOf
  have validPrograms := valid.withPrograms valueOf
  intro changed
  cases set : setting? valueOf portVariable with
  | none =>
    have unset := setting?_eq_none_iff.mp set
    have none : ∀ text, ¬IsSet valueOf portVariable text := not_exists.mp unset
    have outcome : config.override valueOf = _ := override_of_unset set
    have same : changed = config.withPrograms valueOf := congrArg Prod.snd outcome
    rw [same, outcome]
    exact ⟨validPrograms, programs, ⟨fun _ text set => absurd set (none text), fun _ => rfl⟩,
      fun _ => ⟨fun text set => absurd set (none text), fun _ => rfl⟩, nofun⟩
  | some text =>
    have shown := setting?_eq_some_iff.mp set
    cases given : givenPort? text with
    | some port =>
      have outcome : config.override valueOf = _ := override_of_given set given
      have same : changed = (config.withPrograms valueOf).withPort port :=
        congrArg Prod.snd outcome
      have gives : ∀ other, IsSet valueOf portVariable other → givenPort? other = some port := by
        intro other set
        rw [only set shown, given]
      rw [same, outcome]
      exact ⟨validPrograms.withPort given, programs.withPort port,
        ⟨fun _ other set => ⟨port, gives other set⟩, fun _ => rfl⟩,
        fun _ => ⟨gives, fun unset => absurd ⟨text, shown⟩ unset⟩, nofun⟩
    | none =>
      have outcome : config.override valueOf = _ := override_of_refused set given
      have same : changed = config.withPrograms valueOf := congrArg Prod.snd outcome
      rw [same, outcome]
      refine ⟨validPrograms, programs, ⟨nofun, fun gives => ?_⟩, nofun, ?_⟩
      · obtain ⟨port, found⟩ := gives text shown
        rw [given] at found
        cases found
      · rintro rule ⟨⟩
        exact ⟨⟨text, shown, given, rfl⟩, rfl, programs.eq_iff rfl⟩

/-- An environment that names an archive, and gives a text for the port that is none. -/
def unportedEnvironment : String → Option String :=
  fun name => [("CFR_JAR", "/e.jar"), ("PORT", "http")].lookup name

/-- An environment that names a virtual machine, and gives a port with a sign and white space. -/
def portedEnvironment : String → Option String :=
  fun name => [("JAVADC_JAVA", "/j"), ("PORT", " +8080 ")].lookup name

/-- The theorem on an environment that fails and on one that gives a port. -/
theorem override_settles_sample :
    let changed := (({} : Config).override unportedEnvironment).2
    let settled := (({} : Config).override portedEnvironment).2
    ({} : Config).IsValid ∧ changed.IsValid ∧ Replaced unportedEnvironment {} changed ∧
      (({} : Config).override unportedEnvironment).1 = .error (.noPort "http") ∧
      changed.http.port = 3000 ∧
      settled.IsValid ∧ Replaced portedEnvironment {} settled ∧
      (({} : Config).override portedEnvironment).1 = .ok () ∧
      settled.http.port = 8080 ∧ settled.engine.machine = "/j" := by
  intro changed settled
  have valid : ({} : Config).IsValid := by decide
  have fails : (({} : Config).override unportedEnvironment).1 = .error (.noPort "http") := rfl
  obtain ⟨stays, replaced, -, -, faults⟩ := override_settles {} unportedEnvironment valid
  have shown : IsSet portedEnvironment portVariable " +8080 " := ⟨rfl, by decide +kernel⟩
  have given : givenPort? " +8080 " = some 8080 :=
    givenPort?_eq_some_iff.mpr ⟨⟨['+'], ['8', '0', '8', '0'], by decide +kernel, by simp, by simp,
      by simp, by decide⟩, by decide⟩
  obtain ⟨remains, exchanged, succeeds, settles, -⟩ := override_settles {} portedEnvironment valid
  have done : (({} : Config).override portedEnvironment).1 = .ok () := by
    refine succeeds.mpr fun text set => ?_
    obtain rfl := Option.some.inj (set.1.symm.trans shown.1)
    exact ⟨8080, given⟩
  have port := Option.some.inj (((settles done).1 _ shown).symm.trans given)
  have machine := exchanged.machine "/j" ⟨rfl, by decide +kernel⟩
  exact ⟨valid, stays, replaced, fails, (faults _ fails).2.1, remains, exchanged, done, port,
    machine⟩

/-- A fault can leave another configuration than before: the archive has been replaced. -/
theorem fault_leaves_programs :
    let changed := (({} : Config).override unportedEnvironment).2
    ({} : Config).IsValid ∧
      (({} : Config).override unportedEnvironment).1 = .error (.noPort "http") ∧
      changed.engine.archive = some ⟨"/e.jar"⟩ ∧ changed ≠ {} :=
  ⟨by decide, rfl, rfl, by decide⟩

end DecompileServer.Config
