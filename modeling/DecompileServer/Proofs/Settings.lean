import DecompileServer.CommandLine.Startup
import DecompileServer.Proofs.Json.Numbers
import DecompileServer.Proofs.Json.Records
import DecompileServer.Proofs.Text.Utf8

/-!
# The settings that hold in the end

A configuration file is checked once, and the environment and the command line change it afterwards.
The environment keeps it valid; the command line does unless it asks for port zero. The port and the
archive of the external program are those of the last source that gives them.
-/
namespace DecompileServer

namespace Config

open Json (Draft Filled Governs Reader RecordField)

section Drafts

variable {draft : Draft} {config : Config}

/-- The port that the draft of a configuration gives. -/
def portOfDraft? (draft : Draft) : Option UInt16 :=
  let given := (shape.given? "http" draft).bind (httpShape.given? "port")
  (given.bind fun number => (Reader.natural UInt16.size "u16" number).toOption).map
    fun port => UInt16.ofNat port.1

/-- The archive that the draft of a configuration gives, unless that is `null`. -/
def archiveOfDraft? (draft : Draft) : Option Path :=
  let given := (shape.given? "decompiler" draft).bind (engineShape.given? "cfr_jar")
  (given.bind fun text =>
    (Reader.optional (Reader.string "path string") text).toOption).bind (·.map Path.mk)

/-- The port is set by a field of the section about HTTP. -/
theorem governs_port : Governs "port" HttpConfig.port (Reader.natural UInt16.size "u16")
    (fun port => UInt16.ofNat port.1) httpShape.fields := by
  refine .later (by decide) (RecordField.keeps_of fun _ _ => rfl) ?_
  refine .first rfl (RecordField.sets_of fun port _ => ?_) (List.forall_mem_nil _)
  exact UInt16.ofNatLT_eq_ofNat port.1

/-- That section is set by a field of the configuration. -/
theorem governs_http : Governs "http" Config.http (httpShape.reader {}) id shape.fields := by
  refine .later (by decide) (RecordField.keeps_of fun _ _ => rfl) ?_
  refine .later (by decide) (RecordField.keeps_of fun _ _ => rfl) ?_
  refine .later (by decide) (RecordField.keeps_of fun _ _ => rfl) ?_
  refine .later (by decide) (RecordField.keeps_of fun _ _ => rfl) ?_
  refine .later (by decide) (RecordField.keeps_of fun _ _ => rfl) ?_
  refine .first rfl (RecordField.sets_of fun _ _ => rfl) ?_
  exact List.forall_mem_singleton.mpr ⟨by decide, RecordField.keeps_of fun _ _ => rfl⟩

/-- The archive is set by a field of the section about the external engine. -/
theorem governs_archive : Governs "cfr_jar" EngineConfig.archive
    (Reader.optional (Reader.string "path string")) (·.map Path.mk) engineShape.fields := by
  refine .first rfl (RecordField.sets_of fun _ _ => rfl) ?_
  simp only [List.forall_mem_cons]
  refine ⟨⟨by decide, ?_⟩, ⟨by decide, ?_⟩, ⟨by decide, ?_⟩, ⟨by decide, ?_⟩, List.forall_mem_nil _⟩
  all_goals exact RecordField.keeps_of fun _ _ => rfl

/-- That section is set by a field of the configuration. -/
theorem governs_engine : Governs "decompiler" Config.engine (engineShape.reader {}) id
    shape.fields := by
  refine .later (by decide) (RecordField.keeps_of fun _ _ => rfl) ?_
  refine .later (by decide) (RecordField.keeps_of fun _ _ => rfl) ?_
  refine .first rfl (RecordField.sets_of fun _ _ => rfl) ?_
  simp only [List.forall_mem_cons]
  refine ⟨⟨by decide, ?_⟩, ⟨by decide, ?_⟩, ⟨by decide, ?_⟩, ⟨by decide, ?_⟩, List.forall_mem_nil _⟩
  all_goals exact RecordField.keeps_of fun _ _ => rfl

/-- A configuration that is read has the port that is given, or the usual one. -/
theorem port_of_reader (read : shape.reader {} draft = .ok config) :
    config.http.port = (portOfDraft? draft).getD 3000 :=
  (Json.RecordShape.filled_of_section governs_http governs_port read).eq_getD

/-- A configuration that is read has the archive that is given, if one is. -/
theorem archive_of_reader (read : shape.reader {} draft = .ok config) :
    config.engine.archive = archiveOfDraft? draft := by
  have filled := Json.RecordShape.filled_of_section governs_engine governs_archive read
  rw [filled.eq_getD, archiveOfDraft?]
  cases ((shape.given? "decompiler" draft).bind (engineShape.given? "cfr_jar")).bind _ <;> rfl

end Drafts

section Files

variable {config : Config} {host : Host} {named : Option Path}

/-- The text that a configuration is read from, if there is one. -/
def sourceText? (host : Host) (named : Option Path) : Option String := do
  let source ← (sourceOf host named).toOption
  let path ← source
  (readSource host path).toOption

/-- The port that the file gives. -/
def filePort? (host : Host) (named : Option Path) : Option UInt16 :=
  (sourceText? host named).bind fun text => portOfDraft? (Json.draft text).1

/-- The archive that the file gives. -/
def fileArchive? (host : Host) (named : Option Path) : Option Path :=
  (sourceText? host named).bind fun text => archiveOfDraft? (Json.draft text).1

/-- A configuration that is loaded is valid, and has what the file gives. -/
theorem load_eq_ok (loaded : load host named = .ok config) : config.IsValid ∧
    config.http.port = (filePort? host named).getD 3000 ∧
    config.engine.archive = fileArchive? host named := by
  obtain ⟨source, found, loaded⟩ := Effect.except_bind_eq_ok.mp loaded
  cases source with
  | none =>
    have none : sourceText? host named = none := by
      rw [sourceText?, found]
      rfl
    obtain rfl := Except.ok.inj loaded
    rw [filePort?, fileArchive?, none]
    exact ⟨by decide, rfl, rfl⟩
  | some path =>
    obtain ⟨text, read, loaded⟩ := Effect.except_bind_eq_ok.mp loaded
    obtain ⟨drafted, parsed, loaded⟩ := Effect.except_bind_eq_ok.mp loaded
    have source : sourceText? host named = some text := by
      rw [sourceText?, found]
      change (readSource host path).toOption = some text
      rw [read]
      rfl
    have taken := Json.reader_draft_of_readText (Effect.except_mapError_eq_ok.mp parsed)
    rw [filePort?, fileArchive?, source]
    unfold checked at loaded
    split at loaded
    · cases loaded
    · next obeys =>
      cases loaded
      exact ⟨config.brokenRule?_eq_none_iff.mp obeys, port_of_reader taken,
        archive_of_reader taken⟩

end Files

section Environment

variable {config changed : Config} {valueOf : String → Option String} {text : String}

/-- The port that the environment gives. -/
def environmentPort? (valueOf : String → Option String) : Option UInt16 :=
  (setting? valueOf portVariable).bind fun text => portOfText? (Text.trim text)

/-- The archive that the environment gives. -/
def environmentArchive? (valueOf : String → Option String) : Option Path :=
  (setting? valueOf "CFR_JAR").map Path.mk

/-- The port that a text gives: the one that it stands for, unless that is zero. -/
def givenPort? (text : String) : Option UInt16 :=
  (portOfText? (Text.trim text)).filter (· ≠ 0)

/-- Whether a text writes a port: decimal digits, with a plus sign in front or without. -/
def WritesPort (text : String) (port : UInt16) : Prop :=
  ∃ sign digits, text.toList = sign ++ digits ∧ sign ∈ [[], ['+']] ∧ digits ≠ [] ∧
    (∀ digit ∈ digits, digit.isDigit = true) ∧ Nat.ofDigitChars 10 digits 0 = port.toNat

/-- Characters are those after a plus sign, with it or without it. -/
theorem exists_sign (characters : List Char) :
    ∃ sign ∈ [[], ['+']], characters = sign ++ withoutPlus characters := by
  unfold withoutPlus
  split
  · exact ⟨['+'], by simp, rfl⟩
  · exact ⟨[], by simp, rfl⟩

/-- Digits begin after a plus sign. -/
theorem withoutPlus_append {sign digits : List Char} (signs : sign ∈ [[], ['+']])
    (each : ∀ digit ∈ digits, digit.isDigit = true) : withoutPlus (sign ++ digits) = digits := by
  simp only [List.mem_cons, List.not_mem_nil, or_false] at signs
  obtain rfl | rfl := signs
  · unfold withoutPlus
    rw [List.nil_append]
    split
    · exact absurd (each '+' List.mem_cons_self) (by decide)
    · rfl
  · rfl

/-- The texts that stand for ports are those that write them. -/
theorem portOfText?_eq_some_iff {port : UInt16} :
    portOfText? text = some port ↔ WritesPort text port := by
  have value (digits : List Char) :
      digits.foldl (fun value digit => value * 10 + (digit.toNat - 48)) 0 =
        Nat.ofDigitChars 10 digits 0 :=
    Json.Digits.foldl_digitValue digits 0
  constructor
  · intro read
    obtain ⟨sign, signs, whole⟩ := exists_sign text.toList
    simp only [portOfText?, value, Bool.or_eq_true, List.isEmpty_iff, Bool.not_eq_true'] at read
    split at read
    · cases read
    · next digits =>
      split at read
      · next bounded =>
        obtain rfl := Option.some.inj read
        simp only [not_or, Bool.not_eq_false, List.all_eq_true] at digits
        exact ⟨sign, _, whole, signs, digits.1, digits.2, UInt16.toNat_ofNatLT.symm⟩
      · cases read
  · rintro ⟨sign, digits, whole, signs, some, each, same⟩
    have bounded : Nat.ofDigitChars 10 digits 0 < UInt16.size := same ▸ port.toNat_lt
    have all : digits.all Char.isDigit = true := List.all_eq_true.mpr each
    simp only [portOfText?, value, whole, withoutPlus_append signs each, all, bounded,
      List.isEmpty_eq_false_iff.mpr some, Bool.not_true, Bool.or_self, Bool.false_eq_true, if_false,
      dif_pos, Option.some.injEq]
    exact UInt16.toNat_inj.mp (by rw [UInt16.toNat_ofNatLT, same])

/-- The texts that give ports are those that write ports other than zero, with white space around
them or without. -/
theorem givenPort?_eq_some_iff {port : UInt16} :
    givenPort? text = some port ↔ WritesPort (Text.trim text) port ∧ port ≠ 0 := by
  rw [givenPort?, Option.filter_eq_some_iff, portOfText?_eq_some_iff]
  simp

/-- The configuration with another port. -/
def withPort (config : Config) (port : UInt16) : Config :=
  { config with http := { config.http with port } }

/-- Without a variable for the port, the programs are all that changes. -/
theorem override_of_unset (unset : setting? valueOf portVariable = none) :
    config.override valueOf = (.ok (), config.withPrograms valueOf) := by
  rw [override, unset]

/-- A port that is given comes after the programs. -/
theorem override_of_given {port : UInt16} (set : setting? valueOf portVariable = some text)
    (given : givenPort? text = some port) :
    config.override valueOf = (.ok (), (config.withPrograms valueOf).withPort port) := by
  obtain ⟨read, positive⟩ := Option.filter_eq_some_iff.mp given
  rw [override, set]
  simp only [read]
  rw [if_neg (by simpa using positive)]
  rfl

/-- A text that gives no port is a fault, which the programs come before. -/
theorem override_of_refused (set : setting? valueOf portVariable = some text)
    (refused : givenPort? text = none) :
    config.override valueOf = (.error (.noPort text), config.withPrograms valueOf) := by
  rw [override, set]
  cases read : portOfText? (Text.trim text) with
  | none => simp only [read]
  | some port =>
    have zero : port = 0 := by simpa [givenPort?, read] using refused
    simp only [read]
    rw [if_pos zero]

/-- A valid configuration stays so with another port exactly if that is not zero. -/
theorem IsValid.withPort_iff (valid : config.IsValid) {port : UInt16} :
    ({ config with http := { config.http with port } } : Config).IsValid ↔ port ≠ 0 := by
  obtain ⟨budget, machine, classpath, -, level⟩ := valid
  exact ⟨fun changed => changed.2.2.2.1, fun positive =>
    ⟨budget, machine, classpath, positive, level⟩⟩

/-- A valid configuration stays so with the programs of the environment. -/
theorem IsValid.withPrograms (valid : config.IsValid) (valueOf : String → Option String) :
    (config.withPrograms valueOf).IsValid := by
  obtain ⟨budget, machine, rest⟩ := valid
  refine ⟨budget, ?_, rest⟩
  change ¬ Text.isBlankText ((setting? valueOf "JAVADC_JAVA").getD config.engine.machine) = true
  cases set : setting? valueOf "JAVADC_JAVA" with
  | none => exact machine
  | some value =>
    have shown := (Option.filter_eq_some_iff.mp set).2
    simpa using shown

/-- The environment keeps a configuration valid, and its port and archive come before those that
there are. -/
theorem override_eq_ok (done : config.override valueOf = (.ok (), changed)) :
    (config.IsValid → changed.IsValid) ∧
    changed.http.port = (environmentPort? valueOf).getD config.http.port ∧
    changed.engine.archive = (environmentArchive? valueOf).or config.engine.archive ∧
    ∀ text, setting? valueOf portVariable = some text →
      ∃ port, environmentPort? valueOf = some port ∧ port ≠ 0 := by
  unfold environmentPort?
  cases set : setting? valueOf portVariable with
  | none =>
    rw [override_of_unset set] at done
    cases done
    exact ⟨fun valid => valid.withPrograms valueOf, rfl, rfl, nofun⟩
  | some text =>
    cases given : givenPort? text with
    | none =>
      rw [override_of_refused set given] at done
      cases done
    | some port =>
      rw [override_of_given set given] at done
      cases done
      obtain ⟨read, positive⟩ := Option.filter_eq_some_iff.mp given
      have positive : port ≠ 0 := by simpa using positive
      rw [Option.bind_some, read]
      refine ⟨fun valid => (valid.withPrograms valueOf).withPort_iff.mpr positive, rfl, rfl, ?_⟩
      rintro _ ⟨⟩
      exact ⟨port, rfl, positive⟩

end Environment

end Config

namespace CommandLine

variable {given : List String} {host : Host} {arguments : Arguments} {config : Config}
  {settings : Settings}

/-- The configuration that holds in the end is valid unless the command line asks for port zero. -/
theorem configFor_eq_ok (made : configFor arguments host = .ok config) :
    (config.IsValid ↔ arguments.port ≠ some 0) ∧
      config.http.port = (arguments.port.or ((Config.environmentPort? host.valueOf?).or
        (Config.filePort? host arguments.config))).getD 3000 ∧
      (∀ text, Config.setting? host.valueOf? portVariable = some text →
        ∃ port, Config.environmentPort? host.valueOf? = some port ∧ port ≠ 0) ∧
      config.engine.archive = (Config.environmentArchive? host.valueOf?).or
        (Config.fileArchive? host arguments.config) := by
  obtain ⟨loaded, load, made⟩ := Effect.except_bind_eq_ok.mp made
  obtain ⟨valid, filePort, fileArchive⟩ := Config.load_eq_ok load
  rcases override : loaded.override host.valueOf? with ⟨result, changed⟩
  rw [override] at made
  obtain ⟨⟨⟩, done, made⟩ := Effect.except_bind_eq_ok.mp made
  obtain rfl := Effect.except_mapError_eq_ok.mp done
  obtain ⟨keeps, port, archive, set⟩ := Config.override_eq_ok override
  rw [fileArchive] at archive
  cases asked : arguments.port with
  | none =>
    rw [asked] at made
    cases made
    refine ⟨by simpa using keeps valid, ?_, set, archive⟩
    rw [port, filePort, Option.none_or]
    cases Config.environmentPort? host.valueOf? <;> rfl
  | some number =>
    rw [asked] at made
    cases made
    refine ⟨?_, rfl, set, archive⟩
    rw [(keeps valid).withPort_iff, ne_eq, ne_eq, Option.some.injEq]

/-- What a server starts with is valid unless the command line asks for port zero. -/
theorem start_settles (started : start given host = .ok settings) :
    ∃ arguments, Arguments.read given = .ok arguments ∧
      (settings.config.IsValid ↔ arguments.port ≠ some 0) ∧
      settings.config.http.port = (arguments.port.or ((Config.environmentPort? host.valueOf?).or
        (Config.filePort? host arguments.config))).getD 3000 ∧
      (∀ text, Config.setting? host.valueOf? portVariable = some text →
        ∃ port, Config.environmentPort? host.valueOf? = some port ∧ port ≠ 0) ∧
      settings.archive = (arguments.archive.or ((Config.environmentArchive? host.valueOf?).or
        (Config.fileArchive? host arguments.config))).getD
          (((host.homePath.join ".java-decompiler-mcp").join "tools").join "cfr.jar") := by
  obtain ⟨arguments, read, started⟩ := Effect.except_bind_eq_ok.mp started
  obtain ⟨config, made, further⟩ :=
    Effect.except_bind_eq_ok.mp (Effect.except_mapError_eq_ok.mp started)
  cases further
  obtain ⟨valid, port, set, archive⟩ := configFor_eq_ok made
  refine ⟨arguments, Effect.except_mapError_eq_ok.mp read, valid, port, set, ?_⟩
  rw [Config.archive, archive]
  rfl

/-- The text of a configuration that gives a port. -/
def portText : String := "\x7b\"http\":\x7b\"port\":8080\x7d\x7d"

/-- A machine with that configuration in a file, and an environment that gives a blank port and an
archive. -/
def configuredHost : Host where
  tree := ⟨[(["c.json"], .file (Utf8.encode portText) false)]⟩
  workingDirectory := []
  environment := [("PORT", " "), ("CFR_JAR", "/e.jar")]

theorem draft_portText : Json.draft portText = (.object [("http",
    .object [("port", .number (.integer 8080 rfl))] .closed)] .closed, true) := by
  have tokens : Json.lex portText = ([.openObject, .string "http", .colon, .openObject,
    .string "port", .colon, .number (.integer 8080 rfl), .closeObject, .closeObject],
    .finished) := by decide +kernel
  simp [Json.draft, tokens, Json.readTokens, Json.readTokens.beginning, Json.depthLimit, Json.endOf]

theorem readSource_configuredHost :
    Config.readSource configuredHost ⟨"c.json"⟩ = .ok portText := by
  have content : configuredHost.read ⟨"c.json"⟩ = .ok (Utf8.encode portText) := rfl
  rw [Config.readSource, content]
  dsimp only
  rw [Utf8.decode_encode]
  rfl

/-- The file gives the port there, and the environment the archive. -/
theorem start_settles_configured : ∃ settings, start ["c.json"] configuredHost = .ok settings ∧
    settings.config.IsValid ∧ settings.config.http.port = 8080 ∧
    settings.archive = ⟨"/e.jar"⟩ := by
  have loaded : Config.load configuredHost (some ⟨"c.json"⟩) =
      .ok { http := { port := 8080 } } := by
    have parsed : Config.ofText portText = .ok { http := { port := 8080 } } := by
      rw [Config.ofText, Json.readText, draft_portText]
      rfl
    change (Config.readSource configuredHost ⟨"c.json"⟩ >>= fun text =>
      (Config.ofText text).mapError (.malformed ⟨"c.json"⟩) >>= fun config => config.checked) = _
    rw [readSource_configuredHost]
    change ((Config.ofText portText).mapError _ >>= fun config => config.checked) = _
    rw [parsed]
    rfl
  have started : ∃ settings, start ["c.json"] configuredHost = .ok settings := by
    change ∃ settings, (settingsFor { config := some ⟨"c.json"⟩ } configuredHost).mapError _ = _
    rw [settingsFor, configFor, loaded]
    exact ⟨_, rfl⟩
  obtain ⟨settings, started⟩ := started
  obtain ⟨arguments, read, valid, port, -, archive⟩ := start_settles started
  obtain rfl : { config := some ⟨"c.json"⟩ } = arguments := Except.ok.inj read
  have filePort : Config.filePort? configuredHost (some ⟨"c.json"⟩) = some 8080 := by
    have text : Config.sourceText? configuredHost (some ⟨"c.json"⟩) = some portText := by
      change (Config.readSource configuredHost ⟨"c.json"⟩).toOption = some portText
      rw [readSource_configuredHost]
      rfl
    rw [Config.filePort?, text, Option.bind_some, draft_portText]
    rfl
  refine ⟨settings, started, valid.mpr nofun, ?_, archive⟩
  rw [port, filePort]
  rfl

/-- The command line can ask for port zero, which no valid configuration has. -/
theorem zero_port_is_kept : ∃ settings, start ["--port", "0"] configuredHost = .ok settings ∧
    settings.config.http.port = 0 ∧ ¬ settings.config.IsValid :=
  ⟨_, rfl, rfl, by decide⟩

end CommandLine

end DecompileServer
