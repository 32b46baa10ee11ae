import DecompileServer.Decompiler
import DecompileServer.Proofs.Inference
import DecompileServer.Proofs.Traceless

/-!
# The three ways of naming a class agree

The file of a class, its name on a classpath and its name in an archive that holds nothing else all
end in the same request to the engine: the same name, and a lookup that knows the class and the core
classes alone. So the answers agree too, up to the stage that a failure tells.
-/
namespace DecompileServer

variable {settings : SearchSettings} {options : EngineOptions} {host filled : Host}
  {name : ClassName} {bytes : List UInt8} {root jar : Path} {workspace : Workspace}

/-- The request to the engine for a class that comes without others. -/
def EngineRequest.alone (name : ClassName) (bytes : List UInt8) (options : EngineOptions) :
    EngineRequest where
  name
  lookup := lookupFor name bytes fun _ => none
  options

/-- Whether a decompiler hands the given request to its engine, whichever that is, on the given
host, and passes on what the engine answers. -/
def Hands (settings : SearchSettings) (options : EngineOptions) (target : Target) (host : Host)
    (request : EngineRequest) (left : Host) : Prop :=
  ∀ engine : Engine,
    (((Decompiler.mk settings engine options).decompile target).run host).1 =
      ((engine request).run left).1.mapError fun fault => .engine fault.message

/-- What has been found is handed to the engine. -/
theorem hands_of_find {target : Target} {located : Located}
    (found : (settings.find target).run host = (.ok located, filled)) :
    Hands settings options target host
      ⟨located.name, lookupFor located.name located.bytes (located.auxiliary filled), options⟩
      filled := by
  intro engine
  have ran : ((Decompiler.mk settings engine options).settings.find target).run host =
      (.ok located, filled) := found
  rw [Decompiler.decompile, Effect.run_bind_of_ok ran, Decompiler.result_of_decompileLocated]

/-- A lookup beside the class that knows the class alone adds nothing. -/
theorem lookupFor_of_single {auxiliary : ClassLookup}
    (single : ∀ asked, auxiliary asked = if asked = name.text then some bytes else none) :
    lookupFor name bytes auxiliary = lookupFor name bytes fun _ => none := by
  funext asked
  unfold lookupFor
  by_cases itself : asked = name.text
  · rw [if_pos itself, if_pos itself]
  · rw [if_neg itself, if_neg itself, single, if_neg itself]

/-- A class is found by the path of its file. -/
theorem find_file (inference : settings.inference = .directory)
    (packages : ∀ segment ∈ name.packages, Inference.isPackageName segment = true)
    (outside : ∀ last, root.components.getLast? = some (.name last) →
      Inference.isPackageName last = false)
    (stored : host.read (root.join name.filePath) = .ok bytes) :
    (settings.find (.file (root.join name.filePath))).run host =
      (.ok ⟨name, bytes, none⟩, host) := by
  have named : settings.inference.infer (root.join name.filePath) bytes = .ok name := by
    rw [inference, Inference.infer]
    exact Inference.fromDirectories_join_filePath outside packages
  exact Effect.run_observe_eq_ok.mpr ⟨SearchSettings.findFile_eq_ok_iff.mpr
    ⟨name.isArchive_join_filePath root, name, bytes, stored, named, rfl⟩, rfl⟩

/-- A class is found on a classpath by its name with dots. -/
theorem find_onClasspath (stored : host.read (root.join name.filePath) = .ok bytes) :
    (settings.find (.onClasspath name.dotted [root])).run host =
      (.ok ⟨name, bytes, none⟩, host) := by
  have first : SearchSettings.firstFile? host name [root] = some (root.join name.filePath) := by
    rw [SearchSettings.firstFile?, List.map_singleton, List.find?_cons_of_pos]
    exact Host.isFile_of_read stored
  exact Effect.run_observe_eq_ok.mpr ⟨SearchSettings.findOnClasspath_eq_ok_iff.mpr
    ⟨name, root.join name.filePath, bytes, name.ofDotted_dotted, first, stored, rfl⟩, rfl⟩

/-- The archive with the file of one class alone, its data complete. -/
structure HoldsClass (host : Host) (jar : Path) (name : ClassName) (bytes : List UInt8)
    (entry : Archive.Entry) (packed : Archive.Packed) : Prop where
  /-- The entry is the only one. -/
  listed : Archive.load host jar = .ok ⟨[entry]⟩
  /-- The entry is named after the class. -/
  named : entry.name = name.filePath
  /-- The data of the entry are within reach. -/
  reached : entry.packed = .ok packed
  /-- The data read as the content, without a fault. -/
  complete : packed.read = ⟨bytes, none⟩

/-- The listing of the archive. -/
theorem HoldsClass.classEntries {entry : Archive.Entry} {packed : Archive.Packed}
    (holds : HoldsClass host jar name bytes entry packed) :
    Archive.classEntries host jar = .ok [name.filePath] := by
  have isClass : entry.isClass = true := by
    rw [Archive.Entry.isClass, Archive.Entry.isDirectory, holds.named]
    simp [ClassName.filePath, List.getLast?_append, Text.endsWith, List.isSuffixOf_iff_suffix]
  rw [Archive.classEntries, holds.listed]
  simp only [bind, Except.bind, Archive.classNamesOf, holds.reached, pure, Except.pure, isClass,
    holds.named]
  rfl

/-- A class is found in an archive by its name with dots, in the workspace it is extracted to. -/
theorem find_inArchive {entry : Archive.Entry} {packed : Archive.Packed} {made : Host}
    (holds : HoldsClass host jar name bytes entry packed)
    (created : (Workspace.create settings.workspaceRoot jar).run host = (.ok workspace, made))
    (extracted : (Archive.extractAll jar workspace.path).run made = (.ok (), filled))
    (stored : filled.read (workspace.fileOf name) = .ok bytes) :
    (settings.find (.inArchive jar (some name.dotted))).run host =
      (.ok ⟨name, bytes, some workspace⟩, filled) := by
  have filledName : name.dotted ≠ "" := by
    rw [← name.trim_dotted]
    exact (ClassName.ofDotted_trim name.ofDotted_dotted).2
  have wanted : SearchSettings.wantedName (some name.dotted) = .ok name.dotted :=
    SearchSettings.wantedName_eq_ok_iff.mpr
      ⟨name.dotted, rfl, name.trim_dotted.symm, filledName⟩
  have primary : SearchSettings.primaryOf filled jar [name.filePath] workspace name.dotted =
      .ok ⟨name, bytes, some workspace⟩ :=
    SearchSettings.primaryOf_eq_ok_iff.mpr
      ⟨name, bytes, name.ofDotted_dotted, List.mem_singleton_self _, stored, rfl⟩
  exact SearchSettings.findInArchive_eq_ok_iff.mpr ⟨name.dotted, [name.filePath], workspace, made,
    ⟨wanted, holds.classEntries, rfl⟩, created, extracted, primary⟩

/-- Extracting the archive to a fresh workspace gives a workspace with the class alone. -/
theorem lookup_of_extractAll {entry : Archive.Entry} {packed : Archive.Packed} {made : Host}
    (closed : host.tree.IsClosed) (holds : HoldsClass host jar name bytes entry packed)
    (created : (Workspace.create settings.workspaceRoot jar).run host = (.ok workspace, made))
    (extracted : (Archive.extractAll jar workspace.path).run made = (.ok (), filled)) :
    filled.read (workspace.fileOf name) = .ok bytes ∧
      ∀ asked, workspace.lookup filled asked = if asked = name.text then some bytes else none := by
  obtain ⟨base, site, rfl⟩ := Workspace.site_of_create closed created
  have furnished := site.furnished_put
  obtain ⟨archive, middle, loaded, rest⟩ := Effect.run_bind_eq_ok.mp extracted
  obtain ⟨looked, rfl⟩ := Effect.run_observe_eq_ok.mp loaded
  obtain rfl : archive = ⟨[entry]⟩ :=
    Except.ok.inj (looked.symm.trans (Archive.load_eq site furnished.toConfined holds.listed))
  obtain ⟨_, last, single, none⟩ := Effect.run_bind_eq_ok.mp (Effect.run_adapt_eq_ok.mp rest)
  cases none
  obtain ⟨furnished, only, stored⟩ := Workspace.holds_single site furnished
    (Workspace.holdsOnly_nil site) holds.named holds.reached single
  rw [holds.complete] at stored
  exact ⟨stored, Workspace.lookup_of_single site furnished only stored⟩

/-- The three ways of naming a class agree. Whatever the engine, it is asked the same request: the
name of the class, and a lookup that gives the bytes of the class and, besides, the core classes
that need none. So an engine that is a function of its request gives the same source text, or fails
with the same message, of which only the stage tells how the class was named; the host is left. A
segment of a name holds no dot, so the pattern of a package directory asks for a small letter,
followed by small letters, digits and underscores. -/
theorem ways_of_naming_agree (settings : SearchSettings) (options : EngineOptions) (host : Host)
    (name : ClassName) (bytes : List UInt8) (root jar : Path) (entry : Archive.Entry)
    (packed : Archive.Packed) (workspace : Workspace) (made filled : Host)
    (closed : host.tree.IsClosed) (inference : settings.inference = .directory)
    (packages : ∀ segment ∈ name.packages, Inference.isPackageName segment = true)
    (outside : ∀ last, root.components.getLast? = some (.name last) →
      Inference.isPackageName last = false)
    (stored : host.read (root.join name.filePath) = .ok bytes)
    (holds : HoldsClass host jar name bytes entry packed)
    (created : (Workspace.create settings.workspaceRoot jar).run host = (.ok workspace, made))
    (extracted : (Archive.extractAll jar workspace.path).run made = (.ok (), filled)) :
    let request := EngineRequest.alone name bytes options
    let byFile := Target.file (root.join name.filePath)
    let byName := Target.onClasspath name.dotted [root]
    let inArchive := Target.inArchive jar (some name.dotted)
    Hands settings options byFile host request host ∧
      Hands settings options byName host request host ∧
      Hands settings options inArchive host request filled ∧
      ∀ decompile : EngineRequest → Except EngineFault String,
        ∀ target ∈ [byFile, byName, inArchive],
          ((Decompiler.mk settings (.ofFunction decompile) options).service target).run host =
            ((decompile request).mapError fun fault => ⟨target.stage, .engine fault.message⟩,
              host) := by
  intro request byFile byName inArchive
  obtain ⟨extractedFile, lookup⟩ := lookup_of_extractAll closed holds created extracted
  have first : Hands settings options byFile host request host :=
    hands_of_find (find_file inference packages outside stored)
  have second : Hands settings options byName host request host :=
    hands_of_find (find_onClasspath stored)
  have third : Hands settings options inArchive host request filled := by
    have found := find_inArchive holds created extracted extractedFile
    have same : lookupFor name bytes (workspace.lookup filled) = request.lookup :=
      lookupFor_of_single lookup
    have handed : Hands settings options inArchive host
        ⟨name, lookupFor name bytes (workspace.lookup filled), options⟩ filled :=
      hands_of_find found
    rw [same] at handed
    exact handed
  refine ⟨first, second, third, ?_⟩
  intro decompile target member
  have answered : ∀ left, Hands settings options target host request left →
      ((Decompiler.mk settings (.ofFunction decompile) options).service target).run host =
        ((decompile request).mapError fun fault =>
          ⟨target.stage, .engine fault.message⟩, host) := by
    intro left hands
    have quiet : (Decompiler.mk settings (.ofFunction decompile) options).engine.IsQuiet :=
      Engine.isQuiet_ofFunction decompile
    have result := hands (.ofFunction decompile)
    have still := Decompiler.host_of_decompile quiet closed target
    rw [Decompiler.service, Effect.run_adapt, result, still]
    change (((decompile request).mapError _).mapError _, host) = _
    cases decompile request <;> rfl
  rcases List.mem_cons.mp member with rfl | member
  · exact answered host first
  · rcases List.mem_cons.mp member with rfl | member
    · exact answered host second
    · rw [List.mem_singleton] at member
      rw [member] at answered ⊢
      exact answered filled third

/-- A class in a package. -/
def sampleClass : ClassName := ⟨"a/B", by decide⟩

/-- The data of its entry. -/
def samplePacked : Archive.Packed := ⟨.stored, [0xCA], 2847130659⟩

/-- An archive with the class alone, its data stored as they are. -/
def sampleJar : List UInt8 :=
  [80, 75, 3, 4, 20, 0, 0, 0, 0, 0, 0, 0, 33, 0, 35, 196, 179, 169, 1, 0, 0, 0, 1, 0, 0, 0, 9, 0,
    0, 0, 97, 47, 66, 46, 99, 108, 97, 115, 115, 202, 80, 75, 1, 2, 20, 3, 20, 0, 0, 0, 0, 0, 0,
    0, 33, 0, 35, 196, 179, 169, 1, 0, 0, 0, 1, 0, 0, 0, 9, 0, 0, 0, 0, 0, 0, 0, 0, 0, 0, 0, 128,
    1, 0, 0, 0, 0, 97, 47, 66, 46, 99, 108, 97, 115, 115, 80, 75, 5, 6, 0, 0, 0, 0, 1, 0, 1, 0,
    55, 0, 0, 0, 40, 0, 0, 0, 0, 0]

/-- A machine on which the class lies in a directory and in an archive. -/
def sampleHost : Host where
  tree := ⟨[(["tmp"], .directory), (["Lib"], .directory), (["Lib", "a"], .directory),
    (["Lib", "a", "B.class"], .file [0xCA] false), (["b.jar"], .file sampleJar false)]⟩
  workingDirectory := []
  environment := []

/-- The workspace of the archive. -/
def sampleWorkspace : Workspace := ⟨⟨"/tmp/javadc-jar-000000"⟩⟩

/-- The machine with the empty workspace. -/
def sampleMade : Host :=
  { sampleHost with tree := sampleHost.tree.put ["tmp", "javadc-jar-000000"] .directory }

/-- The machine with the archive extracted to the workspace. -/
def sampleFilled : Host :=
  ((Archive.extractAll ⟨"/b.jar"⟩ sampleWorkspace.path).run sampleMade).2

/-- An engine that answers the name of a class with dots once it has been given the right bytes, and
none for a core class. -/
def naming (request : EngineRequest) : Except EngineFault String :=
  if request.lookup request.name.text = some [0xCA] ∧
      request.lookup "java/lang/Object" = some [] then
    .ok request.name.dotted
  else .error (.classUnavailable request.name.text)

set_option maxRecDepth 100000 in
/-- The theorem on a class in a package, with an engine that asks for its bytes. -/
theorem ways_of_naming_agree_sample :
    HoldsClass sampleHost ⟨"/b.jar"⟩ sampleClass [0xCA]
        ⟨"a/B.class", .ok samplePacked⟩ samplePacked ∧
      (Archive.extractAll ⟨"/b.jar"⟩ sampleWorkspace.path).run sampleMade =
        (.ok (), sampleFilled) ∧
      Hands {} {} (.inArchive ⟨"/b.jar"⟩ (some sampleClass.dotted)) sampleHost
        (EngineRequest.alone sampleClass [0xCA] {}) sampleFilled ∧
      ((Decompiler.mk {} (.ofFunction naming) {}).service
        (.file ((Path.mk "/Lib").join sampleClass.filePath))).run sampleHost =
          (.ok "a.B", sampleHost) := by
  have holds : HoldsClass sampleHost ⟨"/b.jar"⟩ sampleClass [0xCA]
      ⟨"a/B.class", .ok samplePacked⟩ samplePacked :=
    ⟨rfl, rfl, rfl, by decide +kernel⟩
  have extracted : (Archive.extractAll ⟨"/b.jar"⟩ sampleWorkspace.path).run sampleMade =
      (.ok (), sampleFilled) :=
    Effect.run_eq (by decide +kernel) (by rw [sampleFilled])
  have outside : ∀ last, (Path.mk "/Lib").components.getLast? = some (.name last) →
      Inference.isPackageName last = false := by
    intro last found
    cases found
    decide
  have agree := ways_of_naming_agree {} {} sampleHost sampleClass [0xCA] ⟨"/Lib"⟩ ⟨"/b.jar"⟩
    _ _ sampleWorkspace sampleMade sampleFilled (by decide) rfl (by decide) outside rfl holds rfl
    extracted
  have answer := agree.2.2.2 naming (.file ((Path.mk "/Lib").join sampleClass.filePath))
    List.mem_cons_self
  exact ⟨holds, extracted, agree.2.2.1, answer⟩

end DecompileServer
