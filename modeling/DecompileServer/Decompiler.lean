import DecompileServer.Engine.Basic

/-!
# Decompiling

A decompiler finds the class that a request names, hands it to its engine and removes what was made
to find it, whatever the engine answers. A failure tells by which of the three ways the class was
named.
-/
namespace DecompileServer

/-- The way in which a request names its class. -/
inductive Stage where
  /-- By the path of its file. -/
  | classFile
  /-- By its name on a classpath. -/
  | package
  /-- By its name in an archive. -/
  | jar
  deriving DecidableEq, Repr

/-- The way in which a target is named. -/
def Target.stage : Target → Stage
  | .file _ => .classFile
  | .onClasspath .. => .package
  | .inArchive .. => .jar

/-- The beginning of the wording of every failure of a stage. -/
def Stage.beginning : Stage → String
  | .classFile => "Failed to decompile class file: "
  | .package => "Failed to decompile package: "
  | .jar => "Failed to decompile JAR file: "

/-- The failure of a request, with the way in which it named its class. -/
structure StageFailure where
  /-- The way in which the class was named. -/
  stage : Stage
  /-- The reason. -/
  failure : Failure
  deriving DecidableEq, Repr

/-- The wording of a failure. -/
def StageFailure.message (failed : StageFailure) : String :=
  failed.stage.beginning ++ failed.failure.message

/-- Answers requests for source text. -/
abbrev Service := Target → Effect StageFailure String

/-- A way to find classes with an engine for them. -/
structure Decompiler where
  /-- Where classes are looked for. -/
  settings : SearchSettings := {}
  /-- The engine. -/
  engine : Engine
  /-- The choices that are passed to the engine. -/
  options : EngineOptions := {}

/-- What an engine makes of a class of which the name, the bytes and a lookup for others are given. -/
def Engine.decompile (engine : Engine) (options : EngineOptions) (name : ClassName)
    (bytes : List UInt8) (auxiliary : ClassLookup) : Effect Failure String :=
  (engine { name, lookup := lookupFor name bytes auxiliary, options }).adapt
    fun fault => .engine fault.message

namespace Decompiler

/-- What the engine makes of a class that has been found. What was made to find it is removed. -/
def decompileLocated (decompiler : Decompiler) (located : Located) : Effect Failure String :=
  ExceptT.mk fun host =>
    let (result, after) :=
      (decompiler.engine.decompile decompiler.options located.name located.bytes
        (located.auxiliary host)).run host
    (result, ((located.release : Effect Failure Unit).run after).2)

/-- The source text of the class that a request names. -/
def decompile (decompiler : Decompiler) (target : Target) : Effect Failure String := do
  let located ← decompiler.settings.find target
  decompiler.decompileLocated located

/-- The service of a decompiler. -/
def service (decompiler : Decompiler) : Service := fun target =>
  (decompiler.decompile target).adapt fun failure => ⟨target.stage, failure⟩

end Decompiler

end DecompileServer
