import DecompileServer.Engine.External
import DecompileServer.Proofs.Engine.Staging

/-!
# Quiet engines

An engine is quiet when it leaves every host as it was. One that only computes is
(`isQuiet_ofFunction`). The external engine is as well, provided that its program changes nothing
away from the staging directory that it is given (`ExternalEngine.isQuiet_engine`): on every exit
the directory is removed, and with it all that was staged or written there.
-/
namespace DecompileServer

open Disk (Location)
open Host (Site Confined Furnished)

/-- Whether an engine leaves every host as it was, whatever it answers. -/
def Engine.IsQuiet (engine : Engine) : Prop :=
  ∀ request host, host.tree.IsClosed → ((engine request).run host).2 = host

/-- An engine that looks at its request alone is quiet. -/
theorem Engine.isQuiet_ofFunction (decompile : EngineRequest → Except EngineFault String) :
    (ofFunction decompile).IsQuiet :=
  fun _ _ _ => rfl

namespace ExternalEngine

/-- Whether the program of an engine changes nothing away from the staging directory that it is
given. -/
def IsConfined (external : ExternalEngine) : Prop :=
  ∀ host staged directory options outcome after base, host.tree.IsClosed →
    host.locate directory = .ok base →
    external.launcher host (external.command staged directory options) = some (outcome, after) →
    after.tree.IsClosed ∧ after.tree.remove base = host.tree.remove base ∧
      after.workingDirectory = host.workingDirectory ∧ after.environment = host.environment

variable {external : ExternalEngine} {origin host : Host} {directory : Path} {base : Location}

/-- Running the program leaves the host confined. -/
theorem confined_launch (confined : external.IsConfined) (site : Site origin directory base)
    (furnished : Furnished origin base host) (staged : Path) (options : EngineOptions) :
    Confined origin base (external.launch host staged directory options).2 := by
  unfold launch
  split
  · exact furnished.toConfined
  · split
    · exact furnished.toConfined
    · rename_i outcome after started
      have led := site.locate_eq furnished
      obtain ⟨closed, outside, working, environment⟩ :=
        confined _ _ _ _ _ _ _ furnished.closed led started
      exact ⟨closed, outside.trans furnished.outside, working.trans furnished.workingDirectory,
        environment.trans furnished.environment⟩

/-- Staging classes and running the program leaves the host confined, on every exit. -/
theorem confined_decompileIn (confined : external.IsConfined) (site : Site origin directory base)
    (furnished : Furnished origin base host) (request : EngineRequest) (primary : List UInt8) :
    Confined origin base (external.decompileIn request directory primary host).2 := by
  unfold decompileIn
  split
  · exact furnished.toConfined
  · rename_i summary _
    have primaryStaged := Staging.keeps_write site.tolerates (stagedName request.name summary)
      primary host furnished
    split
    · rename_i ran
      rw [ran] at primaryStaged
      exact primaryStaged.toConfined
    · rename_i staged after ran
      rw [ran] at primaryStaged
      have allStaged := Staging.keeps_writeAll site.tolerates (external.planFor request summary)
        after primaryStaged
      dsimp only
      split
      · rename_i ran
        rw [ran] at allStaged
        exact allStaged.toConfined
      · rename_i ran
        rw [ran] at allStaged
        exact confined_launch confined site allStaged staged request.options

/-- The external engine leaves every host as it was if its program is confined. -/
theorem isQuiet_engine (confined : external.IsConfined) : external.engine.IsQuiet := by
  intro request host closed
  change (external.trace request host).2 = host
  unfold trace
  dsimp only
  split
  · rfl
  · split
    · rfl
    · split
      · rename_i made
        exact Host.eq_of_makeTemporary_error made
      · rename_i directory after made
        obtain ⟨base, site, rfl⟩ := Host.site_of_makeTemporary closed made
        exact site.removeAll_eq (confined_decompileIn confined site site.furnished_put request _)

end ExternalEngine

end DecompileServer
