import DecompileServer.Proofs.Batch.Steps
import DecompileServer.Proofs.Traceless

/-!
# A request that is alone

Step by step, a request that is alone comes to the answer that the service gives at once, and
leaves the host as the service does (`reaches_answer`).
-/
namespace DecompileServer.Batch

open Host (Site)

variable {ι : Type}

/-- A request that is alone comes from one point to another. -/
inductive Reaches (batch : Batch ι) (i : ι) : Progress × Host → Progress × Host → Prop where
  /-- It stays. -/
  | refl (point : Progress × Host) : Reaches batch i point point
  /-- It goes a step and then further. -/
  | step {progress : Progress} {host : Host} {goal : Progress × Host}
      (further : Reaches batch i (batch.advance i progress host) goal) :
      Reaches batch i (progress, host) goal

namespace Reaches

variable {batch : Batch ι} {i : ι} {first second third : Progress × Host} {wanted : String}
  {classes : List String} {workspace : Workspace} {host after : Host}

/-- One way after the other. -/
theorem trans (way : batch.Reaches i first second) (further : batch.Reaches i second third) :
    batch.Reaches i first third := by
  induction way with
  | refl => exact further
  | step _ ih => exact .step (ih further)

/-- A single step. -/
theorem single {progress : Progress} (moved : batch.advance i progress host = second) :
    batch.Reaches i (progress, host) second :=
  .step (moved ▸ .refl _)

/-- Work that goes well is gone on with. -/
theorem of_ok {work next : Work}
    (ran : (batch.proceed (batch.archive i) wanted classes workspace work).run host =
      (.ok (.inl next), after)) :
    batch.Reaches i (.busy wanted classes workspace work, host)
      (.busy wanted classes workspace next, after) :=
  single (by rw [advance_busy, ran]; rfl)

/-- Work that fails leads to the removal of the workspace. -/
theorem of_error {work : Work} {failure : Failure}
    (ran : (batch.proceed (batch.archive i) wanted classes workspace work).run host =
      (.error failure, after)) :
    batch.Reaches i (.busy wanted classes workspace work, host)
      (.leaving workspace (.error failure), after) :=
  single (by rw [advance_busy, ran]; rfl)

/-- Entries are extracted one after the other. -/
theorem extracting {entries : List Archive.Entry}
    (ran : (Archive.extractEntries workspace.path entries).run host = (.ok (), after)) :
    batch.Reaches i (.busy wanted classes workspace (.extracting entries), host)
      (.busy wanted classes workspace (.extracting []), after) := by
  induction entries generalizing host with
  | nil =>
    cases ran
    exact .refl _
  | cons entry rest ih =>
    obtain ⟨_, middle, first, later⟩ := Effect.run_bind_eq_ok.mp ran
    exact (of_ok (by rw [run_extracting_cons, first]; rfl)).trans (ih later)

/-- An entry that cannot be extracted ends the extraction. -/
theorem extracting_error {entries : List Archive.Entry} {fault : Archive.Fault}
    (ran : (Archive.extractEntries workspace.path entries).run host = (.error fault, after)) :
    batch.Reaches i (.busy wanted classes workspace (.extracting entries), host)
      (.leaving workspace (.error (.extraction (batch.archive i) (.archive fault))), after) := by
  induction entries generalizing host with
  | nil => cases ran
  | cons entry rest ih =>
    rcases first : (Archive.extractEntry workspace.path entry).run host
      with ⟨failure | extracted, middle⟩
    · rw [Archive.extractEntries, Effect.run_bind_of_error first] at ran
      cases ran
      exact of_error (by rw [run_extracting_cons, first]; rfl)
    · rw [Archive.extractEntries, Effect.run_bind_of_ok first] at ran
      exact (of_ok (by rw [run_extracting_cons, first]; rfl)).trans (ih ran)

/-- The engine is told of one class after the other until it answers. -/
theorem consulting (name : ClassName) (bytes : List UInt8) (inquiry : Inquiry) :
    batch.Reaches i (.busy wanted classes workspace (.consulting name bytes inquiry), host)
      (.leaving workspace ((inquiry.run (lookupFor name bytes (workspace.lookup host))).mapError
        fun fault => .engine fault.message), host) := by
  induction inquiry with
  | answer result =>
    refine single ?_
    cases result <;> rfl
  | ask asked next ih => exact .step (ih _)

end Reaches

section Finding

open SearchSettings (Lists)

variable {batch : Batch ι} {i : ι} {wanted : String} {classes : List String} {host after : Host}
  {workspace : Workspace} {failure : Failure}

/-- A request whose archive is not listed is answered with why. -/
theorem Reaches.list_error (refused : batch.list host i = .error failure) :
    batch.Reaches i (.asked, host) (.answered (.error ⟨.jar, failure⟩), host) :=
  .single (by rw [advance, refused]; rfl)

/-- A request whose archive is listed goes on with the list. -/
theorem Reaches.list_ok (lists : Lists host (batch.archive i) (batch.className i) wanted classes) :
    batch.Reaches i (.asked, host) (.listed wanted classes, host) := by
  have listed : batch.list host i = .ok (wanted, classes) := by
    rw [list, lists.named, lists.listed]
    simp only [bind, Except.bind, lists.filled]
    rfl
  exact .single (by rw [advance, listed]; rfl)

/-- A request for which no workspace can be made is answered with why. -/
theorem Reaches.create_error
    (refused : (Workspace.create batch.settings.workspaceRoot (batch.archive i)).run host =
      (.error failure, after)) :
    batch.Reaches i (.listed wanted classes, host) (.answered (.error ⟨.jar, failure⟩), after) :=
  .single (by rw [advance, refused]; rfl)

/-- A request for which a workspace is made opens the archive again. -/
theorem Reaches.create_ok
    (made : (Workspace.create batch.settings.workspaceRoot (batch.archive i)).run host =
      (.ok workspace, after)) :
    batch.Reaches i (.listed wanted classes, host) (.busy wanted classes workspace .opening, after) :=
  .single (by rw [advance, made]; rfl)

end Finding

section Searching

variable {batch : Batch ι} {i : ι} {wanted : String} {classes : List String}
  {workspace : Workspace} {host after : Host}

/-- What a search does with its workspace. -/
def search (batch : Batch ι) (i : ι) (wanted : String) (classes : List String)
    (workspace : Workspace) : Effect Failure Located := do
  Archive.extractAll (batch.archive i) workspace.path
  Host.observe fun host =>
    SearchSettings.primaryOf host (batch.archive i) classes workspace wanted

/-- An archive that can be opened is extracted entry by entry. -/
theorem run_extractAll {path destination : Path} {loaded : Archive.Contents}
    (opened : Archive.load host path = .ok loaded) :
    (Archive.extractAll path destination).run host =
      ((Archive.extractEntries destination loaded.entries).adapt fun fault =>
        Failure.extraction path (.archive fault)).run host := by
  have looked : (Host.observe (Archive.load · path)).run host = (.ok loaded, host) := by
    rw [Effect.run_observe, opened]
  unfold Archive.extractAll
  rw [Effect.run_bind_of_ok looked]

/-- An archive that cannot be opened is not extracted. -/
theorem run_extractAll_of_error {path destination : Path} {failure : Failure}
    (refused : Archive.load host path = .error failure) :
    (Archive.extractAll path destination).run host = (.error failure, host) := by
  have looked : (Host.observe (Archive.load · path)).run host = (.error failure, host) := by
    rw [Effect.run_observe, refused]
  unfold Archive.extractAll
  rw [Effect.run_bind_of_error looked]

/-- The archive is opened again, and its entries are extracted next. -/
theorem Reaches.opening {loaded : Archive.Contents}
    (opened : Archive.load host (batch.archive i) = .ok loaded) :
    batch.Reaches i (.busy wanted classes workspace .opening, host)
      (.busy wanted classes workspace (.extracting loaded.entries), host) := by
  exact of_ok (by rw [run_opening, opened]; rfl)

/-- A search that fails leads to the removal of the workspace. -/
theorem Reaches.search_error {failure : Failure}
    (ran : (batch.search i wanted classes workspace).run host = (.error failure, after)) :
    batch.Reaches i (.busy wanted classes workspace .opening, host)
      (.leaving workspace (.error failure), after) := by
  unfold Batch.search at ran
  cases opened : Archive.load host (batch.archive i) with
  | error refused =>
    rw [Effect.run_bind_of_error (run_extractAll_of_error opened)] at ran
    cases ran
    exact of_error (by rw [run_opening, opened]; rfl)
  | ok loaded =>
    refine (opening opened).trans ?_
    rcases extracted : (Archive.extractEntries workspace.path loaded.entries).run host
      with ⟨fault | done, filled⟩
    · have all : (Archive.extractAll (batch.archive i) workspace.path).run host =
          (.error (.extraction (batch.archive i) (.archive fault)), filled) := by
        rw [run_extractAll opened, Effect.run_adapt, extracted]
        rfl
      rw [Effect.run_bind_of_error all] at ran
      cases ran
      exact extracting_error extracted
    · have all : (Archive.extractAll (batch.archive i) workspace.path).run host =
          (.ok (), filled) := by
        rw [run_extractAll opened]
        exact Effect.run_adapt_eq_ok.mpr extracted
      rw [Effect.run_bind_of_ok all] at ran
      rw [Effect.run_observe] at ran
      obtain ⟨unread, rfl⟩ := Prod.mk.inj ran
      exact (extracting extracted).trans (of_error (by rw [run_extracting_nil, unread]; rfl))

/-- A search that succeeds hands the class to the engine. -/
theorem Reaches.search_ok {located : Located}
    (ran : (batch.search i wanted classes workspace).run host = (.ok located, after)) :
    batch.Reaches i (.busy wanted classes workspace .opening, host)
      (.busy wanted classes workspace (.consulting located.name located.bytes
        (batch.inquire located.name batch.options)), after) := by
  unfold Batch.search at ran
  obtain ⟨_, filled, extracted, looked⟩ := Effect.run_bind_eq_ok.mp ran
  cases opened : Archive.load host (batch.archive i) with
  | error refused =>
    rw [run_extractAll_of_error opened] at extracted
    cases extracted
  | ok loaded =>
    rw [run_extractAll opened] at extracted
    obtain ⟨read, rfl⟩ := Effect.run_observe_eq_ok.mp looked
    exact (opening opened).trans ((extracting (Effect.run_adapt_eq_ok.mp extracted)).trans
      (of_ok (by rw [run_extracting_nil, read]; rfl)))

/-- The engine makes of a class from a workspace what its inquiry comes to, and the workspace is
removed. -/
theorem run_decompileLocated {located : Located} (comes : located.workspace = some workspace) :
    (batch.decompiler.decompileLocated located).run host =
      (((batch.inquire located.name batch.options).run
          (lookupFor located.name located.bytes (workspace.lookup host))).mapError
        fun fault => .engine fault.message, host.removeAll workspace.path) := by
  have told : located.auxiliary host = workspace.lookup host := by
    funext asked
    rw [Located.auxiliary, comes, Option.bind_some]
  unfold Decompiler.decompileLocated
  rw [ExceptT.run_mk, told, Located.release, comes]
  rfl

/-- The service searches the archive and hands what it finds to the engine. -/
theorem outcome_eq (batch : Batch ι) (i : ι) (host : Host) :
    batch.outcome host i =
      let ran := (do
        let located ← batch.settings.findInArchive (batch.archive i) (batch.className i)
        batch.decompiler.decompileLocated located : Effect Failure String).run host
      (ran.1.mapError (⟨.jar, ·⟩), ran.2) := by
  unfold outcome Decompiler.service
  rw [Effect.run_adapt]
  rfl

/-- What a search fails with is the answer. -/
theorem outcome_of_error {failure : Failure}
    (failed : (batch.settings.findInArchive (batch.archive i) (batch.className i)).run host =
      (.error failure, after)) : batch.outcome host i = (.error ⟨.jar, failure⟩, after) := by
  rw [outcome_eq, Effect.run_bind_of_error failed]
  rfl

/-- A request that is alone comes to what the service gives, and leaves the host as the service does.
-/
theorem reaches_answer (batch : Batch ι) (i : ι) (host : Host) :
    batch.Reaches i (.asked, host)
      (.answered (batch.outcome host i).1, (batch.outcome host i).2) := by
  have ended := batch.settings.archiveSearch host (batch.archive i) (batch.className i)
  rcases ran : (batch.settings.findInArchive (batch.archive i) (batch.className i)).run host
    with ⟨result, after⟩
  rw [ran] at ended
  cases ended with
  | unnamed failure refused =>
    rw [outcome_of_error ran]
    exact .list_error (by rw [list, refused]; rfl)
  | unlisted wanted failure named refused =>
    rw [outcome_of_error ran]
    exact .list_error (by rw [list, named, refused]; rfl)
  | empty wanted classes named listed bare =>
    rw [outcome_of_error ran]
    refine .list_error ?_
    rw [list, named, listed]
    simp only [bind, Except.bind, bare]
    rfl
  | unmade wanted classes failure _ lists refused =>
    rw [outcome_of_error ran]
    exact (Reaches.list_ok lists).trans (.create_error refused)
  | cutOff wanted classes workspace made failure left lists created failed =>
    rw [outcome_of_error ran]
    refine (Reaches.list_ok lists).trans ((Reaches.create_ok created).trans ?_)
    exact (Reaches.search_error (Effect.run_bind_of_error failed)).trans (.single rfl)
  | unread wanted classes workspace made failure left lists created extracted failed =>
    rw [outcome_of_error ran]
    refine (Reaches.list_ok lists).trans ((Reaches.create_ok created).trans ?_)
    have searched : (batch.search i wanted classes workspace).run made = (.error failure, left) := by
      rw [Batch.search, Effect.run_bind_of_ok extracted, Effect.run_observe, failed]
    exact (Reaches.search_error searched).trans (.single rfl)
  | found wanted classes workspace made located _ lists created extracted primary =>
    have comes := SearchSettings.workspace_of_primaryOf primary
    rw [outcome_eq, Effect.run_bind_of_ok ran, run_decompileLocated comes]
    refine (Reaches.list_ok lists).trans ((Reaches.create_ok created).trans ?_)
    have searched : (batch.search i wanted classes workspace).run made = (.ok located, after) := by
      rw [Batch.search, Effect.run_bind_of_ok extracted, Effect.run_observe, primary]
    exact (Reaches.search_ok searched).trans ((Reaches.consulting _ _ _).trans (.single rfl))

end Searching

end DecompileServer.Batch
