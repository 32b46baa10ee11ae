import DecompileServer.Proofs.Archive.Twin
import DecompileServer.Proofs.Batch.Moves

/-!
# A request on two hosts

Two hosts mirror a request when it has come equally far on both and its workspaces are twins
(`Mirrored`). A step of the request on both keeps that (`Mirrored.advance`), as its archive lies
outside of all workspaces (`IsOutside`) and the class that it reads has been extracted (`Ready`), so
that no failure tells the path of a workspace. A step of another request keeps it as well
(`Mirrored.aside`).
-/
namespace DecompileServer.Batch

open Disk (Location Node)
open Host (Peers Twins)
open DecompileServer.Path (Gap)
open Effect (Alike)
open Function (update)

variable {ι : Type} {batch : Batch ι} {host current first second after : Host}
  {held others : ι → Option Workspace} {i j : ι} {wanted : String} {classes : List String}
  {name title : String} {base place : Location} {workspace : Workspace}

section Outside

variable {path : Path}

/-- Whether a path looks at nothing at or below the places of workspaces. -/
def IsOutside (batch : Batch ι) (host : Host) (path : Path) : Prop :=
  ∀ name base, batch.Lodges host name base → ∀ place ∈ host.visited path, ¬base <+: place

/-- A path that leads to something looks at nothing in a workspace. -/
theorem isOutside_of_nodeAt {node : Node} (closed : host.tree.IsClosed)
    (stored : host.nodeAt path = .ok node) : batch.IsOutside host path := by
  intro name base lodges place looked inside
  have found := Host.isSome_of_visited stored place looked
  rw [lodges.free_below closed inside] at found
  cases found

variable (orderly : batch.Orderly host held current) (outside : batch.IsOutside host path)
include orderly outside

/-- A path outside of all workspaces leads to what it led to at the start. -/
theorem Orderly.nodeAt_eq : current.nodeAt path = host.nodeAt path := by
  refine Host.nodeAt_eq_of_visited orderly.workingDirectory fun place looked => ?_
  refine orderly.find?_eq_of_outside ?_
  rintro ⟨i, name, base, owns, inside⟩
  exact outside name base owns.lodges place looked inside

/-- An archive outside of all workspaces holds what it held at the start. -/
theorem Orderly.load_eq : Archive.load current path = Archive.load host path := by
  rw [Archive.load, orderly.nodeAt_eq outside, Archive.load]

end Outside

/-- An archive that holds the same is listed alike. -/
theorem list_eq
    (loads : Archive.load current (batch.archive i) = Archive.load host (batch.archive i)) :
    batch.list current i = batch.list host i := by
  rw [list, Archive.classEntries, loads, list, Archive.classEntries]

section Preparing

/-- Whether each of the classes is the name of an entry that is extracted to a file. -/
def AreAmong (classes : List String) (entries : List Archive.Entry) : Prop :=
  ∀ name ∈ classes, ∃ entry ∈ entries, entry.name = name ∧ entry.extractsDirectory = false

/-- Whether each of the classes is still to be extracted, or a file of the workspace. -/
def Ready (host : Host) (classes : List String) (workspace : Workspace)
    (entries : List Archive.Entry) : Prop :=
  ∀ name ∈ classes, (∃ entry ∈ entries, entry.name = name ∧ entry.extractsDirectory = false) ∨
    host.isFile (workspace.path.join name) = true

/-- What has been done for the classes of the archive when a request has come so far. -/
def Prepared (batch : Batch ι) (host : Host) (i : ι) : Progress → Host → Prop
  | .listed _ classes, _ | .busy _ classes _ .opening, _ =>
    ∀ loaded, Archive.load host (batch.archive i) = .ok loaded → AreAmong classes loaded.entries
  | .busy _ classes workspace (.extracting entries), current =>
    Ready current classes workspace entries
  | .busy _ _ _ (.consulting ..), _ | .asked, _ | .leaving .., _ | .answered _, _ => True

/-- The classes that are listed are entries of the archive. -/
theorem areAmong_of_list {loaded : Archive.Contents}
    (listed : batch.list host i = .ok (wanted, classes))
    (opened : Archive.load host (batch.archive i) = .ok loaded) :
    AreAmong classes loaded.entries := by
  obtain ⟨_, _, listed⟩ := Effect.except_bind_eq_ok.mp listed
  obtain ⟨known, entries, listed⟩ := Effect.except_bind_eq_ok.mp listed
  obtain ⟨_, again, named⟩ := Effect.except_bind_eq_ok.mp entries
  obtain rfl := Except.ok.inj (opened.symm.trans again)
  have same : known = classes := by
    dsimp only at listed
    split at listed
    · cases listed
    · cases listed
      rfl
  subst same
  intro name member
  exact Archive.exists_of_mem_classNamesOf (Effect.except_mapError_eq_ok.mp named) member

/-- Extracting an entry gets its class ready and keeps those that are. -/
theorem Ready.extract {entry : Archive.Entry} {rest : List Archive.Entry}
    (ready : Ready host classes workspace (entry :: rest))
    (extracted : (Archive.extractEntry workspace.path entry).run host = (.ok (), after)) :
    Ready after classes workspace rest := by
  intro name member
  obtain ⟨found, inside, named, file⟩ | filed := ready name member
  · obtain rfl | later := List.mem_cons.mp inside
    · rw [← named]
      exact .inr (Archive.isFile_of_extractEntry file extracted)
    · exact .inl ⟨found, later, named, file⟩
  · have kept : ((Archive.extractEntry workspace.path entry).run host).2.isFile
        (workspace.path.join name) = true :=
      Archive.keeps_isFile_extractEntry entry host filed
    rw [extracted] at kept
    exact .inr kept

/-- A step of a request does what it has to for the classes of the archive. -/
theorem Prepared.advance {progress : Progress}
    (loads : Archive.load current (batch.archive i) = Archive.load host (batch.archive i))
    (prepared : batch.Prepared host i progress current) :
    batch.Prepared host i (batch.advance i progress current).1
      (batch.advance i progress current).2 := by
  cases progress with
  | asked =>
    rw [Batch.advance, list_eq loads]
    cases listed : batch.list host i with
    | error failure => trivial
    | ok names => exact fun loaded opened => areAmong_of_list listed opened
  | listed wanted classes =>
    rw [Batch.advance]
    rcases (Workspace.create batch.settings.workspaceRoot (batch.archive i)).run current
      with ⟨failure | workspace, after⟩
    · trivial
    · exact prepared
  | busy wanted classes workspace work =>
    rw [advance_busy]
    cases work with
    | opening =>
      rw [run_opening, loads]
      cases opened : Archive.load host (batch.archive i) with
      | error failure => trivial
      | ok loaded => exact fun name member => .inl (prepared loaded opened name member)
    | extracting entries =>
      cases entries with
      | nil =>
        rw [run_extracting_nil]
        cases SearchSettings.primaryOf current (batch.archive i) classes workspace wanted <;> trivial
      | cons entry rest =>
        rw [run_extracting_cons]
        rcases extracted : (Archive.extractEntry workspace.path entry).run current
          with ⟨fault | done, after⟩
        · trivial
        · exact Ready.extract prepared extracted
    | consulting name bytes inquiry =>
      cases inquiry with
      | ask asked next => trivial
      | answer result =>
        rw [run_answer]
        cases result <;> trivial
  | leaving workspace result => trivial
  | answered result => trivial

end Preparing

section Twinned

variable {root : Path} (peers : Peers root name title)
  (twins : Twins root name title base place first second)
include peers twins

/-- Twins hold the same class files. -/
theorem read_fileOf_eq (className : ClassName) :
    second.read ((Workspace.mk (root.join title)).fileOf className) =
      first.read ((Workspace.mk (root.join name)).fileOf className) := by
  have relative := className.isAbsolute_filePath
  unfold Workspace.fileOf
  rw [← Gap.fill_into peers.absolute peers.first relative,
    ← Gap.fill_into peers.absolute peers.second relative]
  exact twins.read_eq peers (Gap.fits_into peers.absolute _) className.enclosed_filePath

/-- Look-ups in twins find the same. -/
theorem lookup_eq : (Workspace.mk (root.join title)).lookup second =
    (Workspace.mk (root.join name)).lookup first := by
  funext asked
  unfold Workspace.lookup
  cases ClassName.ofText asked with
  | error refused => rfl
  | ok className => simp only [read_fileOf_eq peers twins]

/-- The class is read alike from twins, if what has been listed has been extracted. -/
theorem alike_primaryOf (ready : Ready first classes ⟨root.join name⟩ []) (archive : Path)
    (wanted : String) :
    Alike (fun located other => other.name = located.name ∧ other.bytes = located.bytes)
      (SearchSettings.primaryOf first archive classes ⟨root.join name⟩ wanted)
      (SearchSettings.primaryOf second archive classes ⟨root.join title⟩ wanted) := by
  unfold SearchSettings.primaryOf
  cases ClassName.ofDotted wanted with
  | error refused => exact .error _
  | ok className =>
    by_cases listed : className.filePath ∈ classes
    · obtain ⟨entry, none, _⟩ | filed := ready className.filePath listed
      · cases none
      · -- The file is there, so that no failure tells its path.
        obtain ⟨content, reads⟩ := Host.isFile_iff_exists_read.mp filed
        have here : readClass first ((Workspace.mk (root.join name)).fileOf className) =
            .ok content := by
          rw [readClass, Workspace.fileOf, reads]
          rfl
        have there : readClass second ((Workspace.mk (root.join title)).fileOf className) =
            .ok content := by
          rw [readClass, (read_fileOf_eq peers twins className).trans reads]
          rfl
        simp only [Except.mapError, bind, Except.bind, List.contains_eq_mem, listed, here, there]
        exact .ok ⟨rfl, rfl⟩
    · simp only [Except.mapError, bind, Except.bind, List.contains_eq_mem, listed]
      exact .error _

/-- A step with a workspace gives the same with its twin and leaves twins. -/
theorem agree_proceed (batch : Batch ι) (wanted : String) {archive : Path} {work : Work}
    (loads : Archive.load second archive = Archive.load first archive)
    (ready : work = .extracting [] → Ready first classes ⟨root.join name⟩ []) :
    ((batch.proceed archive wanted classes ⟨root.join title⟩ work).run second).1 =
        ((batch.proceed archive wanted classes ⟨root.join name⟩ work).run first).1 ∧
      Twins root name title base place
        ((batch.proceed archive wanted classes ⟨root.join name⟩ work).run first).2
        ((batch.proceed archive wanted classes ⟨root.join title⟩ work).run second).2 := by
  cases work with
  | opening =>
    rw [run_opening, run_opening, loads]
    exact ⟨rfl, twins⟩
  | extracting entries =>
    cases entries with
    | nil =>
      have alike := alike_primaryOf peers twins (ready rfl) archive wanted
      rw [run_extracting_nil, run_extracting_nil]
      refine ⟨?_, twins⟩
      cases found : SearchSettings.primaryOf first archive classes ⟨root.join name⟩ wanted with
      | error failure =>
        rw [found] at alike
        rw [alike.of_error]
      | ok located =>
        rw [found] at alike
        obtain ⟨other, found', same, bytes⟩ := alike.of_ok
        rw [found', Except.map, Except.map, same, bytes]
    | cons entry rest =>
      obtain ⟨same, kept⟩ := Archive.agree_extractEntry peers entry first second twins
      rw [run_extracting_cons, run_extracting_cons, same]
      exact ⟨rfl, kept⟩
  | consulting className bytes inquiry =>
    cases inquiry with
    | ask asked next =>
      rw [run_ask, run_ask, lookup_eq peers twins]
      exact ⟨rfl, twins⟩
    | answer result =>
      rw [run_answer, run_answer]
      exact ⟨rfl, twins⟩

end Twinned

/-- A request has come equally far on two hosts, and its workspaces hold the same. -/
inductive Mirrored (batch : Batch ι) (host : Host) :
    Progress → Host → Progress → Host → Prop where
  /-- There is no workspace. -/
  | plain (progress : Progress) (first second : Host) (without : progress.workspace? = none) :
      Mirrored batch host progress first progress second
  /-- The workspaces are twins. -/
  | busy (wanted : String) (classes : List String) (work : Work) (name title : String)
      (base place : Location) (first second : Host) (lodges : batch.Lodges host name base)
      (other : batch.Lodges host title place)
      (twins : Twins (batch.root host) name title base place first second) :
      Mirrored batch host (.busy wanted classes ⟨(batch.root host).join name⟩ work) first
        (.busy wanted classes ⟨(batch.root host).join title⟩ work) second
  /-- The workspaces are not looked at any more. -/
  | leaving (workspace other : Workspace) (result : Except Failure String) (first second : Host) :
      Mirrored batch host (.leaving workspace result) first (.leaving other result) second

/-- The names of workspaces are of one size. -/
theorem Lodges.peers (lodges : batch.Lodges host name base)
    (other : batch.Lodges host title place) : Peers (batch.root host) name title :=
  ⟨isAbsolute_root batch host, other.sized.trans lodges.sized.symm, lodges.isPlain, other.isPlain⟩

/-- The path of a workspace leads to it. -/
theorem Orderly.leadsTo (orderly : batch.Orderly host held current) (closed : host.tree.IsClosed)
    (owns : batch.Owns host held i name base) :
    current.LeadsTo ((batch.root host).join name) base := by
  obtain ⟨site, furnished⟩ := orderly.site closed owns
  exact site.leadsTo furnished

section Mirroring

variable [DecidableEq ι] (closed : host.tree.IsClosed)
include closed

/-- Workspaces that have just been made are twins. -/
theorem twins_of_makes (here : batch.Orderly host held first)
    (there : batch.Orderly host others second) (lodges : batch.Lodges host name base)
    (other : batch.Lodges host title place) (without : held i = none) (none : others i = none)
    (free : first.tree.find? base = .none) (vacant : second.tree.find? place = .none) :
    Twins (batch.root host) name title base place
      { first with tree := first.tree.put base .directory }
      { second with tree := second.tree.put place .directory } where
  leads := (here.make closed lodges without free).leadsTo closed (owns_update_self lodges)
  led := (there.make closed other none vacant).leadsTo closed (owns_update_self other)
  same inner := by
    rw [Disk.Tree.find?_put lodges.ne_nil, Disk.Tree.find?_put other.ne_nil]
    by_cases root : inner = []
    · simp [root]
    · have empty := here.closed.free_below free (List.prefix_append base inner)
      have bare := there.closed.free_below vacant (List.prefix_append place inner)
      simp [root, empty, bare]

/-- A step of the request on both hosts keeps it mirrored. -/
theorem Mirrored.advance {progress further : Progress}
    (mirrored : batch.Mirrored host progress first further second)
    (here : batch.Orderly host held first) (there : batch.Orderly host others second)
    (holds : held i = progress.workspace?) (has : others i = further.workspace?)
    (outside : batch.IsOutside host (batch.archive i))
    (prepared : batch.Prepared host i progress first)
    (sized : held i = none →
      (batch.freshName first).utf8ByteSize = (batch.freshName host).utf8ByteSize)
    (even : others i = none →
      (batch.freshName second).utf8ByteSize = (batch.freshName host).utf8ByteSize) :
    batch.Mirrored host (batch.advance i progress first).1 (batch.advance i progress first).2
      (batch.advance i further second).1 (batch.advance i further second).2 := by
  have loads : Archive.load second (batch.archive i) = Archive.load first (batch.archive i) := by
    rw [here.load_eq outside, there.load_eq outside]
  cases mirrored with
  | plain progress first second without =>
    cases progress with
    | asked =>
      rw [Batch.advance, Batch.advance, list_eq loads]
      exact .plain _ _ _ (workspace?_ofListing _)
    | listed wanted classes =>
      by_cases room : batch.HasRoom host
      · obtain ⟨name, base, lodges, free, made⟩ :=
          here.exists_create closed room (sized holds) (batch.archive i)
        obtain ⟨title, place, other, vacant, built⟩ :=
          there.exists_create closed room (even has) (batch.archive i)
        rw [Batch.advance, Batch.advance, made, built]
        exact .busy _ _ _ _ _ _ _ _ _ lodges other
          (twins_of_makes closed here there lodges other holds has free vacant)
      · obtain ⟨failure, made⟩ := run_create_of_full room (batch.archive i)
        rw [Batch.advance, Batch.advance, here.eq_of_full room, there.eq_of_full room, made]
        exact .plain _ _ _ rfl
    | busy => cases without
    | leaving => cases without
    | answered result => exact .plain _ _ _ rfl
  | busy wanted classes work name title base place first second lodges other twins =>
    have ready : work = .extracting [] → Ready first classes ⟨(batch.root host).join name⟩ [] := by
      rintro rfl
      exact prepared
    obtain ⟨same, kept⟩ := agree_proceed (lodges.peers other) twins batch wanted loads ready
    rw [advance_busy, advance_busy, same]
    rcases ((batch.proceed (batch.archive i) wanted classes ⟨(batch.root host).join name⟩ work).run
      first).1 with failure | next | text
    · exact .leaving _ _ _ _ _
    · exact .busy _ _ _ _ _ _ _ _ _ lodges other kept
    · exact .leaving _ _ _ _ _
  | leaving workspace other result first second => exact .plain _ _ _ rfl

/-- A step of another request keeps a request mirrored. -/
theorem Mirrored.aside {progress further : Progress} {next : Option Workspace}
    (mirrored : batch.Mirrored host progress first further second)
    (there : batch.Orderly host others second) (has : others i = further.workspace?)
    (moves : batch.Moves host others second j next after) (different : i ≠ j) :
    batch.Mirrored host progress first further after := by
  cases mirrored with
  | plain progress first second without => exact .plain _ _ _ without
  | busy wanted classes work name title base place first second lodges other twins =>
    have owns : batch.Owns host others i title place := ⟨has, other⟩
    have stays : batch.Owns host (update others j next) i title place :=
      (owns_update_of_ne different).mpr owns
    refine .busy _ _ _ _ _ _ _ _ _ lodges other ⟨twins.leads, ?_, fun inner => ?_⟩
    · exact (there.moves closed moves).leadsTo closed stays
    · rw [moves.find?_eq there owns different (List.prefix_append _ _)]
      exact twins.same inner
  | leaving workspace other result first second => exact .leaving _ _ _ _ _

end Mirroring

end DecompileServer.Batch
