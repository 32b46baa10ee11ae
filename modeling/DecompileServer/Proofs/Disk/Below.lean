import DecompileServer.Archive.Entry
import DecompileServer.Proofs.Disk.Place
import DecompileServer.Proofs.Effect

/-!
# Staying below a directory

A path that goes along another one and on by steps that never lead above it names a place strictly
below the directory that the first one leads to (`LeadsTo.place_below`), because such steps lead to
the names that they add up to there (`walk_resolve`). So whatever is not touched when something is
put strictly below the directory (`Tolerates`) is kept by everything that writes along such paths.
-/
namespace DecompileServer.Host

open Disk (Location Node Tree Fault)

/-- Steps that never lead above the directory in which they start, at the given depth below it. -/
def StaysFrom (depth : Nat) (steps : List String) : Prop :=
  (Archive.depthFrom depth (steps.map Path.componentOf)).isSome = true

namespace StaysFrom

variable {depth : Nat} {step : String} {rest : List String}

/-- A name leads one level down. -/
theorem of_name (notUp : step ≠ "..") :
    StaysFrom depth (step :: rest) ↔ StaysFrom (depth + 1) rest := by
  simp [StaysFrom, Path.componentOf, notUp, Archive.depthFrom]

/-- A double dot leads one level up, so there has to be one. -/
theorem of_up : StaysFrom depth (".." :: rest) ↔
    ∃ outer, depth = outer + 1 ∧ StaysFrom outer rest := by
  cases depth <;> simp [StaysFrom, Path.componentOf, Archive.depthFrom]

/-- Steps that stay inside do so up to each of them. -/
theorem of_prefix {front : List String} (stays : StaysFrom depth rest) (inside : front <+: rest) :
    StaysFrom depth front := by
  induction front generalizing depth rest with
  | nil => rfl
  | cons step front ih =>
    obtain ⟨back, rfl⟩ := inside
    rw [List.cons_append] at stays
    by_cases up : step = ".."
    · subst up
      obtain ⟨outer, rfl, stays⟩ := of_up.mp stays
      exact of_up.mpr ⟨outer, rfl, ih stays (List.prefix_append _ _)⟩
    · exact (of_name up).mpr (ih ((of_name up).mp stays) (List.prefix_append _ _))

/-- A step upwards from below some names takes back the last of them. -/
theorem of_up_names {inner : List String} (stays : StaysFrom inner.length (".." :: rest)) :
    inner ≠ [] ∧ StaysFrom inner.dropLast.length rest := by
  obtain ⟨outer, deep, stays⟩ := of_up.mp stays
  refine ⟨List.length_pos_iff.mp (by omega), ?_⟩
  rwa [List.length_dropLast, deep, Nat.add_sub_cancel]

/-- Names alone never lead upwards. -/
theorem of_names (names : ∀ step ∈ rest, step ≠ "..") : StaysFrom depth rest := by
  induction rest generalizing depth with
  | nil => rfl
  | cons step rest ih =>
    rw [of_name (names step List.mem_cons_self)]
    exact ih fun step member => names step (List.mem_cons_of_mem _ member)

end StaysFrom

/-- The names that steps add up to after others, each double dot taking back the name before it. -/
def resolve (names : List String) : List String → List String
  | [] => names
  | step :: rest => if step = ".." then resolve names.dropLast rest else resolve (names ++ [step]) rest

/-- Steps after others add up from where those end. -/
theorem resolve_append (names first second : List String) :
    resolve names (first ++ second) = resolve (resolve names first) second := by
  induction first generalizing names with
  | nil => rfl
  | cons step rest ih =>
    rw [List.cons_append, resolve, resolve]
    split <;> exact ih _

/-- A name at the end is added. -/
theorem resolve_concat {names front : List String} {name : String} (notUp : name ≠ "..") :
    resolve names (front ++ [name]) = resolve names front ++ [name] := by
  rw [resolve_append, resolve, if_neg notUp]
  rfl

/-- Names alone add up to themselves. -/
theorem resolve_of_names {names rest : List String} (each : ∀ step ∈ rest, step ≠ "..") :
    resolve names rest = names ++ rest := by
  induction rest generalizing names with
  | nil => rw [List.append_nil, resolve]
  | cons step rest ih =>
    rw [resolve, if_neg (each step List.mem_cons_self),
      ih fun other member => each other (List.mem_cons_of_mem _ member), List.append_assoc]
    rfl

/-- Steps only leave names out. -/
theorem resolve_sublist (names rest : List String) : (resolve names rest).Sublist (names ++ rest) := by
  induction rest generalizing names with
  | nil => rw [List.append_nil, resolve]
  | cons step rest ih =>
    rw [resolve]
    split
    · exact (ih _).trans ((List.dropLast_sublist names).append (List.sublist_cons_self step rest))
    · simpa using ih (names ++ [step])

/-- Steps that stay inside lead to the names that they add up to. -/
theorem walk_resolve {tree : Tree} {base inner there : Location} {steps : List String}
    (moves : ∀ step ∈ steps, step ≠ ".") (stays : StaysFrom inner.length steps)
    (walked : tree.walk (base ++ inner) steps = .ok there) : there = base ++ resolve inner steps := by
  induction steps generalizing inner with
  | nil => exact (Except.ok.inj walked).symm
  | cons step rest ih =>
    have later := fun other member => moves other (List.mem_cons_of_mem _ member)
    obtain ⟨next, stepped, further⟩ := Tree.walk_cons.mp walked
    obtain ⟨_, ⟨dot, _⟩ | ⟨up, led⟩ | ⟨_, notUp, _, _, led⟩⟩ := Tree.step_eq_ok_iff.mp stepped
    · exact absurd dot (moves step List.mem_cons_self)
    · subst up
      obtain ⟨some, stays⟩ := StaysFrom.of_up_names stays
      rw [led, List.dropLast_append_of_ne_nil some] at further
      rw [resolve, if_pos rfl]
      exact ih later stays further
    · rw [led, List.append_assoc] at further
      rw [resolve, if_neg notUp]
      refine ih later ?_ further
      rw [List.length_append]
      exact (StaysFrom.of_name notUp).mp stays

/-- Steps of a path that never lead above the directory in which they start. -/
structure Enclosed (rest : List String) : Prop where
  /-- None is a single dot. -/
  moves : ∀ step ∈ rest, step ≠ "."
  /-- None leads too far up. -/
  stays : StaysFrom 0 rest

/-- Steps at the front of such steps are such steps. -/
theorem Enclosed.of_prefix {front rest : List String} (enclosed : Enclosed rest)
    (inside : front <+: rest) : Enclosed front :=
  ⟨fun step member => enclosed.moves step (inside.subset member), enclosed.stays.of_prefix inside⟩

/-- A path that goes along another one, and further steps from there, up to one of them. -/
structure Continues (root : Path) (rest : List String) (target : Path) : Prop where
  /-- The two paths start in the same directory. -/
  start : target.isAbsolute = root.isAbsolute
  /-- The steps of the path are at the front of those. -/
  inside : target.steps <+: root.steps ++ rest

/-- A directory stands where the steps of a path lead. -/
structure LeadsTo (host : Host) (path : Path) (base : Location) : Prop where
  /-- The steps lead there. -/
  walked : host.tree.walk (host.start path) path.steps = .ok base
  /-- A directory stands there. -/
  standing : host.tree.find? base = some .directory

/-- Whether a location lies strictly below another one. -/
def StrictlyBelow (base location : Location) : Prop :=
  base <+: location ∧ location ≠ base

variable {host after : Host} {root target : Path} {base directory location : Location}
  {rest : List String} {name : String}

/-- Paths that start in the same directory start at the same location. -/
theorem start_eq (same : target.isAbsolute = root.isAbsolute) :
    host.start target = host.start root := by
  rw [start, start, same]

namespace Continues

/-- The path of components at the front of a path that goes along another one goes along it. -/
theorem front {components : List Path.Component} (continues : Continues root rest target)
    (rooted : target.isAbsolute = true → components ≠ [])
    (inside : components <+: target.components) :
    Continues root rest (Path.ofComponents components) := by
  obtain ⟨start, shorter⟩ := Path.steps_of_prefix inside rooted
  exact ⟨start.trans continues.start, shorter.trans continues.inside⟩

/-- The path of the directory above one that goes along another path goes along it. -/
theorem parent {above : Path} (continues : Continues root rest target)
    (found : target.parent? = some above) : Continues root rest above := by
  obtain ⟨components, known, rfl⟩ := Option.map_eq_some_iff.mp found
  exact continues.front (fun absolute => Path.ne_nil_of_parentComponents? absolute known)
    (Path.prefix_of_parentComponents? known)

end Continues

namespace LeadsTo

/-- The steps of a path lead to one place only. -/
theorem unique {other : Location} (leads : host.LeadsTo root base) (led : host.LeadsTo root other) :
    base = other :=
  Except.ok.inj (leads.walked.symm.trans led.walked)

/-- Places on the way to the directory hold directories. -/
theorem standing_of_prefix (leads : host.LeadsTo root base)
    (start : target.isAbsolute = root.isAbsolute) (onTheWay : target.steps <+: root.steps)
    (names : host.Names target directory name) :
    host.tree.find? (directory ++ [name]) = some .directory := by
  obtain ⟨above, whole, walked⟩ := names.steps_eq
  rw [start_eq start] at walked
  rw [whole] at onTheWay
  obtain ⟨further, rest⟩ := onTheWay
  have led := leads.walked
  rw [← rest] at led
  obtain ⟨there, reached, further⟩ := Tree.walk_append.mp led
  obtain ⟨before, came, stepped⟩ := Tree.walk_concat.mp reached
  obtain rfl := Except.ok.inj (walked.symm.trans came)
  obtain ⟨_, ⟨dot, _⟩ | ⟨up, _⟩ | ⟨_, _, _, _, rfl⟩⟩ := Tree.step_eq_ok_iff.mp stepped
  · exact absurd dot names.notHere
  · exact absurd up names.notUp
  · exact Tree.isDirectory_of_walk leads.standing further

/-- A place that is named by a path that goes on from the directory, and holds no directory, lies
strictly below it. -/
theorem place_below (leads : host.LeadsTo root base) (enclosed : Enclosed rest)
    (continues : Continues root rest target) (names : host.Names target directory name)
    (vacant : host.tree.find? (directory ++ [name]) ≠ some .directory) :
    StrictlyBelow base (directory ++ [name]) := by
  refine ⟨?_, fun same => vacant (same ▸ leads.standing)⟩
  obtain ⟨above, whole, walked⟩ := names.steps_eq
  rw [start_eq continues.start] at walked
  have inside := continues.inside
  rw [whole] at inside
  have led := leads.walked
  -- The path ends on the way to the directory, where directories stand, or goes on from there.
  by_cases onTheWay : above ++ [name] <+: root.steps
  · exact absurd (leads.standing_of_prefix continues.start (whole ▸ onTheWay) names) vacant
  · obtain shorter | longer :=
      List.prefix_or_prefix_of_prefix inside (List.prefix_append root.steps rest)
    · exact absurd shorter onTheWay
    · obtain last | before := List.prefix_concat_iff.mp longer
      · rw [last] at onTheWay
        exact absurd (List.prefix_refl _) onTheWay
      · obtain ⟨front, rfl⟩ := before
        rw [List.append_assoc, List.prefix_append_right_inj] at inside
        obtain ⟨there, reached, further⟩ := Tree.walk_append.mp walked
        obtain rfl := Except.ok.inj (led.symm.trans reached)
        have within : front <+: rest := (List.prefix_append _ _).trans inside
        have start : host.tree.walk (base ++ []) front = .ok directory := by
          rwa [List.append_nil]
        have stays : StaysFrom ([] : Location).length front :=
          enclosed.stays.of_prefix within
        rw [walk_resolve (fun step member => enclosed.moves step (within.subset member)) stays start,
          List.append_assoc]
        exact List.prefix_append _ _

/-- Steps after a path go on from where it leads: all but the last to the directory of the place that
they name, and the last is its name. -/
theorem walk_further (led : host.tree.walk (host.start root) root.steps = .ok base)
    (start : target.isAbsolute = root.isAbsolute) (whole : target.steps = root.steps ++ rest)
    (some : rest ≠ []) (names : host.Names target directory name) :
    host.tree.walk base rest.dropLast = .ok directory ∧ rest.getLast some = name := by
  obtain ⟨above, same, walked⟩ := names.steps_eq
  rw [start_eq start] at walked
  rw [whole, ← List.dropLast_concat_getLast some, ← List.append_assoc] at same
  obtain ⟨front, last⟩ := List.append_inj' same rfl
  rw [← front] at walked
  obtain ⟨there, reached, further⟩ := Tree.walk_append.mp walked
  obtain rfl := Except.ok.inj (led.symm.trans reached)
  exact ⟨further, List.singleton_inj.mp last⟩

/-- A path leads to a directory if one that goes on from it names a place. -/
theorem of_names (led : host.locate root = .ok base) (start : target.isAbsolute = root.isAbsolute)
    (whole : target.steps = root.steps ++ rest) (some : rest ≠ [])
    (names : host.Names target directory name) : host.LeadsTo root base := by
  have walked := walk_steps_of_locate led
  have further := (walk_further walked start whole some names).1
  exact ⟨walked, Tree.isDirectory_of_walk names.stands.2 further⟩

/-- Steps after a path that never lead above the directory name the location that they add up to
below it. -/
theorem place_resolve (leads : host.LeadsTo root base)
    (start : target.isAbsolute = root.isAbsolute) (whole : target.steps = root.steps ++ rest)
    (some : rest ≠ []) (enclosed : Enclosed rest) (names : host.Names target directory name) :
    directory ++ [name] = base ++ resolve [] rest := by
  obtain ⟨further, last⟩ := walk_further leads.walked start whole some names
  rw [← List.append_nil base] at further
  have inside := enclosed.of_prefix (List.dropLast_prefix rest)
  have stays : StaysFrom ([] : Location).length rest.dropLast := inside.stays
  rw [walk_resolve inside.moves stays further, List.append_assoc, ← resolve_concat names.notUp,
    ← last, List.dropLast_concat_getLast]

/-- Names after a path name the location that they make up below the directory. -/
theorem place_eq (leads : host.LeadsTo root base) (start : target.isAbsolute = root.isAbsolute)
    (whole : target.steps = root.steps ++ rest) (some : rest ≠ [])
    (each : ∀ step ∈ rest, step ≠ "." ∧ step ≠ "..") (names : host.Names target directory name) :
    directory ++ [name] = base ++ rest := by
  have enclosed : Enclosed rest := ⟨fun step member => (each step member).1,
    StaysFrom.of_names fun step member => (each step member).2⟩
  rw [leads.place_resolve start whole some enclosed names,
    resolve_of_names fun step member => (each step member).2, List.nil_append]

/-- A place that is named by a path that goes on from the directory by some of the given names, and
holds no directory, is where those names lead. -/
theorem place_front (leads : host.LeadsTo root base) (continues : Continues root rest target)
    (each : ∀ step ∈ rest, step ≠ "." ∧ step ≠ "..") (names : host.Names target directory name)
    (vacant : host.tree.find? (directory ++ [name]) ≠ some .directory) :
    ∃ front, front ≠ [] ∧ front <+: rest ∧ directory ++ [name] = base ++ front := by
  by_cases onTheWay : target.steps <+: root.steps
  · exact absurd (leads.standing_of_prefix continues.start onTheWay names) vacant
  · obtain shorter | ⟨front, whole⟩ :=
      List.prefix_or_prefix_of_prefix continues.inside (List.prefix_append root.steps rest)
    · exact absurd shorter onTheWay
    · have some : front ≠ [] := by
        rintro rfl
        rw [List.append_nil] at whole
        exact onTheWay (whole ▸ List.prefix_refl _)
      have within : front <+: rest := by
        have inside := continues.inside
        rwa [← whole, List.prefix_append_right_inj] at inside
      exact ⟨front, some, within, leads.place_eq continues.start whole.symm some
        (fun step member => each step (within.subset member)) names⟩

/-- Names after a path lead to the location that they make up below a directory. -/
theorem of_locate (start : target.isAbsolute = root.isAbsolute)
    (whole : target.steps = root.steps ++ rest) (some : rest ≠ [])
    (each : ∀ step ∈ rest, step ≠ "." ∧ step ≠ "..") (led : host.locate target = .ok location) :
    ∃ base, host.LeadsTo root base ∧ location = base ++ rest := by
  have walked := walk_steps_of_locate led
  rw [start_eq start, whole] at walked
  obtain ⟨base, reached, further⟩ := Tree.walk_append.mp walked
  obtain ⟨first, more, rfl⟩ := List.exists_cons_of_ne_nil some
  obtain ⟨next, stepped, _⟩ := Tree.walk_cons.mp further
  exact ⟨base, ⟨reached, (Tree.step_eq_ok_iff.mp stepped).1⟩, Tree.walk_names each further⟩

/-- The path still leads to the directory when something is put where no directory stands. -/
theorem put (leads : host.LeadsTo root base) (node : Node)
    (vacant : host.tree.find? (directory ++ [name]) ≠ some .directory) :
    Host.LeadsTo { host with tree := host.tree.put (directory ++ [name]) node } root base := by
  have elsewhere : ∀ place, host.tree.find? place = some .directory →
      (host.tree.put (directory ++ [name]) node).find? place = some .directory := by
    intro place standing
    have other : place ≠ directory ++ [name] := fun same => vacant (same ▸ standing)
    rw [Tree.find?_put (by simp), if_neg other]
    exact standing
  refine ⟨Tree.walk_mono elsewhere ?_ leads.walked, elsewhere base leads.standing⟩
  intro place stored
  rw [Tree.find?_put (by simp)]
  split
  · rfl
  · exact stored

end LeadsTo

/-- Making a directory with those above it keeps what each making of a directory along its path
keeps. -/
theorem keeps_makeDirectories {holds : Host → Prop} (continues : Continues root rest target)
    (kept : ∀ upper host after, Continues root rest upper → holds host →
      host.makeDirectory upper = .ok after → holds after) :
    Effect.Keeps holds (Host.makeDirectories target) := by
  unfold Host.makeDirectories
  split
  · exact Effect.Keeps.pure ()
  · refine Effect.Keeps.makeDirectoryAfter (fun host after => kept target host after continues) ?_
    split
    · exact Effect.Keeps.throw _
    · rename_i above found
      refine Effect.Keeps.makeDirectoriesUp fun upper some ending host after => ?_
      have inside : upper.reverse <+: target.components := by
        refine List.IsPrefix.trans ?_ (Path.prefix_of_parentComponents? found)
        rw [← List.reverse_suffix, List.reverse_reverse]
        exact ending
      exact kept _ host after (continues.front (fun _ => by simpa using some) inside)

/-- Whether a property of hosts outlasts that something is put strictly below the directory that a
path leads to. -/
structure Tolerates (root : Path) (base : Location) (holds : Host → Prop) : Prop where
  /-- The path leads to the directory. -/
  leads : ∀ host, holds host → host.LeadsTo root base
  /-- Something may be put in a directory where none stands. -/
  put : ∀ host directory name node, holds host → host.tree.find? directory = some .directory →
    host.tree.find? (directory ++ [name]) ≠ some .directory →
    StrictlyBelow base (directory ++ [name]) →
    holds { host with tree := host.tree.put (directory ++ [name]) node }

namespace Tolerates

variable {holds : Host → Prop} (tolerates : Tolerates root base holds) (enclosed : Enclosed rest)
  (continues : Continues root rest target)
include tolerates enclosed continues

/-- Writing a file below the directory keeps what tolerates it. -/
theorem write {content : List UInt8} (held : holds host)
    (written : host.write target content = .ok after) : holds after := by
  obtain ⟨_, directory, name, executable, names, vacant, rfl⟩ := write_eq_ok written
  exact tolerates.put _ _ _ _ held names.stands.2 vacant
    ((tolerates.leads host held).place_below enclosed continues names vacant)

/-- Making a directory below the directory keeps what tolerates it. -/
theorem makeDirectory (held : holds host) (made : host.makeDirectory target = .ok after) :
    holds after := by
  obtain ⟨directory, name, names, free, rfl⟩ := makeDirectory_eq_ok made
  have vacant : host.tree.find? (directory ++ [name]) ≠ some .directory := by simp [free]
  exact tolerates.put _ _ _ _ held names.stands.2 vacant
    ((tolerates.leads host held).place_below enclosed continues names vacant)

/-- Making a directory below the directory with those above it keeps what tolerates it. -/
theorem makeDirectories : Effect.Keeps holds (Host.makeDirectories target) :=
  keeps_makeDirectories continues fun _ _ _ along held made =>
    tolerates.makeDirectory enclosed along held made

end Tolerates

/-- A host that differs from another one only strictly below the directory that a path leads to. -/
structure Within (origin : Host) (root : Path) (base : Location) (host : Host) : Prop where
  /-- The path leads to the directory. -/
  leads : host.LeadsTo root base
  /-- Everything else is the same. -/
  outside : ∀ location, ¬StrictlyBelow base location →
    host.tree.find? location = origin.tree.find? location
  /-- The working directory is the same. -/
  workingDirectory : host.workingDirectory = origin.workingDirectory
  /-- The environment is the same. -/
  environment : host.environment = origin.environment

/-- A host does not differ from itself. -/
theorem Within.refl (leads : host.LeadsTo root base) : Within host root base host :=
  ⟨leads, fun _ _ => rfl, rfl, rfl⟩

/-- Putting something strictly below the directory changes nothing else. -/
theorem tolerates_within (origin : Host) : Tolerates root base (Within origin root base) where
  leads _ within := within.leads
  put host directory name node within stands vacant below := by
    refine ⟨within.leads.put node vacant, ?_, within.workingDirectory, within.environment⟩
    intro location outside
    have other : location ≠ directory ++ [name] := fun same => outside (same ▸ below)
    rw [Tree.find?_put (by simp), if_neg other]
    exact within.outside location outside

end DecompileServer.Host
