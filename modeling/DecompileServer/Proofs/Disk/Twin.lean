import DecompileServer.Proofs.Disk.Below
import DecompileServer.Proofs.Gap

/-!
# Directories with the same content

Twins are directories with the same content under two names of one size, each on a host of its own.
A path that goes on from the one and the path that goes on alike from the other lead to the same
(`nodeAt_eq`), and directories that are made and files that are written along them leave twins
(`agree_makeDirectories`, `alike_write`).
-/
namespace DecompileServer.Host

open Disk (Location Node Tree Fault)
open DecompileServer.Path (Gap IsPlain)
open Effect (Agree Alike)

/-- Two names of one size in the directory that a path from the root directory on leads to. -/
structure Peers (root : Path) (first second : String) : Prop where
  /-- The path starts at the root directory. -/
  absolute : root.isAbsolute = true
  /-- Both texts have as many bytes. -/
  sized : second.utf8ByteSize = first.utf8ByteSize
  /-- The first text is a name. -/
  first : IsPlain first
  /-- The second text is a name. -/
  second : IsPlain second

/-- Two directories hold the same, and the names lead to them. -/
structure Twins (root : Path) (first second : String) (base copy : Location)
    (host other : Host) : Prop where
  /-- The first name leads to the one. -/
  leads : host.LeadsTo (root.join first) base
  /-- The second name leads to the other. -/
  led : other.LeadsTo (root.join second) copy
  /-- Both hold the same. -/
  same : ∀ inner, other.tree.find? (copy ++ inner) = host.tree.find? (base ++ inner)

/-- Two locations lie alike below two directories. -/
def Counterparts (base copy location place : Location) : Prop :=
  ∃ inner, location = base ++ inner ∧ place = copy ++ inner

/-- Two places for something new lie alike below two directories, or neither is one. -/
inductive Place.Counterparts (base copy : Location) : Place → Place → Prop where
  /-- Neither path ends in a new name. -/
  | standing (location place : Location) :
      Counterparts base copy (.standing location) (.standing place)
  /-- Both paths do. -/
  | named (directory : Location) (name : String) (folder : Location) (title : String)
      (below : Host.Counterparts base copy (directory ++ [name]) (folder ++ [title])) :
      Counterparts base copy (.named directory name) (.named folder title)

/-- The place that the last piece of a path makes of the directory before it. -/
def Place.ending (last : String) (directory : Location) : Except Fault Place :=
  if last = "." ∨ last = ".." then .ok (.standing directory)
  else if Tree.nameLimit < last.utf8ByteSize then .error .nameTooLong
  else .ok (.named directory last)

variable {host other : Host} {root : Path} {name first second : String} {base copy : Location}
  {gap : Gap} {rest : List String}

section Leading

variable (absolute : root.isAbsolute = true) (plain : IsPlain name)
  (leads : host.LeadsTo (root.join name) base) (fits : gap.Fits root rest)
include absolute plain leads

/-- The steps of a path and a name in it lead to the directory with the name. -/
theorem LeadsTo.walk_steps : host.tree.walk [] (root.steps ++ [name]) = .ok base := by
  have filled := Gap.fill_below absolute plain
  have walked := leads.walked
  rw [← filled, Gap.steps_fill (Gap.fits_below absolute) plain,
    start, if_pos (Gap.isAbsolute_fill (Gap.fits_below absolute) name)] at walked
  exact walked

include fits

/-- A filled gap leads on from the directory with the name. -/
theorem LeadsTo.walk_fill (further : List String) :
    host.tree.walk (host.start (gap.fill name)) ((Path.mk gap.before).pieces ++ name :: further) =
      host.tree.walk base further := by
  have front : host.tree.walk [] ((Path.mk gap.before).pieces ++ [name]) = .ok base := by
    refine Tree.walk_of_filter leads.standing ?_
    have steps : (Path.mk gap.before).pieces.filter (· ≠ ".") = root.steps := fits.before
    rw [List.filter_append, steps, List.filter_cons_of_pos (by simp [plain.notHere])]
    exact leads.walk_steps absolute plain
  rw [start, if_pos (Gap.isAbsolute_fill fits name), ← List.singleton_append, ← List.append_assoc]
  exact Tree.walk_append_of_ok front further

/-- A path that ends in the name of a directory names it. -/
theorem LeadsTo.names_fill (accepted : (gap.fill name).acceptedPieces = .ok (gap.fill name).pieces)
    (last : (Path.mk gap.after).pieces = []) :
    ∃ directory, host.Names (gap.fill name) directory name ∧ directory ++ [name] = base := by
  have pieces := Gap.pieces_fill fits plain
  have walked := leads.walk_fill absolute plain fits []
  rw [last] at pieces
  obtain ⟨directory, front, stepped⟩ := Tree.walk_concat.mp walked
  obtain ⟨standing, ⟨dot, _⟩ | ⟨up, _⟩ | ⟨_, _, short, _, rfl⟩⟩ := Tree.step_eq_ok_iff.mp stepped
  · exact absurd dot plain.notHere
  · exact absurd up plain.notUp
  · refine ⟨directory, ⟨accepted, by simp [pieces], plain.notHere, plain.notUp, short, ?_⟩, rfl⟩
    rw [pieces, List.dropLast_concat]
    exact Tree.walk_concat_here.mpr ⟨front, standing⟩

/-- A path that goes on after the name of a directory goes on below it. -/
theorem LeadsTo.place_fill {front : List String} {last : String}
    (accepted : (gap.fill name).acceptedPieces = .ok (gap.fill name).pieces)
    (whole : (Path.mk gap.after).pieces = front ++ [last]) :
    host.place (gap.fill name) = host.tree.walk base (front ++ ["."]) >>= Place.ending last := by
  have pieces : (gap.fill name).pieces =
      ((Path.mk gap.before).pieces ++ name :: front) ++ [last] := by
    rw [Gap.pieces_fill fits plain, whole, List.append_assoc, List.cons_append]
  have onwards := leads.walk_fill absolute plain fits (front ++ ["."])
  rw [← List.cons_append, ← List.append_assoc] at onwards
  unfold place
  rw [accepted, pieces, ← onwards]
  simp only [bind, Except.bind, List.getLast?_concat, List.dropLast_concat]
  rfl

/-- A path to the directory itself never misses a directory above it. -/
theorem LeadsTo.ne_nil_of_missing (peer : IsPlain second)
    (sized : second.utf8ByteSize = name.utf8ByteSize)
    (missing : host.makeDirectory (gap.fill name) = .error .missing) : rest ≠ [] := by
  rintro rfl
  unfold makeDirectory at missing
  obtain ⟨accepted, _⟩ | ⟨fault, notMissing, refused, _⟩ := Gap.accepts_fill fits plain peer sized
  · obtain none | ⟨front, last, whole⟩ := List.eq_nil_or_concat' (Path.mk gap.after).pieces
    · obtain ⟨directory, names, here⟩ := leads.names_fill absolute plain fits accepted none
      simp [place_eq_named.mpr names, bind, Except.bind, here, leads.standing] at missing
    · -- Only single dots come after the name, and they stay in the directory.
      have none : (front ++ [last]).filter (· ≠ ".") = [] := by
        rw [← whole]
        exact fits.after
      rw [List.filter_append, List.append_eq_nil_iff] at none
      have dot : last = "." := by simpa using none.2
      have walked : host.tree.walk base (front ++ ["."]) = .ok base := by
        refine Tree.walk_of_filter leads.standing ?_
        rw [List.filter_append, none.1]
        rfl
      rw [leads.place_fill absolute plain fits accepted whole, walked] at missing
      simp [Place.ending, dot, bind, Except.bind] at missing
  · simp only [place, refused, bind, Except.bind] at missing
    exact notMissing (Except.error.inj missing)

end Leading

section Twinned

variable (peers : Peers root first second) (fits : gap.Fits root rest) (enclosed : Enclosed rest)
  (twins : Twins root first second base copy host other)

/-- Steps that stay inside lead alike below twins. -/
theorem Twins.alike_walk {inner : Location} {pieces : List String}
    (twins : Twins root first second base copy host other)
    (stays : StaysFrom inner.length (pieces.filter (· ≠ "."))) :
    Alike (Counterparts base copy) (host.tree.walk (base ++ inner) pieces)
      (other.tree.walk (copy ++ inner) pieces) := by
  induction pieces generalizing inner with
  | nil => exact .ok ⟨inner, rfl, rfl⟩
  | cons piece rest ih =>
    rw [Tree.walk, Tree.walk, Tree.step, Tree.step, twins.same inner]
    cases host.tree.find? (base ++ inner) with
    | none => exact .error _
    | some node =>
      cases node with
      | file content executable => exact .error _
      | directory =>
        by_cases dot : piece = "."
        · subst dot
          rw [List.filter_cons_of_neg (by simp)] at stays
          simpa using ih stays
        · rw [List.filter_cons_of_pos (by simpa using dot)] at stays
          by_cases up : piece = ".."
          · subst up
            obtain ⟨some, stays⟩ := StaysFrom.of_up_names stays
            simpa [List.dropLast_append_of_ne_nil some] using ih stays
          · rw [StaysFrom.of_name up] at stays
            have deeper : (inner ++ [piece]).length = inner.length + 1 := by simp
            rw [← deeper] at stays
            have longer := ih stays
            have known := twins.same (inner ++ [piece])
            simp only [← List.append_assoc] at longer known
            simp only [dot, up, ↓reduceIte, known]
            by_cases long : Tree.nameLimit < piece.utf8ByteSize
            · simp only [long, ↓reduceIte]
              exact .error _
            · by_cases stored : (host.tree.find? (base ++ inner ++ [piece])).isSome = true
              · simpa only [long, stored, ↓reduceIte] using longer
              · simp only [long, stored, ↓reduceIte]
                exact .error _

include peers fits enclosed twins

/-- Paths that go on alike from twins lead alike. -/
theorem Twins.alike_locate : Alike (Counterparts base copy) (host.locate (gap.fill first))
    (other.locate (gap.fill second)) := by
  unfold locate
  obtain ⟨accepted, accepts⟩ | ⟨fault, _, refused, refuses⟩ :=
    Gap.accepts_fill fits peers.first peers.second peers.sized
  · rw [accepted, accepts, Gap.endsInSlash_fill peers.first, Gap.endsInSlash_fill peers.second,
      Gap.pieces_fill fits peers.first, Gap.pieces_fill fits peers.second]
    simp only [bind, Except.bind, List.append_assoc, List.cons_append]
    rw [twins.leads.walk_fill peers.absolute peers.first fits,
      twins.led.walk_fill peers.absolute peers.second fits]
    have stays : StaysFrom ([] : Location).length (((Path.mk gap.after).pieces ++
        if (gap.after.toList.getLast? == some '/') = true then ["."] else []).filter (· ≠ ".")) := by
      have dots : (if (gap.after.toList.getLast? == some '/') = true then ["."] else []).filter
          (· ≠ ".") = [] := by split <;> rfl
      have steps : (Path.mk gap.after).pieces.filter (· ≠ ".") = rest := fits.after
      rw [List.filter_append, dots, List.append_nil, steps]
      exact enclosed.stays
    have alike := twins.alike_walk stays
    rwa [List.append_nil, List.append_nil] at alike
  · rw [refused, refuses]
    exact .error _

/-- Paths that go on alike from twins lead to the same. -/
theorem Twins.nodeAt_eq : other.nodeAt (gap.fill second) = host.nodeAt (gap.fill first) := by
  refine (twins.alike_locate peers fits enclosed).bind_eq ?_
  rintro _ _ ⟨inner, rfl, rfl⟩
  simp only [twins.same]

/-- Paths that go on alike from twins read the same. -/
theorem Twins.read_eq : other.read (gap.fill second) = host.read (gap.fill first) := by
  rw [read, read, twins.nodeAt_eq peers fits enclosed]

/-- Paths that go on alike from twins both lead to a directory, or neither does. -/
theorem Twins.isDirectory_eq :
    other.isDirectory (gap.fill second) = host.isDirectory (gap.fill first) := by
  rw [isDirectory, isDirectory, twins.nodeAt_eq peers fits enclosed]

/-- Paths that go on alike from twins both lead somewhere, or neither does. -/
theorem Twins.holds_eq : other.holds (gap.fill second) = host.holds (gap.fill first) := by
  rw [holds, holds, twins.nodeAt_eq peers fits enclosed]

/-- Paths that go on alike from twins would put something new at counterparts. -/
theorem Twins.alike_place : Alike (Place.Counterparts base copy) (host.place (gap.fill first))
    (other.place (gap.fill second)) := by
  obtain ⟨accepted, accepts⟩ | ⟨fault, _, refused, refuses⟩ :=
    Gap.accepts_fill fits peers.first peers.second peers.sized
  · obtain none | ⟨front, last, whole⟩ := List.eq_nil_or_concat' (Path.mk gap.after).pieces
    · obtain ⟨directory, names, here⟩ :=
        twins.leads.names_fill peers.absolute peers.first fits accepted none
      obtain ⟨folder, titles, there⟩ :=
        twins.led.names_fill peers.absolute peers.second fits accepts none
      rw [place_eq_named.mpr names, place_eq_named.mpr titles]
      exact .ok (.named _ _ _ _ ⟨[], by simp [here], by simp [there]⟩)
    · have stays : StaysFrom ([] : Location).length ((front ++ ["."]).filter (· ≠ ".")) := by
        refine enclosed.stays.of_prefix ?_
        have steps : (Path.mk gap.after).pieces.filter (· ≠ ".") = rest := fits.after
        rw [← steps, whole, List.filter_append, List.filter_append]
        simp
      have alike := twins.alike_walk stays
      rw [List.append_nil, List.append_nil] at alike
      rw [twins.leads.place_fill peers.absolute peers.first fits accepted whole,
        twins.led.place_fill peers.absolute peers.second fits accepts whole]
      refine alike.bind ?_
      rintro _ _ ⟨inner, rfl, rfl⟩
      unfold Place.ending
      split
      · exact .ok (.standing _ _)
      · split
        · exact .error _
        · exact .ok (.named _ _ _ _ ⟨inner ++ [last], by simp, by simp⟩)
  · simp only [place, refused, refuses, bind, Except.bind]
    exact .error _

end Twinned

section Outer

variable {path : Path}

/-- A directory with a name in it is there. -/
theorem LeadsTo.holds_outer (absolute : root.isAbsolute = true) (plain : IsPlain name)
    (leads : host.LeadsTo (root.join name) base) (starts : path.isAbsolute = true)
    (same : path.steps = root.steps) (accepted : path.acceptedPieces = .ok path.pieces) :
    host.holds path = true := by
  obtain ⟨directory, walked, stepped⟩ := Tree.walk_concat.mp (leads.walk_steps absolute plain)
  have standing := (Tree.step_eq_ok_iff.mp stepped).1
  have dots : (if path.endsInSlash = true then ["."] else []).filter (· ≠ ".") = [] := by
    split <;> rfl
  have led : host.tree.walk [] (path.pieces ++ if path.endsInSlash then ["."] else []) =
      .ok directory := by
    refine Tree.walk_of_filter standing ?_
    rw [List.filter_append, dots, List.append_nil]
    exact (congrArg (host.tree.walk []) same).trans walked
  simp [holds, nodeAt, locate, accepted, start, starts, led, standing, bind, Except.bind,
    Except.toBool]

/-- A path that the system refuses leads nowhere. -/
theorem holds_of_refused {fault : Fault} (refused : path.acceptedPieces = .error fault) :
    host.holds path = false := by
  simp [holds, nodeAt, locate, refused, bind, Except.bind, Except.toBool]

/-- No directory is made along a path that the system refuses. -/
theorem run_makeDirectories_of_refused {fault : Fault}
    (refused : path.acceptedPieces = .error fault) (other : fault ≠ .missing) :
    (makeDirectories path).run host = (.error fault, host) := by
  have filled : path.text ≠ "" := by
    intro none
    unfold Path.acceptedPieces at refused
    simp [none, other.symm] at refused
  have tried : host.makeDirectory path = .error fault := by
    simp [makeDirectory, place, refused, bind, Except.bind]
  have nowhere : host.isDirectory path = false := by
    simp [isDirectory, nodeAt, locate, refused, bind, Except.bind]
  rw [makeDirectories, if_neg filled, Effect.run_makeDirectoryAfter_of_error tried other, nowhere]
  rfl

/-- A directory with a name in it is there for both twins, unless the system refuses its path. -/
theorem Twins.agree_outer (peers : Peers root first second)
    (twins : Twins root first second base copy host other) (starts : path.isAbsolute = true)
    (same : path.steps = root.steps) :
    other.holds path = host.holds path ∧ (host.holds path = false →
      Agree (Twins root first second base copy) (makeDirectories path) (makeDirectories path)) := by
  cases accepted : path.acceptedPieces with
  | ok pieces =>
    obtain rfl := acceptedPieces_eq_ok accepted
    have here := twins.leads.holds_outer peers.absolute peers.first starts same accepted
    have there := twins.led.holds_outer peers.absolute peers.second starts same accepted
    rw [here, there]
    exact ⟨rfl, fun missing => by cases missing⟩
  | error fault =>
    have notMissing : fault ≠ .missing := by
      rintro rfl
      have filled : path.text ≠ "" := by
        intro none
        simp [Path.isAbsolute, none] at starts
      simp only [Path.acceptedPieces, if_neg filled] at accepted
      split at accepted
      · cases accepted
      · split at accepted <;> cases accepted
    rw [holds_of_refused accepted, holds_of_refused accepted]
    refine ⟨rfl, fun _ host other twins => ?_⟩
    rw [run_makeDirectories_of_refused accepted notMissing,
      run_makeDirectories_of_refused accepted notMissing]
    exact ⟨rfl, twins⟩

end Outer

section Components

/-- The components of a path, of a name in it and of further steps. -/
def componentsBelow (root : Path) (name : String) (rest : List String) : List Path.Component :=
  .root :: (root.steps ++ name :: rest).map Path.componentOf

/-- The components without the last one. -/
theorem dropLast_componentsBelow {last : String} :
    (componentsBelow root name (rest ++ [last])).dropLast = componentsBelow root name rest := by
  simp only [componentsBelow, ← List.cons_append, ← List.append_assoc, List.map_append,
    List.map_singleton, List.dropLast_concat]

/-- The components of the path alone are left without those of a name in it. -/
theorem dropLast_componentsBelow_nil :
    (componentsBelow root name []).dropLast = .root :: root.steps.map Path.componentOf := by
  simp only [componentsBelow, List.map_append, List.map_singleton, ← List.cons_append,
    List.dropLast_concat]

/-- Making directories upwards begins with the path of all components. -/
theorem makeDirectoriesUp_componentsBelow :
    makeDirectoriesUp (componentsBelow root name rest).reverse =
      makeDirectoryAfter ((Gap.between root.steps rest).fill name)
        (makeDirectoriesUp (componentsBelow root name rest).dropLast.reverse) := by
  rw [Gap.fill_between]
  change _ = makeDirectoryAfter (Path.ofComponents (componentsBelow root name rest)) _
  obtain ⟨front, last, whole⟩ := (List.eq_nil_or_concat' (componentsBelow root name rest)).resolve_left
    (List.cons_ne_nil _ _)
  rw [whole, List.reverse_concat, makeDirectoriesUp, List.reverse_cons, List.reverse_reverse,
    List.dropLast_concat]

/-- What lies above a filled gap is the path of all components but the last. -/
theorem parentComponents?_fill (fits : gap.Fits root rest) (plain : IsPlain name) :
    (gap.fill name).parentComponents? = some (componentsBelow root name rest).dropLast := by
  have components := Gap.components_fill fits plain
  have moves : ∀ step, Path.componentOf step ≠ .root := by
    intro step
    unfold Path.componentOf
    split <;> simp
  unfold Path.parentComponents?
  rw [components]
  cases last : (Path.Component.root :: (root.steps ++ name :: rest).map Path.componentOf).getLast? with
  | none => simp at last
  | some component =>
    cases component with
    | root =>
      rw [List.getLast?_cons_of_ne_nil (by simp), List.getLast?_map] at last
      obtain ⟨step, _, same⟩ := Option.map_eq_some_iff.mp last
      exact absurd same (moves step)
    | _ => rfl

/-- Making directories along a filled gap makes those above it if they are missing. -/
theorem makeDirectories_fill (fits : gap.Fits root rest) (plain : IsPlain name) :
    makeDirectories (gap.fill name) = makeDirectoryAfter (gap.fill name)
      (makeDirectoriesUp (componentsBelow root name rest).dropLast.reverse) := by
  have filled : (gap.fill name).text ≠ "" := by
    intro none
    have absolute := Gap.isAbsolute_fill fits name
    simp [Path.isAbsolute, none] at absolute
  rw [makeDirectories, if_neg filled, parentComponents?_fill fits plain]

end Components

section Writing

variable (peers : Peers root first second) (fits : gap.Fits root rest) (enclosed : Enclosed rest)

/-- Putting the same at counterparts below twins leaves twins. -/
theorem Twins.put {directory folder : Location} {title : String} {node : Node}
    (twins : Twins root first second base copy host other)
    (below : Counterparts base copy (directory ++ [name]) (folder ++ [title]))
    (vacant : host.tree.find? (directory ++ [name]) ≠ some .directory) :
    Twins root first second base copy
      { host with tree := host.tree.put (directory ++ [name]) node }
      { other with tree := other.tree.put (folder ++ [title]) node } := by
  obtain ⟨inner, here, there⟩ := below
  have empty : other.tree.find? (folder ++ [title]) ≠ some .directory := by
    rwa [there, twins.same inner, ← here]
  refine ⟨twins.leads.put node vacant, twins.led.put node empty, ?_⟩
  intro further
  rw [Tree.find?_put (by simp), Tree.find?_put (by simp), here, there, twins.same further]
  simp only [List.append_cancel_left_eq]

/-- What is stored at counterparts below twins is the same. -/
theorem Twins.find?_eq {location place : Location}
    (twins : Twins root first second base copy host other)
    (below : Counterparts base copy location place) :
    other.tree.find? place = host.tree.find? location := by
  obtain ⟨inner, rfl, rfl⟩ := below
  exact twins.same inner

include peers fits enclosed

/-- A directory is made alike along paths that go on alike from twins. -/
theorem alike_makeDirectory (twins : Twins root first second base copy host other) :
    Alike (Twins root first second base copy) (host.makeDirectory (gap.fill first))
      (other.makeDirectory (gap.fill second)) := by
  refine (twins.alike_place peers fits enclosed).bind ?_
  rintro _ _ (⟨_, _⟩ | ⟨directory, name, folder, title, below⟩)
  · exact .error _
  · simp only [twins.find?_eq below]
    split
    · exact .error _
    · rename_i free
      exact .ok (twins.put below (by simp [Option.not_isSome_iff_eq_none.mp free]))

/-- A file is written alike along paths that go on alike from twins. -/
theorem alike_write (content : List UInt8)
    (twins : Twins root first second base copy host other) :
    Alike (Twins root first second base copy) (host.write (gap.fill first) content)
      (other.write (gap.fill second) content) := by
  unfold write
  rw [Gap.endsInSlash_fill peers.first, Gap.endsInSlash_fill peers.second]
  refine (twins.alike_place peers fits enclosed).bind ?_
  rintro _ _ (⟨_, _⟩ | ⟨directory, name, folder, title, below⟩)
  · exact .error _
  · simp only [twins.find?_eq below]
    split
    · exact .error _
    · cases found : host.tree.find? (directory ++ [name]) with
      | none => exact .ok (twins.put below (by simp [found]))
      | some node =>
        cases node with
        | directory => exact .error _
        | file stored executable => exact .ok (twins.put below (by simp [found]))

/-- Making a directory after those above it agrees along paths that go on alike from twins if making
those does, where there are any below the twins. -/
theorem agree_makeDirectoryAfter {above higher : Effect Fault Unit}
    (upper : rest ≠ [] → Agree (Twins root first second base copy) above higher) :
    Agree (Twins root first second base copy) (makeDirectoryAfter (gap.fill first) above)
      (makeDirectoryAfter (gap.fill second) higher) := by
  refine Agree.makeDirectoryAfter (fun _ _ => alike_makeDirectory peers fits enclosed)
    (fun _ _ twins => twins.isDirectory_eq peers fits enclosed) ?_
  intro host other twins missing
  exact upper (twins.leads.ne_nil_of_missing peers.absolute peers.first fits peers.second
    peers.sized missing)

omit fits in
/-- Making directories upwards from below twins agrees. -/
theorem agree_makeDirectoriesUp (each : ∀ step ∈ rest, Path.IsStep step) :
    Agree (Twins root first second base copy)
      (makeDirectoriesUp (componentsBelow root first rest).reverse)
      (makeDirectoriesUp (componentsBelow root second rest).reverse) := by
  induction rest using List.reverseRecOn with
  | nil =>
    have fits := Gap.fits_between root each
    rw [makeDirectoriesUp_componentsBelow, makeDirectoriesUp_componentsBelow]
    exact agree_makeDirectoryAfter peers fits enclosed fun some => absurd rfl some
  | append_singleton front last ih =>
    have fits := Gap.fits_between root each
    have above := ih (enclosed.of_prefix (List.prefix_append _ _)) fun step member =>
      each step (List.mem_append_left _ member)
    rw [makeDirectoriesUp_componentsBelow, makeDirectoriesUp_componentsBelow]
    refine agree_makeDirectoryAfter peers fits enclosed fun _ => ?_
    rwa [dropLast_componentsBelow, dropLast_componentsBelow]

/-- Making directories with those above them agrees along paths that go on alike from twins. -/
theorem agree_makeDirectories :
    Agree (Twins root first second base copy) (makeDirectories (gap.fill first))
      (makeDirectories (gap.fill second)) := by
  rw [makeDirectories_fill fits peers.first, makeDirectories_fill fits peers.second]
  refine agree_makeDirectoryAfter peers fits enclosed fun some => ?_
  obtain ⟨front, last, rfl⟩ := (List.eq_nil_or_concat' rest).resolve_left some
  rw [dropLast_componentsBelow, dropLast_componentsBelow]
  exact agree_makeDirectoriesUp peers (enclosed.of_prefix (List.prefix_append _ _)) fun step member =>
    fits.isStep step (List.mem_append_left _ member)

/-- Directories above the last step of paths that go on alike from twins are there in both, or
neither is and making them agrees. -/
theorem Twins.agree_parent (twins : Twins root first second base copy host other) :
    ∃ above upper, (gap.fill first).parent? = some above ∧
      (gap.fill second).parent? = some upper ∧ other.holds upper = host.holds above ∧
        (host.holds above = false →
          Agree (Twins root first second base copy) (makeDirectories above)
            (makeDirectories upper)) := by
  have parents : ∀ {name}, IsPlain name → (gap.fill name).parent? =
      some (Path.ofComponents (componentsBelow root name rest).dropLast) := by
    intro name plain
    rw [Path.parent?, parentComponents?_fill fits plain]
    rfl
  refine ⟨_, _, parents peers.first, parents peers.second, ?_⟩
  obtain rfl | ⟨front, last, rfl⟩ := List.eq_nil_or_concat' rest
  · -- The directory that holds both names has the same path for both.
    rw [dropLast_componentsBelow_nil, dropLast_componentsBelow_nil]
    exact twins.agree_outer peers (Path.isAbsolute_ofComponents _)
      (Path.steps_ofComponents fun _ => Path.isStep_of_mem_steps)
  · rw [dropLast_componentsBelow, dropLast_componentsBelow, componentsBelow, componentsBelow,
      ← Gap.fill_between, ← Gap.fill_between]
    have higher := enclosed.of_prefix (List.prefix_append front [last])
    have lower := Gap.fits_between root fun step member =>
      fits.isStep step (List.mem_append_left [last] member)
    exact ⟨twins.holds_eq peers lower higher, fun _ => agree_makeDirectories peers lower higher⟩

end Writing

end DecompileServer.Host
