import DecompileServer.Disk.Tree
import Mathlib.Data.List.Induction

/-!
# Parts of trees

What a tree stores away from a location is what is left when the location is removed, so two trees
agree there when they leave the same (`find?_eq_of_remove_eq`); `away` leaves out many locations at
once. In a closed tree every entry lies in
a directory, so nothing is stored below a location at which nothing is stored
(`IsClosed.remove_eq_self`). Going along a path needs directories only on the way, so it leads to
the same place in a tree that stores more (`walk_mono`).
-/
namespace DecompileServer.Disk.Tree

/-- Every entry lies in a directory. -/
def IsClosed (tree : Tree) : Prop :=
  ∀ entry ∈ tree.entries, tree.find? entry.1.dropLast = some .directory

instance (tree : Tree) : Decidable tree.IsClosed :=
  inferInstanceAs (Decidable
    (∀ entry ∈ tree.entries, tree.find? entry.1.dropLast = some .directory))

section Entries

variable {tree other : Tree} {location place base : Location} {node : Node}

/-- The root directory is always stored. -/
@[simp] theorem find?_root : tree.find? [] = some .directory := rfl

/-- Away from the root, what is stored is found among the entries. -/
theorem find?_eq_lookup (below : location ≠ []) :
    tree.find? location = tree.entries.lookup location := by
  rw [find?, if_neg below]

/-- What is found away from the root is an entry. -/
theorem mem_of_find? (below : location ≠ []) (found : tree.find? location = some node) :
    (location, node) ∈ tree.entries := by
  rw [find?_eq_lookup below] at found
  obtain ⟨before, after, same, _⟩ := List.lookup_eq_some_iff.mp found
  simp [same]

/-- Something is found at the location of every entry. -/
theorem find?_isSome_of_mem {entry : Location × Node} (stored : entry ∈ tree.entries) :
    (tree.find? entry.1).isSome = true := by
  by_cases root : entry.1 = []
  · rw [root]
    rfl
  · rw [find?_eq_lookup root, Option.isSome_iff_ne_none]
    intro missing
    have differs := List.lookup_eq_none_iff.mp missing entry stored
    simp at differs

/-- Replacing the entries of a location changes what is found there and nowhere else. -/
theorem lookup_replace (entries : List (Location × Node)) :
    (entries.map fun entry => if entry.1 = location then (location, node) else entry).lookup place =
      if place = location then (entries.lookup location).map fun _ => node
      else entries.lookup place := by
  induction entries with
  | nil => simp
  | cons entry rest ih =>
    obtain ⟨stored, kept⟩ := entry
    by_cases here : stored = location
    · subst here
      by_cases same : place = stored
      · subst same
        simp
      · simp only [List.map_cons, ↓reduceIte, List.lookup_cons, beq_eq_false_iff_ne.mpr same, ih,
          if_neg same]
    · simp only [List.map_cons, if_neg here, List.lookup_cons, ih]
      by_cases same : place = location
      · subst same
        simp only [beq_eq_false_iff_ne.mpr (Ne.symm here)]
      · simp only [if_neg same]

/-- A node that has been put somewhere is found there, and everything else where it was. -/
theorem find?_put (below : location ≠ []) :
    (tree.put location node).find? place =
      if place = location then some node else tree.find? place := by
  by_cases root : place = []
  · subst root
    rw [if_neg (Ne.symm below), find?_root, find?_root]
  · rw [find?_eq_lookup root, find?_eq_lookup root, put]
    by_cases stored : (tree.entries.lookup location).isSome
    · rw [if_pos stored, lookup_replace]
      obtain ⟨known, found⟩ := Option.isSome_iff_exists.mp stored
      simp [found]
    · rw [if_neg stored, List.lookup_append]
      have missing : tree.entries.lookup location = none := Option.not_isSome_iff_eq_none.mp stored
      by_cases same : place = location
      · subst same
        simp [missing]
      · simp [same, List.lookup_cons, beq_eq_false_iff_ne.mpr same]

/-- The test for a prefix decides whether there is one. -/
theorem isPrefixOf_eq_decide (base place : Location) :
    base.isPrefixOf place = decide (base <+: place) := by
  rw [Bool.eq_iff_iff, List.isPrefixOf_iff_prefix, decide_eq_true_iff]

/-- What is stored away from the locations that are covered. -/
def away (tree : Tree) (covers : Location → Prop) [DecidablePred covers] : Tree :=
  ⟨tree.entries.filter fun entry => !decide (covers entry.1)⟩

section Away

variable {covers : Location → Prop} [DecidablePred covers]

/-- A node that is put at a covered location leaves everything away from it. -/
theorem away_put (covered : covers location) :
    (tree.put location node).away covers = tree.away covers := by
  rw [put]
  split
  · simp only [away, mk.injEq, List.filter_map]
    -- The replaced entries are filtered out on both sides, and the others stay as they are.
    have kept : ∀ entry ∈ tree.entries.filter fun entry => !decide (covers entry.1),
        (if entry.1 = location then (location, node) else entry) = entry := by
      intro entry member
      obtain ⟨_, outside⟩ := List.mem_filter.mp member
      rw [if_neg]
      rintro rfl
      simp [covered] at outside
    have same : ((fun entry : Location × Node => !decide (covers entry.1)) ∘ fun entry =>
        if entry.1 = location then (location, node) else entry) =
        fun entry => !decide (covers entry.1) := by
      funext entry
      by_cases here : entry.1 = location <;> simp [here]
    rw [same]
    exact (List.map_congr_left kept).trans (List.map_id' _)
  · simp [away, covered]

/-- What is not covered is found where it was. -/
theorem find?_away (outside : ¬covers place) :
    (tree.away covers).find? place = tree.find? place := by
  by_cases root : place = []
  · subst root
    rfl
  · rw [find?_eq_lookup root, find?_eq_lookup root, away]
    change (tree.entries.filter fun entry => !decide (covers entry.1)).lookup place = _
    induction tree.entries with
    | nil => rfl
    | cons entry rest ih =>
      obtain ⟨stored, node⟩ := entry
      by_cases covered : covers stored
      · have differs : place ≠ stored := by
          rintro rfl
          exact outside covered
        rw [List.filter_cons_of_neg (by simp [covered]), ih, List.lookup_cons,
          beq_eq_false_iff_ne.mpr differs]
      · rw [List.filter_cons_of_pos (by simp [covered]), List.lookup_cons, List.lookup_cons, ih]

/-- Nothing is lost where nothing that is stored is covered. -/
theorem away_eq_self (outside : ∀ entry ∈ tree.entries, ¬covers entry.1) :
    tree.away covers = tree := by
  have kept : tree.entries.filter (fun entry => !decide (covers entry.1)) = tree.entries :=
    List.filter_eq_self.mpr fun entry member => by simpa using outside entry member
  rw [away, kept]

/-- Removing a location leaves the same away from others that it leaves away from all of them. -/
theorem away_remove {fewer : Location → Prop} [DecidablePred fewer]
    (split : ∀ place, covers place ↔ base <+: place ∨ fewer place) :
    (tree.remove base).away fewer = tree.away covers := by
  simp only [away, remove, mk.injEq, List.filter_filter, isPrefixOf_eq_decide]
  refine List.filter_congr fun entry _ => ?_
  rw [Bool.eq_iff_iff]
  simp [split entry.1, and_comm]

end Away

/-- Removing a location leaves what is stored away from all that lies at and below it. -/
theorem remove_eq_away : tree.remove base = tree.away (base <+: ·) := by
  simp only [remove, away, isPrefixOf_eq_decide]

/-- A node that is put at or below a location leaves everything away from it. -/
theorem remove_put (inside : base <+: location) :
    (tree.put location node).remove base = tree.remove base := by
  rw [remove_eq_away, remove_eq_away, away_put inside]

/-- Removing a location leaves what is found away from it. -/
theorem find?_remove (outside : ¬base <+: place) :
    (tree.remove base).find? place = tree.find? place := by
  rw [remove_eq_away, find?_away outside]

/-- Nothing is found at or below a location that has been removed. -/
theorem find?_remove_self (below : base ≠ []) (inside : base <+: place) :
    (tree.remove base).find? place = none := by
  have strict : place ≠ [] := by
    rintro rfl
    exact below (List.prefix_nil.mp inside)
  rw [Option.eq_none_iff_forall_not_mem]
  intro node found
  have stored := mem_of_find? strict (Option.mem_def.mp found)
  simp [remove, List.mem_filter, isPrefixOf_eq_decide, inside] at stored

/-- Trees that leave the same when a location is removed agree away from it. -/
theorem find?_eq_of_remove_eq (same : other.remove base = tree.remove base)
    (outside : ¬base <+: place) : other.find? place = tree.find? place := by
  rw [← find?_remove outside, same, find?_remove outside]

/-- Nothing is found at a free location. -/
theorem find?_of_isFree (below : location ≠ []) (free : tree.isFree location = true) :
    tree.find? location = none := by
  rw [Option.eq_none_iff_forall_not_mem]
  intro node found
  have stored := mem_of_find? below (Option.mem_def.mp found)
  simp only [isFree, Bool.not_eq_true', List.any_eq_false, isPrefixOf_eq_decide,
    decide_eq_true_eq] at free
  exact free _ stored (List.prefix_refl _)

end Entries

namespace IsClosed

variable {tree other : Tree} {location base : Location} {node : Node}

/-- What is found lies in a directory. -/
theorem parent (closed : tree.IsClosed) (found : (tree.find? location).isSome = true) :
    tree.find? location.dropLast = some .directory := by
  by_cases root : location = []
  · subst root
    rfl
  · obtain ⟨node, found⟩ := Option.isSome_iff_exists.mp found
    exact closed _ (mem_of_find? root found)

/-- Every location above one that is in use holds a directory. -/
theorem above (closed : tree.IsClosed) {further : List String} (strict : further ≠ [])
    (found : (tree.find? (location ++ further)).isSome = true) :
    tree.find? location = some .directory := by
  induction further using List.reverseRecOn with
  | nil => exact absurd rfl strict
  | append_singleton further name ih =>
    have directory := closed.parent found
    rw [← List.append_assoc, List.dropLast_concat] at directory
    by_cases direct : further = []
    · subst direct
      rwa [List.append_nil] at directory
    · exact ih direct (by rw [directory]; rfl)

/-- Nothing is stored below a location at which nothing is stored. -/
theorem free_below (closed : tree.IsClosed) (free : tree.find? base = none)
    (inside : base <+: location) : tree.find? location = none := by
  obtain ⟨further, rfl⟩ := inside
  by_cases direct : further = []
  · rwa [direct, List.append_nil]
  · rw [← Option.not_isSome_iff_eq_none]
    intro stored
    have standing := closed.above direct stored
    rw [free] at standing
    cases standing

/-- Removing a location at which nothing is stored changes nothing. -/
theorem remove_eq_self (closed : tree.IsClosed) (free : tree.find? base = none) :
    tree.remove base = tree := by
  rw [remove_eq_away]
  refine away_eq_self fun entry member inside => ?_
  have found := find?_isSome_of_mem member
  rw [closed.free_below free inside] at found
  cases found

/-- A closed tree stays closed when something is removed with all that lies below it. -/
theorem remove (closed : tree.IsClosed) : (tree.remove base).IsClosed := by
  intro entry member
  obtain ⟨stored, outside⟩ := List.mem_filter.mp member
  rw [find?_remove, closed entry stored]
  intro inside
  have covered : base <+: entry.1 := inside.trans (List.dropLast_prefix _)
  simp [isPrefixOf_eq_decide, covered] at outside

/-- A closed tree stays closed when something is put into one of its directories, unless that takes
the place of a directory. -/
theorem put (closed : tree.IsClosed) {directory : Location} {name : String}
    (standing : tree.find? directory = some .directory)
    (allowed : tree.find? (directory ++ [name]) = some .directory → node = .directory) :
    (tree.put (directory ++ [name]) node).IsClosed := by
  have below : directory ++ [name] ≠ [] := by simp
  -- A directory is found after the change wherever one was found before.
  have stays : ∀ place, tree.find? place = some .directory →
      (tree.put (directory ++ [name]) node).find? place = some .directory := by
    intro place found
    rw [find?_put below]
    split
    · rename_i same
      subst same
      rw [allowed found]
    · exact found
  intro entry member
  rw [Tree.put] at member
  split at member
  · obtain ⟨old, oldMember, rfl⟩ := List.mem_map.mp member
    split
    · rw [List.dropLast_concat]
      exact stays _ standing
    · exact stays _ (closed _ oldMember)
  · rcases List.mem_append.mp member with oldMember | new
    · exact stays _ (closed _ oldMember)
    · simp only [List.mem_singleton] at new
      subst new
      rw [List.dropLast_concat]
      exact stays _ standing

end IsClosed

section Walking

variable {tree other : Tree} {here there : Location}

/-- What a step along a path needs and where it leads. -/
theorem step_eq_ok_iff {piece : String} :
    tree.step here piece = .ok there ↔
      tree.find? here = some .directory ∧
        (piece = "." ∧ there = here ∨ piece = ".." ∧ there = here.dropLast ∨
          piece ≠ "." ∧ piece ≠ ".." ∧ ¬nameLimit < piece.utf8ByteSize ∧
            (tree.find? (here ++ [piece])).isSome = true ∧ there = here ++ [piece]) := by
  unfold step
  cases tree.find? here with
  | none => simp
  | some node =>
    cases node with
    | file content executable => simp
    | directory =>
      by_cases dot : piece = "."
      · simp [dot, @eq_comm _ here]
      · by_cases up : piece = ".."
        · simp [up, @eq_comm _ here.dropLast]
        · by_cases long : nameLimit < piece.utf8ByteSize
          · simp [dot, up, long]
          · by_cases stored : (tree.find? (here ++ [piece])).isSome = true
            · simp [dot, up, long, stored, @eq_comm _ (here ++ [piece])]
            · simp [dot, up, long, stored]

/-- Going along pieces one after the other. -/
theorem walk_cons {piece : String} {rest : List String} :
    tree.walk here (piece :: rest) = .ok there ↔
      ∃ next, tree.step here piece = .ok next ∧ tree.walk next rest = .ok there := by
  rw [walk]
  cases tree.step here piece <;> simp

/-- Going along one path and then another. -/
theorem walk_append {first second : List String} :
    tree.walk here (first ++ second) = .ok there ↔
      ∃ middle, tree.walk here first = .ok middle ∧ tree.walk middle second = .ok there := by
  induction first generalizing here with
  | nil => simp [walk]
  | cons piece rest ih =>
    rw [List.cons_append, walk_cons]
    constructor
    · rintro ⟨next, stepped, walked⟩
      obtain ⟨middle, front, back⟩ := ih.mp walked
      exact ⟨middle, walk_cons.mpr ⟨next, stepped, front⟩, back⟩
    · rintro ⟨middle, front, back⟩
      obtain ⟨next, stepped, walked⟩ := walk_cons.mp front
      exact ⟨next, stepped, ih.mpr ⟨middle, walked, back⟩⟩

/-- Going along a path whose first part is known to lead somewhere. -/
theorem walk_append_of_ok {first : List String} (walked : tree.walk here first = .ok there)
    (second : List String) : tree.walk here (first ++ second) = tree.walk there second := by
  induction first generalizing here with
  | nil =>
    obtain rfl := Except.ok.inj walked
    rfl
  | cons piece rest ih =>
    obtain ⟨next, stepped, further⟩ := walk_cons.mp walked
    rw [List.cons_append, walk, stepped]
    exact ih further

/-- Going along a path and one piece further. -/
theorem walk_concat {pieces : List String} {last : String} :
    tree.walk here (pieces ++ [last]) = .ok there ↔
      ∃ middle, tree.walk here pieces = .ok middle ∧ tree.step middle last = .ok there := by
  rw [walk_append]
  have single : ∀ middle, tree.walk middle [last] = tree.step middle last := by
    intro middle
    rw [walk]
    cases tree.step middle last <;> rfl
  simp only [single]

/-- A single dot at the end of a path asks for a directory. -/
theorem walk_concat_here {pieces : List String} :
    tree.walk here (pieces ++ ["."]) = .ok there ↔
      tree.walk here pieces = .ok there ∧ tree.find? there = some .directory := by
  rw [walk_concat]
  constructor
  · rintro ⟨middle, walked, stepped⟩
    obtain ⟨standing, ⟨_, rfl⟩ | ⟨up, _⟩ | ⟨notDot, _⟩⟩ := step_eq_ok_iff.mp stepped
    · exact ⟨walked, standing⟩
    · exact absurd up (by decide)
    · exact absurd rfl notDot
  · rintro ⟨walked, standing⟩
    exact ⟨there, walked, step_eq_ok_iff.mpr ⟨standing, .inl ⟨rfl, rfl⟩⟩⟩

/-- A path leads to the same place where everything that it needs is stored as well. -/
theorem walk_mono {pieces : List String}
    (directories : ∀ place, tree.find? place = some .directory →
      other.find? place = some .directory)
    (stored : ∀ place, (tree.find? place).isSome = true → (other.find? place).isSome = true)
    (walked : tree.walk here pieces = .ok there) : other.walk here pieces = .ok there := by
  induction pieces generalizing here with
  | nil => exact walked
  | cons piece rest ih =>
    obtain ⟨next, stepped, walked⟩ := walk_cons.mp walked
    refine walk_cons.mpr ⟨next, ?_, ih walked⟩
    obtain ⟨standing, moves⟩ := step_eq_ok_iff.mp stepped
    refine step_eq_ok_iff.mpr ⟨directories _ standing, ?_⟩
    rcases moves with dot | up | ⟨notDot, notUp, short, found, led⟩
    · exact .inl dot
    · exact .inr (.inl up)
    · exact .inr (.inr ⟨notDot, notUp, short, stored _ found, led⟩)

/-- A path without its single dots leads to the same place. -/
theorem walk_filter {pieces : List String} (walked : tree.walk here pieces = .ok there) :
    tree.walk here (pieces.filter (· ≠ ".")) = .ok there := by
  induction pieces generalizing here with
  | nil => exact walked
  | cons piece rest ih =>
    obtain ⟨next, stepped, further⟩ := walk_cons.mp walked
    by_cases dot : piece = "."
    · subst dot
      obtain ⟨_, ⟨_, same⟩ | ⟨up, _⟩ | ⟨notDot, _⟩⟩ := step_eq_ok_iff.mp stepped
      · rw [same] at further
        simpa using ih further
      · exact absurd up (by decide)
      · exact absurd rfl notDot
    · rw [List.filter_cons_of_pos (by simpa using dot)]
      exact walk_cons.mpr ⟨next, stepped, ih further⟩

/-- Names lead to the location that they make up. -/
theorem walk_names {names : List String} (each : ∀ name ∈ names, name ≠ "." ∧ name ≠ "..")
    (walked : tree.walk here names = .ok there) : there = here ++ names := by
  induction names generalizing here with
  | nil =>
    obtain rfl := Except.ok.inj walked
    rw [List.append_nil]
  | cons name rest ih =>
    obtain ⟨next, stepped, further⟩ := walk_cons.mp walked
    obtain ⟨notDot, notUp⟩ := each name List.mem_cons_self
    have later := ih (fun other member => each other (List.mem_cons_of_mem _ member)) further
    obtain ⟨_, ⟨dot, _⟩ | ⟨up, _⟩ | ⟨_, _, _, _, led⟩⟩ := step_eq_ok_iff.mp stepped
    · exact absurd dot notDot
    · exact absurd up notUp
    · rw [later, led, List.append_assoc]
      rfl

/-- Names that are not too long lead to what is stored below a location. -/
theorem IsClosed.walk_names {names : List String} (closed : tree.IsClosed)
    (each : ∀ name ∈ names, name ≠ "." ∧ name ≠ ".." ∧ ¬nameLimit < name.utf8ByteSize)
    (stored : (tree.find? (here ++ names)).isSome = true) :
    tree.walk here names = .ok (here ++ names) := by
  induction names using List.reverseRecOn with
  | nil => rw [walk, List.append_nil]
  | append_singleton front name ih =>
    obtain ⟨notHere, notUp, short⟩ := each name (by simp)
    have above : tree.find? (here ++ front) = some .directory := by
      have parent := closed.parent stored
      rwa [← List.append_assoc, List.dropLast_concat] at parent
    have reached := ih (fun other member => each other (List.mem_append_left _ member))
      (by rw [above]; rfl)
    rw [← List.append_assoc] at stored ⊢
    exact walk_concat.mpr ⟨here ++ front, reached,
      step_eq_ok_iff.mpr ⟨above, .inr (.inr ⟨notHere, notUp, short, stored, rfl⟩)⟩⟩

/-- The names on a path that leads somewhere are not too long. -/
theorem short_of_walk {pieces : List String} (walked : tree.walk here pieces = .ok there) :
    ∀ piece ∈ pieces, piece = "." ∨ piece = ".." ∨ ¬nameLimit < piece.utf8ByteSize := by
  induction pieces generalizing here with
  | nil => simp
  | cons piece rest ih =>
    obtain ⟨next, stepped, further⟩ := walk_cons.mp walked
    obtain ⟨_, ⟨dot, _⟩ | ⟨up, _⟩ | ⟨_, _, short, _⟩⟩ := step_eq_ok_iff.mp stepped
    · exact List.forall_mem_cons.mpr ⟨.inl dot, ih further⟩
    · exact List.forall_mem_cons.mpr ⟨.inr (.inl up), ih further⟩
    · exact List.forall_mem_cons.mpr ⟨.inr (.inr short), ih further⟩

/-- A path that leads to a directory starts in one, wherever it starts. -/
theorem isDirectory_of_walk {pieces : List String} (standing : tree.find? there = some .directory)
    (walked : tree.walk here pieces = .ok there) : tree.find? here = some .directory := by
  cases pieces with
  | nil =>
    obtain rfl := Except.ok.inj walked
    exact standing
  | cons piece rest =>
    obtain ⟨next, stepped, _⟩ := walk_cons.mp walked
    exact (step_eq_ok_iff.mp stepped).1

/-- Single dots change nothing on the way to a directory. -/
theorem walk_of_filter {pieces : List String} (standing : tree.find? there = some .directory)
    (walked : tree.walk here (pieces.filter (· ≠ ".")) = .ok there) :
    tree.walk here pieces = .ok there := by
  induction pieces generalizing here with
  | nil => exact walked
  | cons piece rest ih =>
    by_cases dot : piece = "."
    · subst dot
      rw [List.filter_cons_of_neg (by simp)] at walked
      have start := isDirectory_of_walk standing walked
      exact walk_cons.mpr ⟨here, step_eq_ok_iff.mpr ⟨start, .inl ⟨rfl, rfl⟩⟩, ih walked⟩
    · rw [List.filter_cons_of_pos (by simpa using dot)] at walked
      obtain ⟨next, stepped, further⟩ := walk_cons.mp walked
      exact walk_cons.mpr ⟨next, stepped, ih further⟩

end Walking

end DecompileServer.Disk.Tree
