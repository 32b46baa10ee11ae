import DecompileServer.Proofs.Path
import Mathlib.Data.List.Induction

/-!
# Paths that differ in one name

A gap is a path with a place for a name. Two plain names of one size fill it with paths of the same
kind: the system accepts both or refuses both for the same reason (`accepts_fill`), both or none end
in a slash, and they have the same pieces around the name (`pieces_fill`). What goes on from such a
path, and the paths of the directories above it down to the name, have gaps as well.
-/
namespace DecompileServer.Path

/-- Whether a text is the name of a file or directory. -/
structure IsPlain (name : String) : Prop where
  /-- It is not empty. -/
  some : name ≠ ""
  /-- It holds no slash. -/
  slash : '/' ∉ name.toList
  /-- It holds no character with code zero. -/
  nul : '\x00' ∉ name.toList
  /-- It is no single dot. -/
  notHere : name ≠ "."
  /-- It is no double dot. -/
  notUp : name ≠ ".."

/-- A path with a place for a name. -/
structure Gap where
  /-- What stands before the name. -/
  before : String
  /-- What stands after the name. -/
  after : String

namespace Gap

/-- The path with a name in its place. -/
def fill (gap : Gap) (name : String) : Path :=
  ⟨gap.before ++ name ++ gap.after⟩

/-- The gap in the paths that go on below a directory with the name. -/
def into (root : Path) (further : String) : Gap where
  before := if root.endsInSlash then root.text else root.text ++ "/"
  after := "/" ++ further

/-- The gap in the paths of a directory with the name. -/
def below (root : Path) : Gap :=
  { into root "" with after := "" }

/-- The gap between steps from the root directory on. -/
def between (outer rest : List String) : Gap where
  before := String.ofList ('/' :: Text.joinWith '/' (outer.map String.toList ++ [[]]))
  after := String.ofList (Text.joinWith '/' ([] :: rest.map String.toList))

/-- Whether the paths with a gap start at the root directory and have a name of their own there,
after the steps of another path and before the given ones. -/
structure Fits (gap : Gap) (root : Path) (rest : List String) : Prop where
  /-- The root directory comes first. -/
  absolute : gap.before.toList.head? = some '/'
  /-- A slash stands before the name. -/
  closed : gap.before.toList.getLast? = some '/'
  /-- A slash stands after the name, unless it is the last. -/
  opened : gap.after = "" ∨ gap.after.toList.head? = some '/'
  /-- The steps before the name are those of the path. -/
  before : (Path.mk gap.before).steps = root.steps
  /-- The steps after the name are the given ones. -/
  after : (Path.mk gap.after).steps = rest

section Filling

variable {gap : Gap} {root : Path} {rest : List String} {name first second : String}

/-- A filled gap starts at the root directory. -/
theorem isAbsolute_fill (fits : gap.Fits root rest) (name : String) :
    (gap.fill name).isAbsolute = true := by
  obtain ⟨more, whole⟩ := List.head?_eq_some_iff.mp fits.absolute
  simp [fill, isAbsolute, whole]

/-- The pieces of a filled gap are those before the name, the name and those after it. -/
theorem pieces_fill (fits : gap.Fits root rest) (plain : IsPlain name) :
    (gap.fill name).pieces = (Path.mk gap.before).pieces ++ name :: (Path.mk gap.after).pieces := by
  obtain ⟨front, whole⟩ := List.getLast?_eq_some_iff.mp fits.closed
  have named : Text.splitAt '/' name.toList = [name.toList] := Text.splitAt_of_notMem plain.slash
  have cut : Text.splitAt '/' (front ++ ['/']) = Text.splitAt '/' front ++ [[]] :=
    Text.splitAt_append_cons front []
  have kept : name.toList ≠ [] := by simpa using plain.some
  have texts : (gap.fill name).text.toList =
      front ++ '/' :: (name.toList ++ gap.after.toList) := by
    simp [fill, whole]
  obtain none | slash := fits.opened
  · simp [pieces, texts, whole, cut, none, named, kept, Text.splitAt_append_cons, Text.splitAt]
  · obtain ⟨back, ends⟩ := List.head?_eq_some_iff.mp slash
    simp [pieces, texts, whole, cut, ends, named, kept, Text.splitAt_append_cons, Text.splitAt]

/-- The steps of a filled gap are those before the name, the name and those after it. -/
theorem steps_fill (fits : gap.Fits root rest) (plain : IsPlain name) :
    (gap.fill name).steps = root.steps ++ name :: rest := by
  have here : (name ≠ ".") = true := by simp [plain.notHere]
  rw [steps, pieces_fill fits plain, List.filter_append, List.filter_cons_of_pos (by simp [here])]
  exact by rw [← fits.before, ← fits.after]; rfl

/-- The components of a filled gap. -/
theorem components_fill (fits : gap.Fits root rest) (plain : IsPlain name) :
    (gap.fill name).components = .root :: (root.steps ++ name :: rest).map componentOf := by
  rw [components_of_isAbsolute (isAbsolute_fill fits name), steps_fill fits plain]

/-- What comes after the name are steps. -/
theorem Fits.isStep (fits : gap.Fits root rest) : ∀ step ∈ rest, IsStep step := by
  intro step member
  rw [← fits.after] at member
  exact isStep_of_mem_steps member

/-- Whether a slash ends a filled gap is seen after the name. -/
theorem endsInSlash_fill (plain : IsPlain name) :
    (gap.fill name).endsInSlash = (gap.after.toList.getLast? == some '/') := by
  have kept : name.toList ≠ [] := by simpa using plain.some
  have notSlash : name.toList.getLast kept ≠ '/' := fun slash =>
    plain.slash (slash ▸ List.getLast_mem kept)
  unfold endsInSlash fill
  simp only [String.toList_append, List.getLast?_append, List.getLast?_eq_some_getLast kept]
  cases gap.after.toList.getLast? <;> simp [notSlash]

/-- Plain names of one size are accepted in a gap, or both are refused for the same reason. -/
theorem accepts_fill (fits : gap.Fits root rest) (plain : IsPlain first) (other : IsPlain second)
    (sized : second.utf8ByteSize = first.utf8ByteSize) :
    (gap.fill first).acceptedPieces = .ok (gap.fill first).pieces ∧
        (gap.fill second).acceptedPieces = .ok (gap.fill second).pieces ∨
      ∃ fault, fault ≠ .missing ∧ (gap.fill first).acceptedPieces = .error fault ∧
        (gap.fill second).acceptedPieces = .error fault := by
  have nul : (gap.fill second).text.toList.contains '\x00' =
      (gap.fill first).text.toList.contains '\x00' := by
    rw [Bool.eq_iff_iff]
    simp [fill, plain.nul, other.nul]
  have size : (gap.fill second).text.utf8ByteSize = (gap.fill first).text.utf8ByteSize := by
    simp [fill, String.utf8ByteSize_append, sized]
  have filled : ∀ name, (gap.fill name).text ≠ "" := by
    intro name none
    obtain ⟨more, whole⟩ := List.head?_eq_some_iff.mp fits.absolute
    have empty := congrArg String.toList none
    simp [fill, whole] at empty
  unfold acceptedPieces
  rw [nul, size, if_neg (filled first), if_neg (filled second)]
  split
  · exact .inr ⟨.holdsNul, by simp, rfl, rfl⟩
  · split
    · exact .inr ⟨.nameTooLong, by simp, rfl, rfl⟩
    · exact .inl ⟨rfl, rfl⟩

end Filling

section Fitting

variable {root : Path} {name further : String}

/-- A path from the root directory on has a gap below it. -/
theorem fits_into (absolute : root.isAbsolute = true) (further : String) :
    (into root further).Fits root (Path.mk further).steps where
  absolute := by
    have slash : root.text.toList.head? = some '/' := by simpa [isAbsolute] using absolute
    unfold into
    dsimp only
    split
    · exact slash
    · simp [slash]
  closed := by
    unfold into
    dsimp only
    split
    · rename_i slash
      simpa [endsInSlash] using slash
    · simp
  opened := .inr (by simp [into])
  before := by
    unfold into
    dsimp only
    split
    · rfl
    · simp [steps, pieces, Text.splitAt_append_cons, Text.splitAt]
  after := by simp [into, steps, pieces, Text.splitAt]

/-- A path from the root directory on has a gap for a name at its end. -/
theorem fits_below (absolute : root.isAbsolute = true) : (below root).Fits root [] :=
  { fits_into absolute "" with
    opened := .inl rfl
    after := rfl }

/-- A name fills the gap at the end of a path. -/
theorem fill_below (absolute : root.isAbsolute = true) (plain : IsPlain name) :
    (below root).fill name = root.join name := by
  have filled : root.text.toList ≠ [] := by
    intro none
    simp [isAbsolute, none] at absolute
  have relative : name.toList.head? ≠ some '/' := fun slash =>
    plain.slash (List.mem_of_head? slash)
  unfold below into fill join endsInSlash
  rw [if_neg relative]
  by_cases slash : root.text.toList.getLast? = some '/'
  · simp [slash]
  · simp [slash, filled]

/-- A path that goes on below a directory with a name fills a gap. -/
theorem fill_into (absolute : root.isAbsolute = true) (plain : IsPlain name)
    (relative : (Path.mk further).isAbsolute = false) :
    (into root further).fill name = (root.join name).join further := by
  have start : further.toList.head? ≠ some '/' := by simpa [isAbsolute] using relative
  have kept : name.toList ≠ [] := by simpa using plain.some
  have opened : (root.join name).endsInSlash = false := by
    rw [← fill_below absolute plain, endsInSlash_fill plain]
    rfl
  have slash : (root.join name).text.toList.getLast? ≠ some '/' := by
    simpa [endsInSlash] using opened
  have filled : (root.join name).text.toList ≠ [] := by
    rw [← fill_below absolute plain]
    simp [fill, kept]
  have text : (root.join name).text = (into root further).before ++ name := by
    rw [← fill_below absolute plain]
    simp [fill, below, into]
  rw [join, if_neg start, if_neg (by simp [slash, filled]), text]
  simp [fill, into, String.append_assoc]

/-- Steps from the root directory on have gaps between them. -/
theorem fits_between (root : Path) {rest : List String} (each : ∀ step ∈ rest, IsStep step) :
    (between root.steps rest).Fits root rest := by
  have outer : ∀ step ∈ root.steps, IsStep step := fun _ => isStep_of_mem_steps
  have free : ∀ {steps : List String}, (∀ step ∈ steps, IsStep step) →
      ∀ piece ∈ steps.map String.toList, '/' ∉ piece := by
    intro steps each piece member
    obtain ⟨step, inside, rfl⟩ := List.mem_map.mp member
    exact (each step inside).2.2
  refine ⟨by simp [between], ?_, ?_, ?_, ?_⟩
  · simp only [between, String.toList_ofList, Text.joinWith_concat]
    induction root.steps using List.reverseRecOn with
    | nil => rfl
    | append_singleton front last =>
      rw [List.map_append, List.flatMap_append, List.append_nil, List.map_singleton,
        List.flatMap_singleton, ← List.append_assoc, ← List.cons_append, List.getLast?_concat]
  · cases rest with
    | nil => exact .inl rfl
    | cons first more => exact .inr (by simp [between, Text.joinWith])
  · have cut : Text.splitAt '/' ('/' :: Text.joinWith '/' (root.steps.map String.toList ++ [[]])) =
        [] :: (root.steps.map String.toList ++ [[]]) := by
      rw [Text.splitAt, if_pos rfl, Text.splitAt_joinWith (by simp)]
      intro piece member
      obtain inside | last := List.mem_append.mp member
      · exact free outer piece inside
      · simp [List.mem_singleton.mp last]
    rw [steps, pieces, between, String.toList_ofList, cut]
    rw [List.filter_cons_of_neg (by simp), List.filter_append, List.filter_cons_of_neg (by simp),
      List.filter_nil, List.append_nil, ofList_toList fun step member => (outer step member).1,
      filter_of_isStep outer]
  · have cut : Text.splitAt '/' (Text.joinWith '/' ([] :: rest.map String.toList)) =
        [] :: rest.map String.toList := by
      refine Text.splitAt_joinWith (by simp) ?_
      intro piece member
      obtain rfl | inside := List.mem_cons.mp member
      · simp
      · exact free each piece inside
    rw [steps, pieces, between, String.toList_ofList, cut, List.filter_cons_of_neg (by simp),
      ofList_toList fun step member => (each step member).1, filter_of_isStep each]

/-- The path of the root directory and steps fills the gap between them. -/
theorem fill_between (outer rest : List String) :
    (between outer rest).fill name =
      ofComponents (.root :: (outer ++ name :: rest).map componentOf) := by
  have texts : (outer ++ name :: rest).map (fun step => (componentOf step).text.toList) =
      outer.map String.toList ++ name.toList :: rest.map String.toList := by
    simp
  rw [ofComponents, List.map_map, Function.comp_def, texts, Text.joinWith_append_cons]
  simp [fill, between, String.ext_iff]

end Fitting

end Gap

end DecompileServer.Path
