import DecompileServer.Disk.Host
import DecompileServer.Proofs.Text.Pieces

/-!
# Steps of paths

The steps of a path are its pieces without the single dots, which lead nowhere. A path that
continues another has the steps of both (`steps_join`), and the path that is put together from the
components of an absolute path has the same steps (`pieces_ofComponents`). The extension of a path is
what follows the last dot, unless that begins the name of the file (`extension?_eq`).
-/
namespace DecompileServer.Path

variable {path : Path} {further : String}

/-- The pieces of a path that lead somewhere. -/
def steps (path : Path) : List String :=
  path.pieces.filter (· ≠ ".")

/-- The component that a step stands for. -/
def componentOf (step : String) : Component :=
  if step = ".." then .up else .name step

/-- Whether a text can stand between two slashes and leads somewhere. -/
def IsStep (step : String) : Prop :=
  step ≠ "" ∧ step ≠ "." ∧ '/' ∉ step.toList

@[simp] theorem text_componentOf (step : String) : (componentOf step).text = step := by
  unfold componentOf
  split
  · rename_i up
    rw [up]
    rfl
  · rfl

/-- A piece is not empty and holds no slash. -/
theorem slash_notMem_of_mem_pieces {piece : String} (member : piece ∈ path.pieces) :
    piece ≠ "" ∧ '/' ∉ piece.toList := by
  obtain ⟨characters, kept, rfl⟩ := List.mem_map.mp member
  obtain ⟨cut, some⟩ := List.mem_filter.mp kept
  rw [String.toList_ofList]
  refine ⟨?_, Text.notMem_of_mem_splitAt cut⟩
  intro none
  have empty := congrArg String.toList none
  rw [String.toList_ofList] at empty
  simp [empty] at some

/-- Every step of a path is one. -/
theorem isStep_of_mem_steps {step : String} (member : step ∈ path.steps) : IsStep step := by
  obtain ⟨piece, moves⟩ := List.mem_filter.mp member
  obtain ⟨some, free⟩ := slash_notMem_of_mem_pieces piece
  exact ⟨some, by simpa using moves, free⟩

/-- Texts that are not empty are the pieces that their characters make up. -/
theorem ofList_toList {texts : List String} (each : ∀ text ∈ texts, text ≠ "") :
    ((texts.map String.toList).filter (· ≠ [])).map String.ofList = texts := by
  rw [List.filter_eq_self.mpr, List.map_map]
  · exact (List.map_congr_left fun text _ => String.ofList_toList).trans (List.map_id' _)
  · intro characters member
    obtain ⟨text, inside, rfl⟩ := List.mem_map.mp member
    simpa [← String.toList_eq_nil_iff] using each text inside

/-- Steps are no single dots. -/
theorem filter_of_isStep {steps : List String} (each : ∀ step ∈ steps, IsStep step) :
    steps.filter (· ≠ ".") = steps :=
  List.filter_eq_self.mpr fun step member => by simpa using (each step member).2.1

/-- The steps of a path with slashes between them are some of its characters. -/
theorem joinWith_steps_sublist (path : Path) :
    (Text.joinWith '/' (path.steps.map String.toList)).Sublist path.text.toList := by
  have same : String.toList ∘ String.ofList = id := funext fun _ => String.toList_ofList
  have fewer : (path.steps.map String.toList).Sublist (Text.splitAt '/' path.text.toList) := by
    refine (List.filter_sublist.map String.toList).trans ?_
    rw [pieces, List.map_map, same, List.map_id]
    exact List.filter_sublist
  have joined : (Text.joinWith '/' (path.steps.map String.toList)).Sublist
      (Text.joinWith '/' (Text.splitAt '/' path.text.toList)) := Text.joinWith_sublist fewer
  rwa [Text.joinWith_splitAt] at joined

section Components

/-- The components of pieces are those of the steps among them. -/
theorem map_componentOfPiece (pieces : List (List Char)) :
    (pieces.filter isStep).map componentOfPiece =
      (((pieces.filter (· ≠ [])).map String.ofList).filter (· ≠ ".")).map componentOf := by
  induction pieces with
  | nil => rfl
  | cons piece rest ih =>
    by_cases empty : piece = []
    · subst empty
      simpa [isStep] using ih
    · by_cases dot : piece = ['.']
      · subst dot
        have here : String.ofList ['.'] = "." := rfl
        simpa [isStep, here] using ih
      · have notHere : String.ofList piece ≠ "." := by
          intro same
          exact dot (by rw [← String.toList_ofList (l := piece), same]; rfl)
        have same : componentOfPiece piece = componentOf (String.ofList piece) := by
          unfold componentOfPiece componentOf
          by_cases up : piece = ['.', '.']
          · subst up
            rfl
          · rw [if_neg up, if_neg]
            intro same
            exact up (by rw [← String.toList_ofList (l := piece), same]; rfl)
        simp only [ne_eq, decide_not] at ih
        simp [isStep, empty, dot, notHere, same, ih]

/-- The components of an absolute path are the root and its steps. -/
theorem components_of_isAbsolute (absolute : path.isAbsolute = true) :
    path.components = .root :: path.steps.map componentOf := by
  simp only [components, if_pos absolute, map_componentOfPiece]
  rfl

/-- The texts of the components of steps are the steps. -/
theorem map_text_componentOf (steps : List String) :
    (steps.map componentOf).map (fun component => component.text.toList) =
      steps.map String.toList := by
  rw [List.map_map]
  exact List.map_congr_left fun step _ => by simp

section Joined

variable {texts : List String} (free : ∀ text ∈ texts, text ≠ "" ∧ '/' ∉ text.toList)
include free

/-- The pieces of texts with slashes between them are the texts. -/
theorem filter_splitAt_joinWith (nonempty : texts ≠ []) :
    ((Text.splitAt '/' (Text.joinWith '/' (texts.map String.toList))).filter
      (· ≠ [])).map String.ofList = texts := by
  rw [Text.splitAt_joinWith (by simpa using nonempty)]
  · exact ofList_toList fun text member => (free text member).1
  · intro characters member
    obtain ⟨text, inside, rfl⟩ := List.mem_map.mp member
    exact (free text inside).2

/-- The path of texts with slashes between them has the texts as its pieces. -/
theorem pieces_joinWith :
    (Path.mk (String.ofList (Text.joinWith '/' (texts.map String.toList)))).pieces = texts := by
  cases texts with
  | nil => rfl
  | cons first rest =>
    rw [Path.pieces, String.toList_ofList]
    exact filter_splitAt_joinWith free (by simp)

/-- The path of texts with slashes between them is relative. -/
theorem isAbsolute_joinWith :
    (Path.mk (String.ofList (Text.joinWith '/' (texts.map String.toList)))).isAbsolute = false := by
  cases texts with
  | nil => rfl
  | cons first rest =>
    obtain ⟨filled, slash⟩ := free first List.mem_cons_self
    have some : first.toList ≠ [] := by simpa using filled
    obtain ⟨character, more, written⟩ := List.exists_cons_of_ne_nil some
    have differs : character ≠ '/' := by
      rintro rfl
      exact slash (written ▸ List.mem_cons_self)
    cases rest <;> simp [isAbsolute, Text.joinWith, written, differs]

end Joined

/-- The path of the root and steps has these steps. -/
theorem pieces_ofComponents {steps : List String} (each : ∀ step ∈ steps, IsStep step) :
    (ofComponents (.root :: steps.map componentOf)).pieces = steps := by
  simp only [ofComponents, pieces, map_text_componentOf, String.toList_ofList, Text.splitAt,
    ↓reduceIte]
  rw [List.filter_cons_of_neg (by simp)]
  by_cases some : steps = []
  · subst some
    rfl
  · exact filter_splitAt_joinWith (fun step member => ⟨(each step member).1, (each step member).2.2⟩)
      some

/-- The path of the root and steps is absolute. -/
theorem isAbsolute_ofComponents (components : List Component) :
    (ofComponents (.root :: components)).isAbsolute = true := by
  simp [ofComponents, isAbsolute]

/-- No step is left out of the path of the root and steps. -/
theorem steps_ofComponents {steps : List String} (each : ∀ step ∈ steps, IsStep step) :
    (ofComponents (.root :: steps.map componentOf)).steps = steps := by
  rw [Path.steps, pieces_ofComponents each, filter_of_isStep each]

/-- The path of some components at the front of an absolute path is absolute, and its steps are
those at the front. -/
theorem steps_of_front {front : List Component} (absolute : path.isAbsolute = true)
    (some : front ≠ []) (inside : front <+: path.components) :
    (ofComponents front).isAbsolute = true ∧ (ofComponents front).steps <+: path.steps := by
  rw [components_of_isAbsolute absolute] at inside
  obtain none | ⟨further, rfl, shorter⟩ := List.prefix_cons_iff.mp inside
  · exact absurd none some
  · obtain ⟨steps, fewer, rfl⟩ := List.prefix_map_iff.mp shorter
    have each : ∀ step ∈ steps, IsStep step := fun step member =>
      isStep_of_mem_steps (fewer.subset member)
    exact ⟨isAbsolute_ofComponents _, by rwa [steps_ofComponents each]⟩

/-- What stands before the steps among the components: the root, or a single dot at the front. -/
def front (path : Path) : List Component :=
  if path.isAbsolute then [.root]
  else if (Text.splitAt '/' path.text.toList).head? = some ['.'] then [.here] else []

/-- The front of a path names nothing. -/
theorem name_notMem_front (path : Path) (text : String) : .name text ∉ path.front := by
  unfold front
  split
  · simp
  · split <;> simp

/-- The components of a path are its front and its steps. -/
theorem components_eq (path : Path) :
    path.components = path.front ++ path.steps.map componentOf := by
  rw [components, map_componentOfPiece]
  rfl

/-- The path of steps has slashes between them. -/
theorem ofComponents_steps (steps : List String) : ofComponents (steps.map componentOf) =
    ⟨String.ofList (Text.joinWith '/' (steps.map String.toList))⟩ := by
  rw [← map_text_componentOf]
  cases steps with
  | nil => rfl
  | cons first rest =>
    have notRoot : componentOf first ≠ .root := by
      unfold componentOf
      split <;> simp
    unfold ofComponents
    split
    · rename_i whole
      exact absurd (List.cons.inj whole).1 notRoot
    · rfl

/-- The path of a front that is not the root and of steps is relative and has these steps. -/
theorem steps_ofComponents_of_relative {lead : List Component} {steps : List String}
    (leads : lead = [] ∨ lead = [.here]) (each : ∀ step ∈ steps, IsStep step) :
    (ofComponents (lead ++ steps.map componentOf)).isAbsolute = false ∧
      (ofComponents (lead ++ steps.map componentOf)).steps = steps := by
  have plain : ∀ step ∈ steps, step ≠ "" ∧ '/' ∉ step.toList :=
    fun step member => ⟨(each step member).1, (each step member).2.2⟩
  have moving := filter_of_isStep each
  obtain rfl | rfl := leads
  · rw [List.nil_append, ofComponents_steps, Path.steps, pieces_joinWith plain]
    exact ⟨isAbsolute_joinWith plain, moving⟩
  · -- The single dot is one of the texts, and left out again.
    have free : ∀ text ∈ "." :: steps, text ≠ "" ∧ '/' ∉ text.toList :=
      List.forall_mem_cons.mpr ⟨by decide, plain⟩
    have same : ofComponents ([.here] ++ steps.map componentOf) =
        ⟨String.ofList (Text.joinWith '/' (("." :: steps).map String.toList))⟩ := by
      rw [List.map_cons, ← map_text_componentOf]
      rfl
    rw [same, Path.steps, pieces_joinWith free]
    exact ⟨isAbsolute_joinWith free, by simpa using moving⟩

/-- The path of components at the front of a path starts where that does, and its steps are at the
front, unless the root is left out. -/
theorem steps_of_prefix {components : List Component} (inside : components <+: path.components)
    (rooted : path.isAbsolute = true → components ≠ []) :
    (ofComponents components).isAbsolute = path.isAbsolute ∧
      (ofComponents components).steps <+: path.steps := by
  cases absolute : path.isAbsolute with
  | true => exact steps_of_front absolute (rooted absolute) inside
  | false =>
    have leads : path.front = [] ∨ path.front = [.here] := by
      simp only [front, absolute, Bool.false_eq_true, ↓reduceIte]
      split <;> simp
    have relative : ∀ lead, lead = [] ∨ lead = [.here] → ∀ steps, steps <+: path.steps →
        (ofComponents (lead ++ steps.map componentOf)).isAbsolute = false ∧
          (ofComponents (lead ++ steps.map componentOf)).steps <+: path.steps := by
      intro lead leads steps fewer
      have each : ∀ step ∈ steps, IsStep step := fun step member =>
        isStep_of_mem_steps (fewer.subset member)
      obtain ⟨starts, same⟩ := steps_ofComponents_of_relative leads each
      exact ⟨starts, by rw [same]; exact fewer⟩
    rw [components_eq] at inside
    obtain shorter | ⟨more, rfl, rest⟩ : components <+: path.front ∨
        ∃ more, components = path.front ++ more ∧ more <+: path.steps.map componentOf := by
      obtain shorter | ⟨more, rfl⟩ := List.prefix_or_prefix_of_prefix inside
        (List.prefix_append path.front (path.steps.map componentOf))
      · exact .inl shorter
      · exact .inr ⟨more, rfl, (List.prefix_append_right_inj _).mp inside⟩
    · have lead : components = [] ∨ components = [.here] := by
        obtain none | here := leads
        · rw [none] at shorter
          exact .inl (List.prefix_nil.mp shorter)
        · rw [here] at shorter
          obtain rfl | ⟨more, rfl, rest⟩ := List.prefix_cons_iff.mp shorter
          · exact .inl rfl
          · rw [List.prefix_nil.mp rest]
            exact .inr rfl
      have moved := relative components lead [] List.nil_prefix
      rwa [List.map_nil, List.append_nil] at moved
    · obtain ⟨steps, fewer, rfl⟩ := List.prefix_map_iff.mp rest
      exact relative path.front leads steps fewer

/-- What lies above an absolute path has a component at least. -/
theorem ne_nil_of_parentComponents? {above : List Component} (absolute : path.isAbsolute = true)
    (found : path.parentComponents? = some above) : above ≠ [] := by
  have whole := components_of_isAbsolute absolute
  unfold parentComponents? at found
  split at found
  · cases found
  · cases found
  · rename_i last notRoot found'
    obtain rfl := Option.some.inj found
    rw [whole] at found' ⊢
    cases moves : path.steps.map componentOf with
    | nil =>
      rw [moves] at found'
      exact absurd (Option.some.inj found').symm notRoot
    | cons => simp

/-- What lies above a path has components at its front. -/
theorem prefix_of_parentComponents? {above : List Component}
    (found : path.parentComponents? = some above) : above <+: path.components := by
  unfold parentComponents? at found
  split at found
  · cases found
  · cases found
  · obtain rfl := Option.some.inj found
    exact List.dropLast_prefix _

end Components

section Extensions

variable {stem ending : List Char}

/-- The name of a file begins in what stands before its end. -/
theorem exists_fileName?_eq (written : path.text.toList = stem ++ ending) (free : '/' ∉ ending)
    {character : Char} (closed : ending.getLast? = some character) (plain : character ≠ '.') :
    ∃ last, (Text.splitAt '/' stem).getLast? = some last ∧
      path.fileName? = some (String.ofList (last ++ ending)) := by
  obtain ⟨front, last, cut, joined⟩ := Text.splitAt_append stem free
  have ends : (last ++ ending).getLast? = some character := by
    rw [List.getLast?_append, closed, Option.some_or]
  have differs {piece : List Char} (other : piece.getLast? ≠ some character) :
      last ++ ending ≠ piece := fun same => other (same ▸ ends)
  have step : isStep (last ++ ending) = true := by
    simp only [isStep, Bool.and_eq_true, decide_eq_true_eq]
    exact ⟨differs (by simp), differs (by simpa using Ne.symm plain)⟩
  have component : componentOfPiece (last ++ ending) = .name (String.ofList (last ++ ending)) :=
    if_neg (differs (by simpa using Ne.symm plain))
  refine ⟨last, by rw [cut, List.getLast?_concat], ?_⟩
  simp only [fileName?, components, written, joined, List.filter_append, List.map_append,
    List.filter_cons_of_pos step, List.filter_nil, List.map_singleton, component,
    ← List.append_assoc, List.getLast?_concat]

/-- The extension of a name is what follows its last dot, unless that begins the name. -/
theorem extensionOfName?_eq (last : List Char) (free : '.' ∉ ending) :
    extensionOfName? (String.ofList (last ++ '.' :: ending)) =
      if last = [] then none else some (String.ofList ending) := by
  have pieces : (Text.splitAt '.' (last ++ '.' :: ending)).reverse =
      ending :: (Text.splitAt '.' last).reverse := by
    rw [Text.splitAt_append_cons, Text.splitAt_of_notMem free, List.reverse_append]
    rfl
  unfold extensionOfName?
  rw [String.toList_ofList, pieces]
  by_cases empty : last = []
  · rw [if_pos empty, empty]
    rfl
  · rw [if_neg empty]
    have whole : Text.joinWith '.' (Text.splitAt '.' last) = last := Text.joinWith_splitAt last
    cases cut : (Text.splitAt '.' last).reverse with
    | nil => exact absurd (List.reverse_eq_nil_iff.mp cut) (Text.splitAt_ne_nil last)
    | cons piece before =>
      rw [List.reverse_eq_iff.mp cut] at whole
      cases before with
      | nil =>
        have same : piece = last := whole
        obtain ⟨first, rest, rfl⟩ := List.exists_cons_of_ne_nil (same ▸ empty)
        rfl
      | cons => cases piece <;> rfl

/-- A path that ends in a dot and more has that for an extension, unless the dot begins the name of
the file. -/
theorem extension?_eq (written : path.text.toList = stem ++ '.' :: ending) (free : '/' ∉ ending)
    (last : '.' ∉ ending) (filled : ending ≠ []) : path.extension? =
      if stem = [] ∨ stem.getLast? = some '/' then none else some (String.ofList ending) := by
  have apart : '/' ∉ '.' :: ending := by simpa using free
  have closed : ('.' :: ending).getLast? = some (ending.getLast filled) := by
    rw [List.getLast?_eq_some_getLast (List.cons_ne_nil _ _), List.getLast_cons filled]
  have plain : ending.getLast filled ≠ '.' := fun same => last (same ▸ List.getLast_mem filled)
  obtain ⟨front, cut, named⟩ := exists_fileName?_eq written apart closed plain
  have begins : front = [] ↔ stem = [] ∨ stem.getLast? = some '/' := by
    rw [← Text.getLast?_splitAt_eq_nil_iff, cut, Option.some.injEq]
  rw [extension?, named, Option.bind_some, extensionOfName?_eq front last]
  simp only [begins]

end Extensions

section Join

/-- A path that continues starts where the first part does. -/
theorem isAbsolute_join_of_relative (relative : (mk further).isAbsolute = false) :
    (path.join further).isAbsolute = path.isAbsolute := by
  have start : further.toList.head? ≠ some '/' := by simpa [isAbsolute] using relative
  have later : (further.toList.head? == some '/') = false := by simpa using start
  unfold isAbsolute
  rw [join, if_neg start]
  cases written : path.text.toList with
  | nil => simp [written, later]
  | cons first rest => split <;> simp [written]

/-- A path that continues has the pieces of both parts. -/
theorem pieces_join (relative : (mk further).isAbsolute = false) :
    (path.join further).pieces = path.pieces ++ (mk further).pieces := by
  have front : further.toList.head? ≠ some '/' := by
    simpa [isAbsolute] using relative
  rw [join, if_neg front]
  by_cases closed : path.text.toList = [] ∨ path.text.toList.getLast? = some '/'
  · rw [if_pos closed]
    rcases closed with empty | slash
    · simp [pieces, empty, Text.splitAt]
    · obtain ⟨before, same⟩ := List.getLast?_eq_some_iff.mp slash
      have whole : path.text.toList = before ++ '/' :: [] := same
      simp [pieces, whole, Text.splitAt_append_cons, Text.splitAt]
  · rw [if_neg closed]
    have slash : "/".toList = ['/'] := rfl
    simp [pieces, slash, Text.splitAt_append_cons]

/-- A path that continues has the steps of both parts. -/
theorem steps_join (relative : (mk further).isAbsolute = false) :
    (path.join further).steps = path.steps ++ (mk further).steps := by
  rw [steps, pieces_join relative, List.filter_append]
  rfl

/-- A path that continues has the front of the first part, unless a single dot leads the second. -/
theorem front_join (relative : (mk further).isAbsolute = false)
    (moves : (Text.splitAt '/' further.toList).head? ≠ some ['.']) :
    (path.join further).front = path.front := by
  have start : further.toList.head? ≠ some '/' := by simpa [isAbsolute] using relative
  -- A slash ends the first piece, so what comes after it does not matter for the front.
  have ended : ∀ before after : List Char,
      (Text.splitAt '/' (before ++ '/' :: after)).head? = (Text.splitAt '/' before).head? ∧
        ((before ++ '/' :: after).head? == some '/') = ((before ++ ['/']).head? == some '/') := by
    intro before after
    refine ⟨?_, by cases before <;> rfl⟩
    rw [Text.splitAt_append_cons, List.head?_append, Text.head?_splitAt before, Option.some_or]
  rw [join, if_neg start]
  split
  · rename_i closed
    rcases closed with empty | slash
    · simp [front, isAbsolute, empty, start, moves, Text.splitAt]
    · obtain ⟨before, whole⟩ := List.getLast?_eq_some_iff.mp slash
      have long := ended before further.toList
      have short := ended before []
      have joined : path.text.toList ++ further.toList = before ++ '/' :: further.toList := by
        rw [whole, List.append_assoc]
        rfl
      unfold front isAbsolute
      rw [String.toList_append, joined, long.1, long.2, whole, short.1]
  · rename_i opened
    rw [not_or] at opened
    have joined : (path.text ++ "/" ++ further).toList =
        path.text.toList ++ '/' :: further.toList := by
      simp
    have long := ended path.text.toList further.toList
    have same : ((path.text.toList ++ ['/']).head? == some '/') =
        (path.text.toList.head? == some '/') := by
      cases written : path.text.toList with
      | nil => exact absurd written opened.1
      | cons first rest => rfl
    unfold front isAbsolute
    rw [joined, long.1, long.2, same]

/-- A path that continues has the components of the first part and the steps of the second. -/
theorem components_join (relative : (mk further).isAbsolute = false)
    (moves : (Text.splitAt '/' further.toList).head? ≠ some ['.']) :
    (path.join further).components = path.components ++ (mk further).steps.map componentOf := by
  rw [components_eq, front_join relative moves, steps_join relative, List.map_append,
    ← List.append_assoc, ← components_eq]

/-- A path that continues by fewer characters has fewer. -/
theorem join_sublist {shorter : String} (relative : (mk further).isAbsolute = false)
    (still : (mk shorter).isAbsolute = false) (fewer : shorter.toList.Sublist further.toList) :
    (path.join shorter).text.toList.Sublist (path.join further).text.toList := by
  have start : further.toList.head? ≠ some '/' := by simpa [isAbsolute] using relative
  have first : shorter.toList.head? ≠ some '/' := by simpa [isAbsolute] using still
  rw [join, join, if_neg start, if_neg first]
  split <;> simpa using fewer

/-- A path that continues an absolute one is absolute. -/
theorem isAbsolute_join (absolute : path.isAbsolute = true) :
    (path.join further).isAbsolute = true := by
  have slash : path.text.toList.head? = some '/' := by simpa [isAbsolute] using absolute
  obtain ⟨rest, whole⟩ := List.head?_eq_some_iff.mp slash
  unfold join
  split
  · simpa [isAbsolute]
  · split <;> simp [isAbsolute, whole]

end Join

end DecompileServer.Path
