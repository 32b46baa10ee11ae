import DecompileServer.Engine.External
import DecompileServer.Proofs.ClassName
import Mathlib.Data.List.Induction

/-!
# Which classes are staged

Beside a class those are staged to which it refers, itself or through staged classes. They come in
the order in which they are first mentioned, breadth first, as far as the budget goes
(`IsBreadthFirst`), and there is one such list only. A plan keeps a queue of names and those that it
has seen; what has been mentioned so far is always what it has gone through and then its queue
(`Queued`), so its classes are that list.
-/
namespace DecompileServer.Staging

/-- A class that may be staged: there are bytes for its name, which is none of the class's own. -/
structure IsFound (lookup : ClassLookup) (own : List String) (item : ClassName × List UInt8) :
    Prop where
  /-- The name is another one. -/
  foreign : item.1.text ∉ own
  /-- It is answered with the bytes. -/
  answered : lookup item.1.text = some item.2
  /-- There are some. -/
  filled : item.2 ≠ []

/-- The names that a class and those staged with it refer to, in their order. A staged class that is
no class file refers to none. -/
def mentioned (roots : List String) (staged : List (ClassName × List UInt8)) : List String :=
  roots ++ staged.flatMap fun item =>
    match ClassFile.parse item.2 with
    | .ok summary => summary.references
    | .error _ => []

/-- The class to stage next: the first one mentioned that may be staged and is not. -/
structure IsNext (lookup : ClassLookup) (own roots : List String)
    (staged : List (ClassName × List UInt8)) (item : ClassName × List UInt8) : Prop where
  /-- It may be staged. -/
  found : IsFound lookup own item
  /-- It is not staged yet. -/
  fresh : item ∉ staged
  /-- It is mentioned, and of those before it all are staged that may be. -/
  first : ∃ before after, mentioned roots staged = before ++ item.1.text :: after ∧
    ∀ other, other.1.text ∈ before → IsFound lookup own other → other ∈ staged

/-- Each class is the next one after those before it. -/
def IsOrdered (lookup : ClassLookup) (own roots : List String)
    (staged : List (ClassName × List UInt8)) : Prop :=
  ∀ front item back, staged = front ++ item :: back → IsNext lookup own roots front item

/-- The classes that are found breadth first within a budget. -/
structure IsBreadthFirst (lookup : ClassLookup) (own roots : List String) (budget : Nat)
    (staged : List (ClassName × List UInt8)) : Prop where
  /-- Each is the next one. -/
  ordered : IsOrdered lookup own roots staged
  /-- There are no more than the budget allows. -/
  bounded : staged.length ≤ budget
  /-- If there are fewer, nothing that is mentioned is missing. -/
  complete : staged.length < budget → ∀ item, item.1.text ∈ mentioned roots staged →
    IsFound lookup own item → item ∈ staged

/-- A class to which another one refers, itself or through classes that may be staged. -/
inductive IsReachable (lookup : ClassLookup) (own roots : List String) :
    ClassName × List UInt8 → Prop where
  /-- The class itself refers to it. -/
  | direct {item : ClassName × List UInt8} (referred : item.1.text ∈ roots)
      (found : IsFound lookup own item) : IsReachable lookup own roots item
  /-- A class that may be staged refers to it. -/
  | through {other item : ClassName × List UInt8} {summary : ClassFile.Summary}
      (before : IsReachable lookup own roots other)
      (parsed : ClassFile.parse other.2 = .ok summary) (referred : item.1.text ∈ summary.references)
      (found : IsFound lookup own item) : IsReachable lookup own roots item

section Order

variable {lookup : ClassLookup} {own roots : List String} {budget : Nat}
  {staged front : List (ClassName × List UInt8)} {item other : ClassName × List UInt8}

/-- The names that the loop takes from a class are those to which its file refers. -/
theorem mem_referencesIn {name : String} {bytes : List UInt8} : name ∈ referencesIn bytes ↔
    ∃ summary, ClassFile.parse bytes = .ok summary ∧ name ∈ summary.references := by
  unfold referencesIn
  cases ClassFile.parse bytes <;> simp

/-- The names that are mentioned are those that the loop takes. -/
theorem mentioned_eq : mentioned roots staged =
    roots ++ staged.flatMap fun item => referencesIn item.2 :=
  rfl

/-- A name is mentioned by the class itself or by one that is staged. -/
theorem mem_mentioned {name : String} : name ∈ mentioned roots staged ↔
    name ∈ roots ∨ ∃ item ∈ staged, ∃ summary, ClassFile.parse item.2 = .ok summary ∧
      name ∈ summary.references := by
  simp only [mentioned_eq, List.mem_append, List.mem_flatMap, mem_referencesIn]

/-- The next class mentions the names that the loop takes from it. -/
theorem mentioned_concat : mentioned roots (staged ++ [item]) =
    mentioned roots staged ++ referencesIn item.2 := by
  simp [mentioned_eq]

/-- A name has one class at most. -/
theorem IsFound.eq_of_text (found : IsFound lookup own item) (another : IsFound lookup own other)
    (same : item.1.text = other.1.text) : item = other := by
  have bytes := found.answered
  rw [same, another.answered] at bytes
  exact Prod.ext (ClassName.eq_of_text same) (Option.some.inj bytes).symm

/-- There is one next class at most. -/
theorem IsNext.unique (next : IsNext lookup own roots staged item)
    (another : IsNext lookup own roots staged other) : item = other := by
  obtain ⟨before, after, mentions, none⟩ := next.first
  obtain ⟨earlier, later, names, nothing⟩ := another.first
  rw [mentions] at names
  -- Neither of them stands before the other.
  obtain ⟨between, rest, again⟩ | ⟨between, rest, again⟩ := List.append_eq_append_iff.mp names
  · cases between with
    | nil =>
      rw [List.nil_append] at again
      exact next.found.eq_of_text another.found (List.cons.inj again).1
    | cons name between =>
      obtain ⟨rfl, -⟩ := List.cons.inj again
      exact absurd (nothing item (by simp [rest]) next.found) next.fresh
  · cases between with
    | nil =>
      rw [List.nil_append] at again
      exact next.found.eq_of_text another.found (List.cons.inj again).1.symm
    | cons name between =>
      obtain ⟨rfl, -⟩ := List.cons.inj again
      exact absurd (none other (by simp [rest]) another.found) another.fresh

namespace IsOrdered

variable (ordered : IsOrdered lookup own roots staged)
include ordered

/-- Classes at the front are in order. -/
theorem of_prefix (inside : front <+: staged) : IsOrdered lookup own roots front := by
  obtain ⟨back, rfl⟩ := inside
  rintro earlier item later rfl
  exact ordered earlier item (later ++ back) (by simp)

/-- All classes may be staged. -/
theorem isFound_of_mem (member : item ∈ staged) : IsFound lookup own item := by
  obtain ⟨front, back, whole⟩ := List.append_of_mem member
  exact (ordered front item back whole).found

/-- The next class comes at the end. -/
theorem concat (next : IsNext lookup own roots staged item) :
    IsOrdered lookup own roots (staged ++ [item]) := by
  intro front other back whole
  obtain rfl | ⟨further, last, rfl⟩ := List.eq_nil_or_concat back
  · obtain ⟨rfl, same⟩ := List.append_inj' whole rfl
    rwa [← List.singleton_inj.mp same]
  · rw [List.concat_eq_append, ← List.cons_append, ← List.append_assoc] at whole
    exact ordered front other further (List.append_inj' whole rfl).1

/-- No two classes have the same name. -/
theorem nodup : (staged.map (·.1)).Nodup := by
  induction staged using List.reverseRecOn with
  | nil => exact List.nodup_nil
  | append_singleton front item ih =>
    have earlier := ordered.of_prefix (List.prefix_append front [item])
    have next := ordered front item [] rfl
    rw [List.map_append, List.map_singleton, List.nodup_append]
    refine ⟨ih earlier, by simp, ?_⟩
    rintro name member _ (_ | ⟨_, ⟨⟩⟩) same
    obtain ⟨other, inside, rfl⟩ := List.mem_map.mp member
    have equal := (earlier.isFound_of_mem inside).eq_of_text next.found (congrArg _ same)
    exact next.fresh (equal ▸ inside)

/-- All classes are reachable. -/
theorem isReachable_of_mem (member : item ∈ staged) : IsReachable lookup own roots item := by
  induction staged using List.reverseRecOn generalizing item with
  | nil => cases member
  | append_singleton front last ih =>
    have earlier := ordered.of_prefix (List.prefix_append front [last])
    obtain inside | same := List.mem_append.mp member
    · exact ih earlier inside
    · obtain rfl := List.mem_singleton.mp same
      have next := ordered front item [] rfl
      obtain ⟨before, after, mentions, -⟩ := next.first
      have named : item.1.text ∈ mentioned roots front := by simp [mentions]
      obtain direct | ⟨other, inside, summary, parsed, through⟩ := mem_mentioned.mp named
      · exact .direct direct next.found
      · exact .through (ih earlier inside) parsed through next.found

/-- Of two lists in order one begins the other. -/
theorem prefix_or_prefix {another : List (ClassName × List UInt8)}
    (again : IsOrdered lookup own roots another) : staged <+: another ∨ another <+: staged := by
  induction staged using List.reverseRecOn with
  | nil => exact .inl List.nil_prefix
  | append_singleton front item ih =>
    obtain ⟨back, rfl⟩ | shorter := ih (ordered.of_prefix (List.prefix_append front [item]))
    · cases back with
      | nil =>
        right
        rw [List.append_nil]
        exact List.prefix_append front [item]
      | cons other back =>
        left
        rw [(ordered front item [] rfl).unique (again front other back rfl)]
        exact ⟨back, by simp⟩
    · exact .inr (shorter.trans (List.prefix_append front [item]))

end IsOrdered

namespace IsBreadthFirst

variable (breadthFirst : IsBreadthFirst lookup own roots budget staged)
include breadthFirst

/-- A list that goes on from another one within the same budget is the same. -/
theorem eq_of_prefix {another : List (ClassName × List UInt8)}
    (again : IsBreadthFirst lookup own roots budget another) (inside : staged <+: another) :
    staged = another := by
  obtain ⟨back, rfl⟩ := inside
  cases back with
  | nil => rw [List.append_nil]
  | cons item back =>
    have next := again.ordered staged item back rfl
    have few := again.bounded
    rw [List.length_append, List.length_cons] at few
    obtain ⟨before, after, mentions, -⟩ := next.first
    have named : item.1.text ∈ mentioned roots staged := by simp [mentions]
    exact absurd (breadthFirst.complete (by omega) item named next.found) next.fresh

/-- There is one list only. -/
theorem unique {another : List (ClassName × List UInt8)}
    (again : IsBreadthFirst lookup own roots budget another) : staged = another := by
  obtain shorter | longer := breadthFirst.ordered.prefix_or_prefix again.ordered
  · exact breadthFirst.eq_of_prefix again shorter
  · exact (again.eq_of_prefix breadthFirst longer).symm

/-- Short of the budget, the classes are those that are reachable. -/
theorem mem_iff (few : staged.length < budget) :
    item ∈ staged ↔ IsReachable lookup own roots item := by
  refine ⟨breadthFirst.ordered.isReachable_of_mem, fun reachable => ?_⟩
  induction reachable with
  | @direct item referred found =>
    exact breadthFirst.complete few item (mem_mentioned.mpr (.inl referred)) found
  | @through other item summary _ parsed referred found ih =>
    exact breadthFirst.complete few item
      (mem_mentioned.mpr (.inr ⟨other, ih, summary, parsed, referred⟩)) found

end IsBreadthFirst

end Order

section Planning

variable {lookup : ClassLookup} {own roots seen rest : List String} {name : String}
  {staged : List (ClassName × List UInt8)} {item : ClassName × List UInt8}

/-- A name is accepted as the class that has it, if there are bytes for it. -/
theorem accepted_eq_some_iff : accepted lookup name = some item ↔
    item.1.text = name ∧ lookup name = some item.2 ∧ item.2 ≠ [] := by
  obtain ⟨known, bytes⟩ := item
  unfold accepted
  constructor
  · intro found
    split at found
    · next byte more other answered valid =>
      cases found
      exact ⟨ClassName.text_of_ofText valid, answered, by simp⟩
    · cases found
  · rintro ⟨rfl, answered, filled⟩
    dsimp only at answered filled
    obtain ⟨byte, more, rfl⟩ := List.exists_cons_of_ne_nil filled
    rw [answered, ClassName.ofText_text]

/-- How far a plan has come: what it has staged, which names it has seen, and its queue. -/
structure Queued (lookup : ClassLookup) (own roots : List String)
    (staged : List (ClassName × List UInt8)) (seen queue : List String) : Prop where
  /-- The classes are in order. -/
  ordered : IsOrdered lookup own roots staged
  /-- What is mentioned has been gone through up to the queue. -/
  passed : ∃ done, mentioned roots staged = done ++ queue ∧ ∀ name ∈ done, name ∈ seen
  /-- The class's own names have been seen. -/
  avoided : ∀ name ∈ own, name ∈ seen
  /-- So have those of the staged classes. -/
  listed : ∀ item ∈ staged, item.1.text ∈ seen
  /-- A name that has been seen has no other class to stage. -/
  known : ∀ item, item.1.text ∈ seen → IsFound lookup own item → item ∈ staged

/-- At the start the class's own names have been seen. -/
theorem queued_start : Queued lookup own roots [] own roots where
  ordered := by simp [IsOrdered]
  passed := ⟨[], by simp [mentioned], by simp⟩
  avoided _ member := member
  listed := by simp
  known _ seen found := absurd seen found.foreign

namespace Queued

/-- The next name of the queue is gone through when it is among the names that have been seen. -/
theorem passed_next {later : List String}
    (queued : Queued lookup own roots staged seen (name :: rest)) (wider : seen ⊆ later)
    (known : name ∈ later) :
    ∃ done, mentioned roots staged = done ++ rest ∧ ∀ other ∈ done, other ∈ later := by
  obtain ⟨done, mentions, each⟩ := queued.passed
  refine ⟨done ++ [name], by simp [mentions], fun other member => ?_⟩
  obtain inside | same := List.mem_append.mp member
  · exact wider (each other inside)
  · rwa [List.mem_singleton.mp same]

/-- A name that has been seen is left out. -/
theorem skip (queued : Queued lookup own roots staged seen (name :: rest))
    (known : name ∈ seen) : Queued lookup own roots staged seen rest where
  ordered := queued.ordered
  passed := queued.passed_next (List.Subset.refl seen) known
  avoided := queued.avoided
  listed := queued.listed
  known := queued.known

/-- So is a name without a class to stage. -/
theorem pass (queued : Queued lookup own roots staged seen (name :: rest))
    (refused : accepted lookup name = none) :
    Queued lookup own roots staged (name :: seen) rest where
  ordered := queued.ordered
  passed := queued.passed_next (List.subset_cons_self name seen) List.mem_cons_self
  avoided other member := .tail _ (queued.avoided other member)
  listed item member := .tail _ (queued.listed item member)
  known item member found := by
    obtain same | inside := List.mem_cons.mp member
    · have taken : accepted lookup name = some item :=
        accepted_eq_some_iff.mpr ⟨same, same ▸ found.answered, found.filled⟩
      rw [refused] at taken
      cases taken
    · exact queued.known item inside found

/-- A name with a class to stage is that of the next one. -/
theorem isNext (queued : Queued lookup own roots staged seen (name :: rest)) (new : name ∉ seen)
    (taken : accepted lookup name = some item) : IsNext lookup own roots staged item := by
  obtain ⟨rfl, answered, filled⟩ := accepted_eq_some_iff.mp taken
  obtain ⟨done, mentions, each⟩ := queued.passed
  exact ⟨⟨fun member => new (queued.avoided _ member), answered, filled⟩,
    fun member => new (queued.listed item member),
    done, rest, mentions, fun other member => queued.known other (each _ member)⟩

/-- The class is staged, and what it refers to joins the queue. -/
theorem stage (queued : Queued lookup own roots staged seen (name :: rest)) (new : name ∉ seen)
    (taken : accepted lookup name = some item) :
    Queued lookup own roots (staged ++ [item]) (name :: seen) (rest ++ referencesIn item.2) where
  ordered := queued.ordered.concat (queued.isNext new taken)
  passed := by
    obtain ⟨done, mentions, each⟩ :=
      queued.passed_next (List.subset_cons_self name seen) List.mem_cons_self
    exact ⟨done, by rw [mentioned_concat, mentions, List.append_assoc], each⟩
  avoided other member := .tail _ (queued.avoided other member)
  listed other member := by
    obtain inside | same := List.mem_append.mp member
    · exact .tail _ (queued.listed other inside)
    · rw [List.mem_singleton.mp same, (accepted_eq_some_iff.mp taken).1]
      exact List.mem_cons_self
  known other member found := by
    rw [List.mem_append]
    obtain same | inside := List.mem_cons.mp member
    · right
      have next := queued.isNext new taken
      have text := (accepted_eq_some_iff.mp taken).1
      exact List.mem_singleton.mpr (found.eq_of_text next.found (same.trans text.symm))
    · exact .inl (queued.known other inside found)

/-- With an empty queue nothing is missing. -/
theorem isBreadthFirst_of_nil {budget : Nat} (queued : Queued lookup own roots staged seen [])
    (bounded : staged.length ≤ budget) : IsBreadthFirst lookup own roots budget staged where
  ordered := queued.ordered
  bounded := bounded
  complete _ item member found := by
    obtain ⟨done, mentions, each⟩ := queued.passed
    rw [mentions, List.append_nil] at member
    exact queued.known item (each _ member) found

/-- The classes of a plan go on from those before in breadth-first order. -/
theorem isBreadthFirst_plan {budget : Nat} {queue : List String}
    (queued : Queued lookup own roots staged seen queue) :
    IsBreadthFirst lookup own roots (staged.length + budget)
      (staged ++ (plan lookup seen budget queue).filterMap (·.staged)) := by
  induction seen, budget, queue using plan.induct lookup generalizing staged with
  | case1 seen budget =>
    rw [plan, List.filterMap_nil, List.append_nil]
    exact queued.isBreadthFirst_of_nil (Nat.le_add_right _ _)
  | case2 seen name rest =>
    rw [plan, List.filterMap_nil, List.append_nil]
    exact ⟨queued.ordered, Nat.le_refl _, fun few => absurd few (Nat.lt_irrefl _)⟩
  | case3 seen name rest further known ih =>
    rw [plan, if_pos known]
    exact ih (queued.skip known)
  | case4 seen name rest further new refused ih =>
    rw [plan, if_neg new, refused]
    exact ih (queued.pass refused)
  | case5 seen name rest further new known bytes taken ih =>
    rw [plan, if_neg new, taken]
    have later := ih (queued.stage new taken)
    rw [List.length_append, List.length_singleton, Nat.add_right_comm, List.append_assoc] at later
    exact later

end Queued

end Planning

end DecompileServer.Staging
