import DecompileServer.Proofs.Agreement
import DecompileServer.Proofs.Batch.Alone
import DecompileServer.Proofs.Batch.Mirrored
import DecompileServer.Proofs.Batch.Run

/-!
# Requests in flight together

In whatever order requests for classes from archives go their steps, each mirrors the request that
is alone (`mirrored_after`). So it comes to the same answer, and when all have returned the host is
the one from the start (`undisturbed`).
-/
namespace DecompileServer.Batch

open Disk (Location)
open Function (update)

variable {ι : Type} [DecidableEq ι] {batch : Batch ι} {host : Host} {world : World ι} {i j : ι}
  {steps past : List ι} {count : Nat}

section Alone

/-- A request that goes its steps alone. -/
def alone (batch : Batch ι) (host : Host) (i : ι) (count : Nat) : World ι :=
  batch.after host (List.replicate count i)

/-- One more step of a request that is alone. -/
theorem alone_succ : batch.alone host i (count + 1) = batch.step (batch.alone host i count) i := by
  rw [alone, List.replicate_succ', after_concat, alone]

/-- Nothing is done for the others. -/
theorem progress_alone_of_ne (different : j ≠ i) :
    (batch.alone host i count).progress j = .asked :=
  progress_after_of_notMem fun member => different (List.eq_of_mem_replicate member)

/-- A request that is alone and has no workspace is on the host from the start. -/
theorem host_alone (orderly : batch.Orderly host (batch.alone host i count).held
      (batch.alone host i count).host) (without : (batch.alone host i count).held i = none) :
    (batch.alone host i count).host = host := by
  refine orderly.eq_of_none fun j => ?_
  by_cases same : j = i
  · rw [same, without]
  · rw [World.held, progress_alone_of_ne same]
    rfl

variable (closed : host.tree.IsClosed)
include closed

/-- The workspace of a request that is alone is in order. -/
theorem orderly_alone : batch.Orderly host (batch.alone host i count).held
    (batch.alone host i count).host := by
  induction count with
  | zero => exact orderly_start closed
  | succ count ih =>
    rw [alone_succ]
    exact orderly_step closed ih fun without => by rw [host_alone ih without]

/-- A request that is alone does what it has to for the classes of its archive. -/
theorem prepared_alone (outside : batch.IsOutside host (batch.archive i)) :
    batch.Prepared host i ((batch.alone host i count).progress i)
      (batch.alone host i count).host := by
  induction count with
  | zero => trivial
  | succ count ih =>
    rw [alone_succ, progress_step_self]
    exact ih.advance ((orderly_alone closed).load_eq outside)

omit closed in
/-- A request that is alone comes to what it reaches. -/
theorem exists_alone_of_reaches {point goal : Progress × Host} (way : batch.Reaches i point goal)
    (reached : ∃ count, (batch.alone host i count).progress i = point.1 ∧
      (batch.alone host i count).host = point.2) :
    ∃ count, (batch.alone host i count).progress i = goal.1 ∧
      (batch.alone host i count).host = goal.2 := by
  induction way with
  | refl => exact reached
  | step further ih =>
    obtain ⟨count, progress, same⟩ := reached
    refine ih ⟨count + 1, ?_, ?_⟩
    · rw [alone_succ, progress_step_self, progress, same]
    · rw [alone_succ, step, progress, same]

omit closed in
/-- A request that has returned stays where it is. -/
theorem alone_stays {result : Except StageFailure String} {enough : Nat} (later : enough ≤ count)
    (answered : (batch.alone host i enough).progress i = .answered result) :
    (batch.alone host i count).progress i = .answered result := by
  obtain ⟨more, rfl⟩ := Nat.exists_eq_add_of_le later
  clear later
  induction more with
  | zero => exact answered
  | succ more ih =>
    rw [← Nat.add_assoc, alone_succ, progress_step_self, ih]
    rfl

omit closed in
/-- A request that is alone comes to what the service gives. -/
theorem exists_alone_answered (batch : Batch ι) (host : Host) (i : ι) :
    ∃ enough, (batch.alone host i enough).progress i = .answered (batch.outcome host i).1 := by
  obtain ⟨enough, answered, _⟩ :=
    exists_alone_of_reaches (batch.reaches_answer i host) ⟨0, rfl, rfl⟩
  exact ⟨enough, answered⟩

end Alone

section Together

variable (closed : host.tree.IsClosed) (even : batch.HasEvenNames host steps)
include closed even

/-- Whatever steps have been gone, each request mirrors the one that has gone its steps alone. -/
theorem mirrored_after (outside : batch.IsOutside host (batch.archive i)) :
    batch.Mirrored host ((batch.alone host i (steps.count i)).progress i)
      (batch.alone host i (steps.count i)).host ((batch.after host steps).progress i)
      (batch.after host steps).host := by
  induction steps using List.reverseRecOn with
  | nil => exact .plain _ _ _ rfl
  | append_singleton past j ih =>
    have earlier := even.of_prefix (List.prefix_append past [j])
    have mirrored := ih earlier
    have there := orderly_after closed earlier
    have sized := even past (List.prefix_append _ _)
    rw [List.count_append, after_concat]
    by_cases same : j = i
    · subst same
      have here : batch.Orderly host (batch.alone host j (past.count j)).held
          (batch.alone host j (past.count j)).host := orderly_alone closed
      rw [List.count_singleton_self, alone_succ, progress_step_self, progress_step_self]
      exact mirrored.advance closed here there rfl rfl outside (prepared_alone closed outside)
        (fun without => by rw [host_alone here without]) fun _ => sized
    · rw [List.count_singleton, if_neg (by simpa using same), Nat.add_zero,
        progress_step_of_ne (Ne.symm same)]
      exact mirrored.aside closed there rfl (moves_step closed there fun _ => sized) (Ne.symm same)

/-- When all have returned, the host is the one from the start. -/
theorem host_after (answered : ∀ i ∈ steps, ∃ result,
    (batch.after host steps).progress i = .answered result) :
    (batch.after host steps).host = host := by
  refine (orderly_after closed even).eq_of_none fun i => ?_
  by_cases member : i ∈ steps
  · obtain ⟨result, returned⟩ := answered i member
    rw [World.held, returned]
    rfl
  · rw [World.held, progress_after_of_notMem member]
    rfl

/-- A request that has gone enough steps has the answer that the service gives. -/
theorem progress_after {result : Except StageFailure String}
    (outside : batch.IsOutside host (batch.archive i))
    (answered : (batch.alone host i (steps.count i)).progress i = .answered result) :
    (batch.after host steps).progress i = .answered result := by
  have mirrored := mirrored_after closed even outside
  rw [answered] at mirrored
  generalize (batch.after host steps).progress i = progress at mirrored
  cases mirrored
  rfl

/-- What a request that has returned answers, it answers alone. -/
theorem alone_of_after {result : Except StageFailure String}
    (outside : batch.IsOutside host (batch.archive i))
    (answered : (batch.after host steps).progress i = .answered result) :
    (batch.alone host i (steps.count i)).progress i = .answered result := by
  have mirrored := mirrored_after closed even outside
  rw [answered] at mirrored
  generalize (batch.alone host i (steps.count i)).progress i = progress at mirrored
  cases mirrored
  rfl

end Together

/-- Requests for classes from archives do not disturb one another. However their steps follow one
another, each request that has gone as many steps as it needs has returned what the service gives
for it on the host from the start, and no request returns anything else. When all have returned, the
host is the one from the start. No step of a request, the removal of its workspace included, changes
an archive or anything in the workspace of another request. The archives lie outside of the places
of workspaces, and the names of workspaces are of one size. -/
theorem undisturbed (batch : Batch ι) (host : Host) (closed : host.tree.IsClosed)
    (outside : ∀ i, batch.IsOutside host (batch.archive i)) :
    ∃ enough : ι → Nat, ∀ steps, batch.HasEvenNames host steps →
      (∀ i, enough i ≤ steps.count i →
        (batch.after host steps).progress i = .answered (batch.outcome host i).1) ∧
      (∀ i result, (batch.after host steps).progress i = .answered result →
        result = (batch.outcome host i).1) ∧
      ((∀ i ∈ steps, ∃ result, (batch.after host steps).progress i = .answered result) →
        (batch.after host steps).host = host) ∧
      ∀ past i, past ++ [i] <+: steps →
        (∀ j, (batch.after host (past ++ [i])).host.nodeAt (batch.archive j) =
          host.nodeAt (batch.archive j)) ∧
        ∀ j workspace, j ≠ i → (batch.after host past).held j = some workspace →
          ∃ base, (batch.after host past).host.locate workspace.path = .ok base ∧
            ∀ location, base <+: location →
              (batch.after host (past ++ [i])).host.tree.find? location =
                (batch.after host past).host.tree.find? location := by
  choose enough finishes using batch.exists_alone_answered host
  refine ⟨enough, fun steps even => ⟨?_, ?_, host_after closed even, ?_⟩⟩
  · intro i many
    exact progress_after closed even (outside i) (alone_stays many (finishes i))
  · intro i result answered
    have alone := alone_of_after closed even (outside i) answered
    have first := alone_stays (Nat.le_add_right (steps.count i) (enough i)) alone
    have second := alone_stays (Nat.le_add_left (enough i) (steps.count i)) (finishes i)
    exact Progress.answered.inj (first.symm.trans second)
  · intro past i inside
    have orderly := orderly_after closed (even.of_prefix inside)
    refine ⟨fun j => orderly.nodeAt_eq (outside j), fun j workspace different has => ?_⟩
    have earlier := (List.prefix_append past [i]).trans inside
    have before := orderly_after closed (even.of_prefix earlier)
    obtain ⟨name, base, owns⟩ := before.owned j workspace has
    obtain rfl := Option.some.inj (has.symm.trans owns.has)
    obtain ⟨site, furnished⟩ := before.site closed owns
    refine ⟨base, site.locate_eq furnished, fun location below => ?_⟩
    rw [after_concat]
    exact (moves_step closed before fun _ => even past earlier).find?_eq before owns different below

/-- Two requests for the class of the sample archive, of which the engine asks for the bytes. -/
def pair : Batch Bool where
  inquire name _ := .ask name.text fun found =>
    .answer (if found.isSome then .ok name.dotted else .error (.classUnavailable name.text))
  archive _ := ⟨"/b.jar"⟩
  className _ := some "a.B"

/-- The steps of both requests, turn by turn. -/
def turns : List Bool := (List.replicate 8 [false, true]).flatten

set_option maxRecDepth 100000 in
/-- The theorem on two requests that extract one archive side by side. -/
theorem undisturbed_pair :
    sampleHost.tree.IsClosed ∧ (∀ i, pair.IsOutside sampleHost (pair.archive i)) ∧
      pair.HasEvenNames sampleHost turns ∧
      (∀ i, (pair.after sampleHost turns).progress i = .answered (.ok "a.B")) ∧
      (∀ i, (pair.outcome sampleHost i).1 = .ok "a.B") ∧
      (pair.after sampleHost turns).host = sampleHost := by
  have closed : sampleHost.tree.IsClosed := by decide
  have outside : ∀ i, pair.IsOutside sampleHost (pair.archive i) := by
    intro i
    have stored : sampleHost.nodeAt ⟨"/b.jar"⟩ = .ok (.file sampleJar false) := by
      decide +kernel
    exact isOutside_of_nodeAt closed stored
  have even : pair.HasEvenNames sampleHost turns := hasEvenNames_of_few closed (by decide)
  have finished : ∀ i,
      ((pair.after sampleHost turns).progress i).answer? = some (.ok "a.B") := by
    decide +kernel
  have answered i := Progress.eq_answered_of_answer? (finished i)
  obtain ⟨_, together⟩ := undisturbed pair sampleHost closed outside
  obtain ⟨_, same, left, _⟩ := together turns even
  exact ⟨closed, outside, even, answered, fun i => (same i _ (answered i)).symm,
    left fun i _ => ⟨_, answered i⟩⟩

end DecompileServer.Batch
