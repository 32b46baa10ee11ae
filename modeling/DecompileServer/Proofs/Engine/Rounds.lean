import DecompileServer.Proofs.Effect
import DecompileServer.Proofs.Engine.Closure
import Mathlib.Algebra.GroupWithZero.Nat

/-!
# How long staging takes

Staging goes in rounds. Each takes a name from the queue, and only one that stages a class puts
names into it. So the names that have been taken and those in the queue are together as many as the
class and the staged ones refer to (`Balanced`). With a limit for the staged classes the rounds come
to an end, whatever the lookup answers, and they leave the host as writing the whole plan does.
-/
namespace DecompileServer.Staging

/-- Where the loop stands before a round. -/
structure Standing where
  /-- How many names have been taken from the queue. -/
  taken : Nat
  /-- The names that have been seen. -/
  seen : List String
  /-- The names to take, in order. -/
  queue : List String
  /-- The classes that have been written. -/
  staged : List (ClassName × List UInt8)
  /-- The machine. -/
  host : Host

/-- What a round comes to. -/
inductive Round where
  /-- The loop goes on. -/
  | further (next : Standing)
  /-- The loop is over, because of a fault if there is one. -/
  | finished (last : Standing) (result : Except Disk.Fault Unit)

namespace Round

/-- Where the loop stands after a round. -/
def standing : Round → Standing
  | .further next => next
  | .finished last _ => last

end Round

section Loop

variable (lookup : ClassLookup) (directory : Path) (limit : Nat)

/-- One round of the loop. The limit is looked at when a name has been taken. -/
def Standing.round (standing : Standing) : Round :=
  match standing.queue with
  | [] => .finished standing (.ok ())
  | name :: rest =>
    let opened := { standing with taken := standing.taken + 1, queue := rest }
    if limit ≤ standing.staged.length then .finished opened (.ok ())
    else if name ∈ standing.seen then .further opened
    else
      let noted := { opened with seen := name :: standing.seen }
      match accepted lookup name with
      | none => .further noted
      | some (known, bytes) =>
        match (write directory known bytes).run standing.host with
        | (.error fault, host) => .finished { noted with host } (.error fault)
        | (.ok _, host) =>
          .further { noted with
            host
            queue := rest ++ referencesIn bytes
            staged := standing.staged ++ [(known, bytes)] }

/-- The loop comes to an end. -/
inductive Ends : Standing → Standing → Except Disk.Fault Unit → Prop where
  /-- The round is the last one. -/
  | finished {standing last : Standing} {result : Except Disk.Fault Unit}
      (ended : standing.round lookup directory limit = .finished last result) :
      Ends standing last result
  /-- The loop ends after further rounds. -/
  | further {standing next last : Standing} {result : Except Disk.Fault Unit}
      (went : standing.round lookup directory limit = .further next)
      (later : Ends next last result) : Ends standing last result

end Loop

section Counting

variable {lookup : ClassLookup} {directory : Path} {limit : Nat} {roots : List String}
  {standing last : Standing} {result : Except Disk.Fault Unit}

/-- As many names are mentioned as the class itself and the staged ones refer to. -/
theorem length_mentioned (roots : List String) (staged : List (ClassName × List UInt8)) :
    (mentioned roots staged).length =
      roots.length + (staged.map fun item => (referencesIn item.2).length).sum := by
  rw [mentioned_eq, List.length_append, List.length_flatMap]

/-- How the names balance before a round. -/
structure Balanced (limit : Nat) (roots : List String) (standing : Standing) : Prop where
  /-- Those that have been taken and those in the queue are the ones that are mentioned. -/
  names : standing.taken + standing.queue.length = (mentioned roots standing.staged).length
  /-- No more classes are staged than allowed. -/
  few : standing.staged.length ≤ limit

/-- A round takes a name from the queue, and what it puts there is mentioned by the class that it
stages. -/
theorem Balanced.round (lookup : ClassLookup) (directory : Path)
    (balanced : Balanced limit roots standing) :
    Balanced limit roots (standing.round lookup directory limit).standing := by
  obtain ⟨names, few⟩ := balanced
  unfold Standing.round
  split
  · exact ⟨names, few⟩
  · next name rest queue =>
    rw [queue, List.length_cons, Nat.add_comm rest.length, ← Nat.add_assoc] at names
    split
    · exact ⟨names, few⟩
    · next room =>
      split
      · exact ⟨names, few⟩
      · split
        · exact ⟨names, few⟩
        · next known bytes taken =>
          split
          · exact ⟨names, few⟩
          · refine ⟨?_, ?_⟩
            · simp only [Round.standing, mentioned_concat, List.length_append, ← names,
                Nat.add_assoc]
            · simp only [Round.standing, List.length_append, List.length_singleton]
              omega

/-- Names balance when the loop has ended. -/
theorem Balanced.ends (balanced : Balanced limit roots standing)
    (ends : Ends lookup directory limit standing last result) : Balanced limit roots last := by
  induction ends with
  | finished ended =>
    have after := balanced.round lookup directory
    rwa [ended] at after
  | further went _ ih =>
    have after := balanced.round lookup directory
    rw [went] at after
    exact ih after

/-- The loop ends in one way only. -/
theorem Ends.unique {other : Standing} {outcome : Except Disk.Fault Unit}
    (ends : Ends lookup directory limit standing last result)
    (again : Ends lookup directory limit standing other outcome) :
    other = last ∧ outcome = result := by
  induction ends with
  | finished ended =>
    cases again with
    | finished another =>
      rw [ended] at another
      cases another
      exact ⟨rfl, rfl⟩
    | further went _ =>
      rw [ended] at went
      cases went
  | further went _ ih =>
    cases again with
    | finished ended =>
      rw [went] at ended
      cases ended
    | further another later =>
      rw [went] at another
      cases another
      exact ih later

end Counting

section Leaving

variable {lookup : ClassLookup} {directory : Path} {limit : Nat} {step : StagingStep}
  {steps : List StagingStep} {standing next last : Standing} {result : Except Disk.Fault Unit}

/-- The loop leaves what writing a plan leaves. -/
structure Leaves (directory : Path) (steps : List StagingStep) (standing last : Standing)
    (result : Except Disk.Fault Unit) : Prop where
  /-- The host is the same. -/
  host : ((writeAll directory steps).run standing.host).2 = last.host
  /-- There is a fault in both or in neither. -/
  succeeds : ((writeAll directory steps).run standing.host).1 = .ok () ↔ result = .ok ()
  /-- Without one the classes of the plan have been staged. -/
  staged : result = .ok () → last.staged = standing.staged ++ steps.filterMap (·.staged)

/-- Nothing is left to do at the end of a plan. -/
theorem leaves_nil (same : last.host = standing.host) (as : last.staged = standing.staged) :
    Leaves directory [] standing last (.ok ()) where
  host := same.symm
  succeeds := ⟨fun _ => rfl, fun _ => rfl⟩
  staged _ := by rw [as, List.filterMap_nil, List.append_nil]

/-- After its first step a plan goes on with the others. -/
theorem Leaves.cons (leaves : Leaves directory steps next last result)
    (wrote : (writeStep directory step).run standing.host = (.ok (), next.host))
    (staged : next.staged = standing.staged ++ step.staged.toList) :
    Leaves directory (step :: steps) standing last result := by
  have first : ((writeStep directory step).adapt fun _ => [step]).run standing.host =
      (.ok (), next.host) :=
    Effect.run_adapt_eq_ok.mpr wrote
  have ran : (writeAll directory (step :: steps)).run standing.host =
      (((writeAll directory steps).run next.host).1.mapError (step :: ·),
        ((writeAll directory steps).run next.host).2) := by
    rw [writeAll, Effect.run_bind_of_ok first, Effect.run_adapt]
  refine ⟨?_, ?_, fun done => ?_⟩
  · rw [ran, leaves.host]
  · rw [ran, Effect.except_mapError_eq_ok, leaves.succeeds]
  · rw [leaves.staged done, staged, List.filterMap_cons]
    cases step.staged <;> simp

/-- At a step that cannot be done a plan ends. -/
theorem leaves_of_error {fault : Disk.Fault}
    (failed : (writeStep directory step).run standing.host = (.error fault, last.host)) :
    Leaves directory (step :: steps) standing last (.error fault) := by
  have first : ((writeStep directory step).adapt fun _ => [step]).run standing.host =
      (.error [step], last.host) := by
    rw [Effect.run_adapt, failed]
    rfl
  have ran : (writeAll directory (step :: steps)).run standing.host =
      (.error [step], last.host) := by
    rw [writeAll, Effect.run_bind_of_error first]
  exact ⟨by rw [ran], by simp [ran], nofun⟩

/-- From every standing the loop ends, and leaves what writing the plan leaves. -/
theorem exists_ends (lookup : ClassLookup) (directory : Path) {budget : Nat}
    (standing : Standing) (room : standing.staged.length + budget = limit) :
    ∃ last result, Ends lookup directory limit standing last result ∧
      Leaves directory (plan lookup standing.seen budget standing.queue) standing last result := by
  obtain ⟨taken, seen, queue, staged, host⟩ := standing
  dsimp only at room ⊢
  -- Each round shortens the queue or spends a part of the budget.
  induction seen, budget, queue using plan.induct lookup generalizing taken staged host with
  | case1 seen budget =>
    rw [plan]
    exact ⟨_, _, .finished rfl, leaves_nil rfl rfl⟩
  | case2 seen name rest =>
    have full : limit ≤ staged.length := Nat.le_of_eq room.symm
    have ended : Standing.round lookup directory limit ⟨taken, seen, name :: rest, staged, host⟩ =
        .finished ⟨taken + 1, seen, rest, staged, host⟩ (.ok ()) := by
      simp only [Standing.round, if_pos full]
    rw [plan]
    exact ⟨_, _, .finished ended, leaves_nil rfl rfl⟩
  | case3 seen name rest further known ih =>
    have space : ¬ limit ≤ staged.length := by omega
    have went : Standing.round lookup directory limit ⟨taken, seen, name :: rest, staged, host⟩ =
        .further ⟨taken + 1, seen, rest, staged, host⟩ := by
      simp only [Standing.round, if_neg space, if_pos known]
    obtain ⟨last, result, ends, leaves⟩ := ih (taken + 1) staged host room
    rw [plan, if_pos known]
    exact ⟨last, result, .further went ends, leaves.host, leaves.succeeds, leaves.staged⟩
  | case4 seen name rest further new refused ih =>
    have space : ¬ limit ≤ staged.length := by omega
    have went : Standing.round lookup directory limit ⟨taken, seen, name :: rest, staged, host⟩ =
        .further ⟨taken + 1, name :: seen, rest, staged, host⟩ := by
      simp only [Standing.round, if_neg space, if_neg new, refused]
    obtain ⟨last, result, ends, leaves⟩ := ih (taken + 1) staged host room
    rw [plan, if_neg new, refused]
    exact ⟨last, result, .further went ends, leaves.cons rfl (List.append_nil _).symm⟩
  | case5 seen name rest further new known bytes accepts ih =>
    have space : ¬ limit ≤ staged.length := by omega
    rw [plan, if_neg new, accepts]
    dsimp only
    rcases ran : (write directory known bytes).run host with ⟨fault | path, after⟩
    · have ended : Standing.round lookup directory limit ⟨taken, seen, name :: rest, staged, host⟩ =
          .finished ⟨taken + 1, name :: seen, rest, staged, after⟩ (.error fault) := by
        simp only [Standing.round, if_neg space, if_neg new, accepts, ran]
      exact ⟨_, _, .finished ended, leaves_of_error (Effect.run_bind_of_error ran)⟩
    · have went : Standing.round lookup directory limit ⟨taken, seen, name :: rest, staged, host⟩ =
          .further ⟨taken + 1, name :: seen, rest ++ referencesIn bytes,
            staged ++ [(known, bytes)], after⟩ := by
        simp only [Standing.round, if_neg space, if_neg new, accepts, ran]
      have wider : (staged ++ [(known, bytes)]).length + further = limit := by
        rw [List.length_append, List.length_singleton]
        omega
      obtain ⟨last, result, ends, leaves⟩ := ih (taken + 1) _ after wider
      exact ⟨last, result, .further went ends, leaves.cons (Effect.run_bind_of_ok ran) rfl⟩

end Leaving

end DecompileServer.Staging

namespace DecompileServer.ExternalEngine

open Staging

/-- Where the loop stands at first: the class's own names have been seen, and those to which it
refers are in the queue. -/
def firstStanding (request : EngineRequest) (summary : ClassFile.Summary) (host : Host) :
    Standing where
  taken := 0
  seen := [summary.declared, request.name.text]
  queue := summary.references
  staged := []
  host

/-- Staging ends for every class, every lookup and every limit. The loop takes at most as many names
as the class and those that it stages refer to, stages no more of them than allowed, and leaves what
writing the whole plan leaves. -/
theorem staging_ends (engine : ExternalEngine) (request : EngineRequest)
    (summary : ClassFile.Summary) (directory : Path) (host : Host) :
    ∃ last result,
      Ends request.lookup directory engine.budget (firstStanding request summary host) last result ∧
      (∀ other outcome, Ends request.lookup directory engine.budget
        (firstStanding request summary host) other outcome → other = last ∧ outcome = result) ∧
      last.taken ≤ summary.references.length +
        (last.staged.map fun item => (referencesIn item.2).length).sum ∧
      last.staged.length ≤ engine.budget ∧
      Leaves directory (engine.planFor request summary) (firstStanding request summary host) last
        result := by
  obtain ⟨last, result, ends, leaves⟩ := exists_ends request.lookup directory
    (firstStanding request summary host) (Nat.zero_add engine.budget)
  have balanced : Balanced engine.budget summary.references (firstStanding request summary host) :=
    ⟨by simp [firstStanding, mentioned], Nat.zero_le _⟩
  obtain ⟨names, few⟩ := balanced.ends ends
  refine ⟨last, result, ends, fun _ _ => ends.unique, ?_, few, leaves⟩
  rw [← length_mentioned, ← names]
  exact Nat.le_add_right _ _

end DecompileServer.ExternalEngine
