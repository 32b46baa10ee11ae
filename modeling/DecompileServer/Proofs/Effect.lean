import DecompileServer.Disk.Host

/-!
# Running effects

How an effect that is put together from others runs: each part from the host that the parts before
it left, up to the first failure. An effect keeps a property of hosts when it leaves every host that
has it with it, whether or not it fails; an effect keeps what all its parts keep. Two effects agree
along a relation when they give the same from related hosts and leave related hosts; effects whose
parts agree do as well.
-/
namespace DecompileServer.Effect

open Disk (Fault)

variable {ε φ α β : Type}

/-- Two looks in order succeed exactly when both do. -/
theorem except_bind_eq_ok {given : Except ε α} {next : α → Except ε β} {result : β} :
    (given >>= next) = .ok result ↔ ∃ value, given = .ok value ∧ next value = .ok result := by
  cases given <;> simp [bind, Except.bind]

/-- Two looks in order fail exactly when the first does, or the second after it. -/
theorem except_bind_eq_error {given : Except ε α} {next : α → Except ε β} {failure : ε} :
    (given >>= next) = .error failure ↔
      given = .error failure ∨ ∃ value, given = .ok value ∧ next value = .error failure := by
  cases given <;> simp [bind, Except.bind]

/-- What is made of a value comes from one. -/
theorem except_map_eq_ok {given : Except ε α} {make : α → β} {result : β} :
    given.map make = .ok result ↔ ∃ value, given = .ok value ∧ make value = result := by
  cases given <;> simp [Except.map]

/-- A look without its failures gives a value exactly when it succeeds with it. -/
theorem except_toOption_eq_some {given : Except ε α} {value : α} :
    given.toOption = some value ↔ given = .ok value := by
  cases given <;> simp [Except.toOption]

/-- A look with other failures succeeds exactly when it does with its own. -/
theorem except_mapError_eq_ok {given : Except ε α} {convert : ε → φ} {value : α} :
    given.mapError convert = .ok value ↔ given = .ok value := by
  cases given with
  | error failure => constructor <;> intro same <;> cases same
  | ok found => constructor <;> intro same <;> cases same <;> rfl

/-- A look with other failures fails exactly for one of its own. -/
theorem except_mapError_eq_error {given : Except ε α} {convert : ε → φ} {failure : φ} :
    given.mapError convert = .error failure ↔
      ∃ cause, given = .error cause ∧ convert cause = failure := by
  cases given with
  | error cause =>
    constructor
    · rintro ⟨⟩
      exact ⟨cause, rfl, rfl⟩
    · rintro ⟨_, ⟨⟩, rfl⟩
      rfl
  | ok value =>
    constructor
    · rintro ⟨⟩
    · rintro ⟨_, ⟨⟩, _⟩

section Running

variable {effect : Effect ε α} {next : α → Effect ε β} {host after last : Host}

/-- An effect runs to what it gives with the host that it leaves. -/
theorem run_eq {result : Except ε α} (gives : (effect.run host).1 = result)
    (leaves : (effect.run host).2 = after) : effect.run host = (result, after) :=
  Prod.ext gives leaves

@[simp] theorem run_pure (value : α) : (pure value : Effect ε α).run host = (.ok value, host) := rfl

@[simp] theorem run_throw (failure : ε) :
    (throw failure : Effect ε α).run host = (.error failure, host) := rfl

@[simp] theorem run_get : (get : Effect ε Host).run host = (.ok host, host) := rfl

@[simp] theorem run_lift {given : Except ε α} :
    (liftM given : Effect ε α).run host = (given, host) := rfl

@[simp] theorem run_observe (look : Host → Except ε α) :
    (Host.observe look).run host = (look host, host) := rfl

/-- A look at the host succeeds when it finds something, and leaves the host. -/
theorem run_observe_eq_ok {look : Host → Except ε α} {value : α} :
    (Host.observe look).run host = (.ok value, after) ↔ look host = .ok value ∧ after = host := by
  rw [run_observe]
  constructor
  · intro same
    cases found : look host with
    | error failure =>
      rw [found] at same
      cases same
    | ok seen =>
      rw [found] at same
      cases same
      exact ⟨rfl, rfl⟩
  · rintro ⟨found, rfl⟩
    rw [found]

/-- A change leaves what it makes of the host, or the host if it fails. -/
theorem run_change (act : Host → Except ε Host) (host : Host) : (Host.change act).run host =
    match act host with
    | .ok after => (.ok (), after)
    | .error fault => (.error fault, host) := rfl

/-- A change that succeeds leaves what it makes of the host. -/
theorem run_change_of_ok {act : Host → Except ε Host} (acted : act host = .ok after) :
    (Host.change act).run host = (.ok (), after) := by
  rw [run_change, acted]

/-- A change that fails leaves the host. -/
theorem run_change_of_error {act : Host → Except ε Host} {failure : ε}
    (acted : act host = .error failure) :
    (Host.change act).run host = (.error failure, host) := by
  rw [run_change, acted]

/-- A change succeeds exactly when it makes something of the host, and leaves that. -/
theorem run_change_eq_ok {act : Host → Except ε Host} {value : Unit} :
    (Host.change act).run host = (.ok value, after) ↔ act host = .ok after := by
  constructor
  · intro changed
    cases acted : act host with
    | error failure =>
      rw [run_change_of_error acted] at changed
      cases changed
    | ok last =>
      rw [run_change_of_ok acted] at changed
      cases changed
      rfl
  · exact run_change_of_ok

/-- An effect after one that succeeds runs from the host that this leaves. -/
theorem run_bind_of_ok {value : α} (ran : effect.run host = (.ok value, after)) :
    (effect >>= next).run host = (next value).run after := by
  change (ExceptT.bindCont next (effect.run host).1 : StateM Host (Except ε β))
    (effect.run host).2 = _
  rw [ran]
  rfl

/-- Nothing runs after an effect that fails. -/
theorem run_bind_of_error {failure : ε} (ran : effect.run host = (.error failure, after)) :
    (effect >>= next).run host = (.error failure, after) := by
  change (ExceptT.bindCont next (effect.run host).1 : StateM Host (Except ε β))
    (effect.run host).2 = _
  rw [ran]
  rfl

/-- Two effects in order succeed exactly when both do. -/
theorem run_bind_eq_ok {result : β} :
    (effect >>= next).run host = (.ok result, last) ↔
      ∃ value after, effect.run host = (.ok value, after) ∧
        (next value).run after = (.ok result, last) := by
  constructor
  · intro both
    rcases ran : effect.run host with ⟨failure | value, after⟩
    · rw [run_bind_of_error ran] at both
      cases both
    · rw [run_bind_of_ok ran] at both
      exact ⟨value, after, rfl, both⟩
  · rintro ⟨value, after, first, second⟩
    rw [run_bind_of_ok first, second]

/-- Two effects in order fail exactly when the first does, or the second after it. -/
theorem run_bind_eq_error {failure : ε} :
    (effect >>= next).run host = (.error failure, last) ↔
      effect.run host = (.error failure, last) ∨ ∃ value after,
        effect.run host = (.ok value, after) ∧ (next value).run after = (.error failure, last) := by
  rcases ran : effect.run host with ⟨other | value, after⟩
  · rw [run_bind_of_error ran]
    constructor
    · rintro ⟨⟩
      exact .inl rfl
    · rintro (⟨⟨⟩⟩ | ⟨value, middle, ⟨⟩, -⟩)
      rfl
  · rw [run_bind_of_ok ran]
    constructor
    · exact fun failed => .inr ⟨value, after, rfl, failed⟩
    · rintro (⟨⟨⟩⟩ | ⟨other, middle, ⟨⟩, failed⟩)
      exact failed

/-- Making something of what an effect gives leaves the same host. -/
theorem run_bind_pure (make : α → β) :
    (effect >>= fun value => Pure.pure (make value)).run host =
      ((effect.run host).1.map make, (effect.run host).2) := by
  rcases ran : effect.run host with ⟨failure | value, after⟩
  · exact run_bind_of_error ran
  · exact run_bind_of_ok ran

/-- An effect with other failures leaves the same host. -/
theorem run_adapt (convert : ε → φ) :
    (effect.adapt convert).run host = ((effect.run host).1.mapError convert, (effect.run host).2) :=
  rfl

/-- An effect with other failures succeeds exactly when it does with its own. -/
theorem run_adapt_eq_ok {convert : ε → φ} {value : α} :
    (effect.adapt convert).run host = (.ok value, after) ↔
      effect.run host = (.ok value, after) := by
  rw [run_adapt, Prod.ext_iff, Prod.ext_iff]
  exact and_congr_left fun _ => except_mapError_eq_ok

/-- Making a directory makes those above it only if they are missing. -/
theorem run_makeDirectoryAfter (path : Path) (above : Effect Fault Unit) (host : Host) :
    (Host.makeDirectoryAfter path above).run host =
      match host.makeDirectory path with
      | .ok after => (.ok (), after)
      | .error .missing =>
        match above.run host with
        | (.error fault, after) => (.error fault, after)
        | (.ok (), after) =>
          match after.makeDirectory path with
          | .ok made => (.ok (), made)
          | .error fault =>
            if after.isDirectory path then (.ok (), after) else (.error fault, after)
      | .error fault => if host.isDirectory path then (.ok (), host) else (.error fault, host) :=
  rfl

/-- A directory that cannot be made is left to stand, unless it is what is above it that is missing.
-/
theorem run_makeDirectoryAfter_of_error {path : Path} {above : Effect Fault Unit} {fault : Fault}
    (tried : host.makeDirectory path = .error fault) (other : fault ≠ .missing) :
    (Host.makeDirectoryAfter path above).run host =
      if host.isDirectory path then (.ok (), host) else (.error fault, host) := by
  rw [run_makeDirectoryAfter, tried]
  cases fault with
  | missing => exact absurd rfl other
  | _ => rfl

end Running

/-- An effect leaves every host that has a property with it, whether or not it fails. -/
def Keeps (holds : Host → Prop) (effect : Effect ε α) : Prop :=
  ∀ host, holds host → holds (effect.run host).2

namespace Keeps

variable {holds : Host → Prop} {effect : Effect ε α} {next : α → Effect ε β}

/-- Doing nothing keeps everything. -/
theorem pure (value : α) : Keeps holds (Pure.pure value : Effect ε α) := fun _ held => held

/-- Failing keeps everything. -/
theorem throw (failure : ε) : Keeps holds (MonadExcept.throw failure : Effect ε α) :=
  fun _ held => held

/-- Looking keeps everything. -/
theorem observe (look : Host → Except ε α) : Keeps holds (Host.observe look) := fun _ held => held

/-- Taking what is given keeps everything. -/
theorem lift (given : Except ε α) : Keeps holds (liftM given : Effect ε α) := fun _ held => held

/-- Two effects in order keep what both keep. -/
theorem bind (first : Keeps holds effect) (second : ∀ value, Keeps holds (next value)) :
    Keeps holds (effect >>= next) := by
  intro host held
  have middle := first host held
  rcases ran : effect.run host with ⟨_ | value, after⟩
  · rw [run_bind_of_error ran]
    rwa [ran] at middle
  · rw [run_bind_of_ok ran]
    rw [ran] at middle
    exact second value after middle

/-- Failing keeps everything, whatever would come after it. -/
theorem throw_bind (failure : ε) : Keeps holds (MonadExcept.throw failure >>= next) :=
  fun _ held => held

/-- An effect that uses the host keeps what it keeps for every host. -/
theorem get {next : Host → Effect ε β} (each : ∀ host, Keeps holds (next host)) :
    Keeps holds (MonadState.get >>= next) :=
  bind (fun _ held => held) each

/-- The kind of failure does not matter for what is kept. -/
theorem adapt (kept : Keeps holds effect) (convert : ε → φ) :
    Keeps holds (effect.adapt convert) := by
  intro host held
  rw [run_adapt]
  exact kept host held

/-- A change keeps what every success of it keeps. -/
theorem change {act : Host → Except ε Host}
    (kept : ∀ host after, holds host → act host = .ok after → holds after) :
    Keeps holds (Host.change act) := by
  intro host held
  cases acted : act host with
  | error fault => rwa [run_change_of_error acted]
  | ok after =>
    rw [run_change_of_ok acted]
    exact kept host after held acted

/-- Making a directory after those above it keeps what each making of a directory keeps. -/
theorem makeDirectoryAfter {path : Path} {above : Effect Fault Unit}
    (kept : ∀ host after, holds host → host.makeDirectory path = .ok after → holds after)
    (higher : Keeps holds above) : Keeps holds (Host.makeDirectoryAfter path above) := by
  intro host held
  have upper := higher host held
  rw [run_makeDirectoryAfter]
  split
  · rename_i after made
    exact kept host after held made
  · rcases ran : above.run host with ⟨_ | made, after⟩
    · rwa [ran] at upper
    · rw [ran] at upper
      dsimp only
      split
      · rename_i last again
        exact kept after last upper again
      · split <;> exact upper
  · split <;> exact held

/-- Making directories upwards keeps what each making of one of them keeps. -/
theorem makeDirectoriesUp {components : List Path.Component}
    (kept : ∀ upper, upper ≠ [] → upper <:+ components → ∀ host after, holds host →
      host.makeDirectory (Path.ofComponents upper.reverse) = .ok after → holds after) :
    Keeps holds (Host.makeDirectoriesUp components) := by
  induction components with
  | nil => exact pure ()
  | cons last above ih =>
    refine makeDirectoryAfter (kept _ (List.cons_ne_nil _ _) (List.suffix_refl _)) (ih ?_)
    intro upper some inside
    exact kept upper some (inside.trans (List.suffix_cons _ _))

/-- Making directories keeps what each making of a directory keeps. -/
theorem makeDirectories {path : Path}
    (kept : ∀ path host after, holds host → host.makeDirectory path = .ok after → holds after) :
    Keeps holds (Host.makeDirectories path) := by
  unfold Host.makeDirectories
  split
  · exact pure ()
  · refine makeDirectoryAfter (kept _) ?_
    split
    · exact throw _
    · exact makeDirectoriesUp fun upper _ _ => kept _

end Keeps

/-- Two results are failures for the same reason, or related. -/
inductive Alike (related : α → β → Prop) : Except ε α → Except ε β → Prop where
  /-- Both fail. -/
  | error (failure : ε) : Alike related (.error failure) (.error failure)
  /-- Both succeed. -/
  | ok {value : α} {other : β} (holds : related value other) :
      Alike related (.ok value) (.ok other)

namespace Alike

variable {related : α → β → Prop} {value : α} {result : Except ε β} {failure : ε}

/-- What is alike to a failure is the same failure. -/
theorem of_error (alike : Alike related (.error failure) result) : result = .error failure := by
  cases alike
  rfl

/-- What is alike to a success is a related one. -/
theorem of_ok (alike : Alike related (.ok value) result) :
    ∃ other, result = (.ok other : Except ε β) ∧ related value other := by
  cases alike with
  | ok holds => exact ⟨_, rfl, holds⟩

variable {first : Except ε α} {second : Except ε β}

/-- What goes on alike from related values is alike. -/
theorem bind {γ δ : Type} {later : γ → δ → Prop} {next : α → Except ε γ} {further : β → Except ε δ}
    (alike : Alike related first second)
    (each : ∀ {value other}, related value other → Alike later (next value) (further other)) :
    Alike later (first >>= next) (second >>= further) := by
  cases alike with
  | error failure => exact .error failure
  | ok holds => exact each holds

/-- What goes on to the same from related values is the same. -/
theorem bind_eq {γ : Type} {next : α → Except ε γ} {further : β → Except ε γ}
    (alike : Alike related first second)
    (each : ∀ {value other}, related value other → further other = next value) :
    (second >>= further) = (first >>= next) := by
  cases alike with
  | error failure => rfl
  | ok holds => exact each holds

end Alike

/-- Two effects give the same from related hosts and leave related hosts. -/
def Agree (related : Host → Host → Prop) (effect second : Effect ε α) : Prop :=
  ∀ host other, related host other → (second.run other).1 = (effect.run host).1 ∧
    related (effect.run host).2 (second.run other).2

namespace Agree

variable {related : Host → Host → Prop} {effect second : Effect ε α} {next further : α → Effect ε β}

/-- What one effect gives, the other gives as well. -/
theorem run_eq {host after other : Host} {result : Except ε α}
    (agreed : Agree related effect second) (held : related host other)
    (ran : effect.run host = (result, after)) :
    ∃ last, second.run other = (result, last) ∧ related after last := by
  obtain ⟨same, kept⟩ := agreed host other held
  rw [ran] at same kept
  exact ⟨(second.run other).2, Prod.ext same rfl, kept⟩

/-- Giving the same value agrees. -/
theorem pure (value : α) :
    Agree related (Pure.pure value : Effect ε α) (Pure.pure value) :=
  fun _ _ held => ⟨rfl, held⟩

/-- Failing for the same reason agrees. -/
theorem throw (failure : ε) :
    Agree related (MonadExcept.throw failure : Effect ε α) (MonadExcept.throw failure) :=
  fun _ _ held => ⟨rfl, held⟩

/-- Taking what is given agrees. -/
theorem lift (given : Except ε α) :
    Agree related (liftM given : Effect ε α) (liftM given) :=
  fun _ _ held => ⟨rfl, held⟩

/-- Looks agree when they see the same. -/
theorem observe {look glance : Host → Except ε α}
    (same : ∀ host other, related host other → glance other = look host) :
    Agree related (Host.observe look) (Host.observe glance) :=
  fun host other held => ⟨same host other held, held⟩

/-- Effects in order agree when each does. -/
theorem bind (first : Agree related effect second)
    (rest : ∀ value, Agree related (next value) (further value)) :
    Agree related (effect >>= next) (second >>= further) := by
  intro host other held
  rcases ran : effect.run host with ⟨failure | value, after⟩
  · obtain ⟨last, again, kept⟩ := first.run_eq held ran
    rw [run_bind_of_error ran, run_bind_of_error again]
    exact ⟨rfl, kept⟩
  · obtain ⟨last, again, kept⟩ := first.run_eq held ran
    rw [run_bind_of_ok ran, run_bind_of_ok again]
    exact rest value after last kept

/-- Effects that use the host agree when they do for related hosts. -/
theorem get {next further : Host → Effect ε β}
    (each : ∀ host other, related host other → Agree related (next host) (further other)) :
    Agree related (MonadState.get >>= next) (MonadState.get >>= further) :=
  fun host other held => each host other held host other held

/-- Failing for the same reason agrees, whatever would come after it. -/
theorem throw_bind (failure : ε) :
    Agree related (MonadExcept.throw failure >>= next) (MonadExcept.throw failure >>= further) :=
  fun _ _ held => ⟨rfl, held⟩

/-- The kind of failure does not matter for the agreement. -/
theorem adapt (agreed : Agree related effect second) (convert : ε → φ) :
    Agree related (effect.adapt convert) (second.adapt convert) := by
  intro host other held
  obtain ⟨same, kept⟩ := agreed host other held
  rw [run_adapt, run_adapt, same]
  exact ⟨rfl, kept⟩

/-- Changes agree when they fail for the same reason or leave related hosts. -/
theorem change {act deed : Host → Except ε Host}
    (alike : ∀ host other, related host other → Alike related (act host) (deed other)) :
    Agree related (Host.change act) (Host.change deed) := by
  intro host other held
  have each := alike host other held
  cases acted : act host with
  | error failure =>
    rw [acted] at each
    rw [run_change_of_error acted, run_change_of_error each.of_error]
    exact ⟨rfl, held⟩
  | ok after =>
    rw [acted] at each
    obtain ⟨last, done, kept⟩ := each.of_ok
    rw [run_change_of_ok acted, run_change_of_ok done]
    exact ⟨rfl, kept⟩

/-- Makings of a directory agree when making it alone does, and making those above it whenever they
are missing. -/
theorem makeDirectoryAfter {path target : Path} {above higher : Effect Fault Unit}
    (made : ∀ host other, related host other →
      Alike related (host.makeDirectory path) (other.makeDirectory target))
    (stands : ∀ host other, related host other → other.isDirectory target = host.isDirectory path)
    (upper : ∀ host other, related host other → host.makeDirectory path = .error .missing →
      Agree related above higher) :
    Agree related (Host.makeDirectoryAfter path above) (Host.makeDirectoryAfter target higher) := by
  intro host other held
  have first := made host other held
  cases tried : host.makeDirectory path with
  | ok after =>
    rw [tried] at first
    obtain ⟨last, done, kept⟩ := first.of_ok
    rw [run_makeDirectoryAfter, run_makeDirectoryAfter, tried, done]
    exact ⟨rfl, kept⟩
  | error fault =>
    rw [tried] at first
    by_cases missing : fault = .missing
    · subst missing
      have climbs := upper host other held tried
      rw [run_makeDirectoryAfter, run_makeDirectoryAfter, tried, first.of_error]
      rcases ran : above.run host with ⟨failure | made', after⟩
      · obtain ⟨last, again, kept⟩ := climbs.run_eq held ran
        rw [again]
        exact ⟨rfl, kept⟩
      · obtain ⟨last, again, kept⟩ := climbs.run_eq held ran
        rw [again]
        have second := made after last kept
        dsimp only
        cases retried : after.makeDirectory path with
        | ok final =>
          rw [retried] at second
          obtain ⟨_, redone, kept⟩ := second.of_ok
          rw [redone]
          exact ⟨rfl, kept⟩
        | error fault =>
          rw [retried] at second
          rw [second.of_error]
          dsimp only
          rw [stands after last kept]
          split <;> exact ⟨rfl, kept⟩
    · rw [run_makeDirectoryAfter_of_error tried missing,
        run_makeDirectoryAfter_of_error first.of_error missing, stands host other held]
      split <;> exact ⟨rfl, held⟩

end Agree

end DecompileServer.Effect
