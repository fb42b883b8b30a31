import VoucherSwap.Host

/-!
How the results of chained steps come apart. A chain of checks passes if each of them does. An
attempt goes on from the state that its first part left, or ends with the first error and the state
that came with it. Only a host that halts leaves no result at all.
-/

namespace VoucherSwap

namespace Check

variable {ε δ β γ : Type}

theorem ok_bind (value : β) (next : β → Except ε γ) : (.ok value >>= next) = next value := rfl

theorem mapError_ok (value : β) (translate : ε → δ) :
    (.ok value : Except ε β).mapError translate = .ok value := rfl

theorem isOk_iff {check : Except ε β} : check.isOk = true ↔ ∃ value, check = .ok value := by
  cases check <;> simp [Except.isOk, Except.toBool]

theorem bind_eq_ok {check : Except ε β} {next : β → Except ε γ} {result : γ} :
    (check >>= next) = .ok result ↔ ∃ value, check = .ok value ∧ next value = .ok result := by
  cases check <;> simp [bind, Except.bind]

theorem bind_eq_error {check : Except ε β} {next : β → Except ε γ} {cause : ε} :
    (check >>= next) = .error cause ↔
      check = .error cause ∨ ∃ value, check = .ok value ∧ next value = .error cause := by
  cases check <;> simp [bind, Except.bind]

theorem pure_eq_ok {value result : β} :
    (pure value : Except ε β) = .ok result ↔ value = result := by
  simp [pure, Except.pure]

theorem pure_eq_error {value : β} {cause : ε} :
    (pure value : Except ε β) = .error cause ↔ False := by
  simp [pure, Except.pure]

theorem mapError_eq_ok {check : Except ε β} {translate : ε → δ} {value : β} :
    check.mapError translate = .ok value ↔ check = .ok value := by
  cases check with
  | error cause =>
      show (.error (translate cause) : Except δ β) = .ok value ↔ _
      simp
  | ok result =>
      show (.ok result : Except δ β) = .ok value ↔ _
      simp

theorem mapError_eq_error {check : Except ε β} {translate : ε → δ} {cause : δ} :
    check.mapError translate = .error cause ↔ ∃ original,
      check = .error original ∧ translate original = cause := by
  cases check with
  | error original =>
      show (.error (translate original) : Except δ β) = .error cause ↔ _
      simp
  | ok result =>
      show (.ok result : Except δ β) = .error cause ↔ _
      simp

theorem toOption_eq_some {check : Except ε β} {value : β} :
    check.toOption = some value ↔ check = .ok value := by
  cases check <;> simp [Except.toOption]

theorem throw_eq_error {cause other : ε} :
    (throw cause : Except ε β) = .error other ↔ cause = other := by
  simp [throw, throwThe, MonadExceptOf.throw]

-- A guard in front of a chain: the chain is reached only if the condition does not hold.
theorem guard_eq_ok {condition : Prop} [Decidable condition] {cause : ε} {skipped : β → Except ε γ}
    {rest : Except ε γ} {result : γ} :
    (if condition then (throw cause : Except ε β) >>= skipped else rest) = .ok result ↔
      ¬ condition ∧ rest = .ok result := by
  by_cases hit : condition <;> simp [hit, throw, throwThe, MonadExceptOf.throw, bind, Except.bind]

theorem guard_eq_error {condition : Prop} [Decidable condition] {cause other : ε}
    {skipped : β → Except ε γ} {rest : Except ε γ} :
    (if condition then (throw cause : Except ε β) >>= skipped else rest) = .error other ↔
      condition ∧ cause = other ∨ ¬ condition ∧ rest = .error other := by
  by_cases hit : condition <;> simp [hit, throw, throwThe, MonadExceptOf.throw, bind, Except.bind]

-- A guard at the end of a chain.
theorem last_guard_eq_ok {condition : Prop} [Decidable condition] {cause : ε} {result : Unit} :
    (if condition then (throw cause : Except ε Unit) else pure ()) = .ok result ↔ ¬ condition := by
  by_cases hit : condition <;> simp [hit, throw, throwThe, MonadExceptOf.throw, pure, Except.pure]

-- A chain that may be left early without a value.
theorem leave_eq_some {condition : Prop} [Decidable condition] {rest : Except ε (Option β)}
    {result : β} :
    (if condition then pure none else rest) = .ok (some result) ↔
      ¬ condition ∧ rest = .ok (some result) := by
  by_cases hit : condition <;> simp [hit, pure, Except.pure]

theorem leave_eq_none {condition : Prop} [Decidable condition] {rest : Except ε (Option β)} :
    (if condition then pure none else rest) = .ok none ↔ condition ∨ rest = .ok none := by
  by_cases hit : condition <;> simp [hit, pure, Except.pure]

theorem leave_eq_error {condition : Prop} [Decidable condition] {rest : Except ε (Option β)}
    {cause : ε} :
    (if condition then pure none else rest) = .error cause ↔ ¬ condition ∧ rest = .error cause := by
  by_cases hit : condition <;> simp [hit, pure, Except.pure]

end Check

namespace Effect

variable {σ β γ : Type}

theorem bind_run (effect : Effect σ β) (next : β → Effect σ γ) (before : σ) :
    (effect >>= next) before = (effect before).bind fun step => next step.1 step.2 := rfl

theorem get_bind (next : σ → Effect σ γ) (before : σ) :
    ((get : Effect σ σ) >>= next) before = next before before := rfl

theorem bind_eq_some {effect : Effect σ β} {next : β → Effect σ γ} {before after : σ} {result : γ} :
    (effect >>= next) before = some (result, after) ↔
      ∃ value middle, effect before = some (value, middle) ∧
        next value middle = some (result, after) := by
  rw [bind_run, Option.bind_eq_some_iff]
  simp

theorem map_run (change : β → γ) (effect : Effect σ β) (before : σ) :
    (change <$> effect) before = (effect before).map fun step => (change step.1, step.2) := by
  show (effect before).bind (fun step => some (change step.1, step.2)) = _
  cases effect before <;> rfl

theorem map_eq_some {change : β → γ} {effect : Effect σ β} {before after : σ} {result : γ} :
    (change <$> effect) before = some (result, after) ↔
      ∃ value, effect before = some (value, after) ∧ result = change value := by
  show (effect before).bind (fun step => some (change step.1, step.2)) = some (result, after) ↔ _
  rw [Option.bind_eq_some_iff]
  constructor
  · rintro ⟨step, ran, same⟩
    cases same
    exact ⟨step.1, ran, rfl⟩
  · rintro ⟨value, ran, rfl⟩
    exact ⟨_, ran, rfl⟩

theorem bind_eq_none {effect : Effect σ β} {next : β → Effect σ γ} {before : σ} :
    (effect >>= next) before = none ↔
      effect before = none ∨
        ∃ value middle, effect before = some (value, middle) ∧ next value middle = none := by
  rw [bind_run, Option.bind_eq_none_iff]
  constructor
  · intro halts
    cases ran : effect before with
    | none => exact .inl rfl
    | some step => exact .inr ⟨step.1, step.2, rfl, halts step ran⟩
  · rintro (halted | ⟨value, middle, ran, halted⟩) step other
    · rw [halted] at other
      contradiction
    · rw [ran] at other
      cases other
      exact halted

theorem pure_eq_some {value result : β} {before after : σ} :
    (pure value : Effect σ β) before = some (result, after) ↔ value = result ∧ before = after := by
  show some (value, before) = some (result, after) ↔ _
  simp

-- Two runs that kept step, and keep step with what comes next, halt together or not at all.
theorem rel_bind {δ ε : Type} {R : β → γ → Prop} {S : δ → ε → Prop} {first : Option β}
    {second : Option γ} {next : β → Option δ} {other : γ → Option ε}
    (related : Option.Rel R first second)
    (goes : ∀ value result, R value result → Option.Rel S (next value) (other result)) :
    Option.Rel S (first.bind next) (second.bind other) := by
  cases related with
  | none => exact .none
  | some same => exact goes _ _ same

end Effect

namespace Attempt

variable {σ ε δ β γ : Type}

theorem bind_run (attempt : ExceptT ε (Effect σ) β) (next : β → ExceptT ε (Effect σ) γ)
    (before : σ) :
    (attempt >>= next) before = (attempt before).bind fun step =>
      match step.1 with
      | .ok value => next value step.2
      | .error cause => some (.error cause, step.2) := by
  show Option.bind _ _ = Option.bind _ _
  congr 1
  funext ⟨outcome, middle⟩
  cases outcome <;> rfl

theorem get_bind (next : σ → ExceptT ε (Effect σ) γ) (before : σ) :
    ((get : ExceptT ε (Effect σ) σ) >>= next) before = next before before := rfl

theorem bind_eq_ok {attempt : ExceptT ε (Effect σ) β} {next : β → ExceptT ε (Effect σ) γ}
    {before after : σ} {result : γ} :
    (attempt >>= next) before = some (.ok result, after) ↔
      ∃ value middle, attempt before = some (.ok value, middle) ∧
        next value middle = some (.ok result, after) := by
  rw [bind_run, Option.bind_eq_some_iff]
  constructor
  · rintro ⟨⟨first, middle⟩, ran, went⟩
    cases first with
    | error cause => cases went
    | ok value => exact ⟨value, middle, ran, went⟩
  · rintro ⟨value, middle, ran, went⟩
    exact ⟨_, ran, went⟩

theorem bind_eq_error {attempt : ExceptT ε (Effect σ) β} {next : β → ExceptT ε (Effect σ) γ}
    {before after : σ} {cause : ε} :
    (attempt >>= next) before = some (.error cause, after) ↔
      attempt before = some (.error cause, after) ∨
        ∃ value middle, attempt before = some (.ok value, middle) ∧
          next value middle = some (.error cause, after) := by
  rw [bind_run, Option.bind_eq_some_iff]
  constructor
  · rintro ⟨⟨first, middle⟩, ran, went⟩
    cases first with
    | error other =>
        cases went
        exact .inl ran
    | ok value => exact .inr ⟨value, middle, ran, went⟩
  · rintro (ran | ⟨value, middle, ran, went⟩)
    · exact ⟨_, ran, rfl⟩
    · exact ⟨_, ran, went⟩

theorem bind_eq_none {attempt : ExceptT ε (Effect σ) β} {next : β → ExceptT ε (Effect σ) γ}
    {before : σ} :
    (attempt >>= next) before = none ↔
      attempt before = none ∨
        ∃ value middle, attempt before = some (.ok value, middle) ∧ next value middle = none := by
  rw [bind_run, Option.bind_eq_none_iff]
  constructor
  · intro halts
    cases ran : attempt before with
    | none => exact .inl rfl
    | some step =>
        have halted := halts step ran
        obtain ⟨outcome, middle⟩ := step
        cases outcome with
        | error cause => contradiction
        | ok value => exact .inr ⟨value, middle, rfl, halted⟩
  · rintro (halted | ⟨value, middle, ran, halted⟩) step other
    · rw [halted] at other
      contradiction
    · rw [ran] at other
      cases other
      exact halted

theorem pure_eq_ok {value result : β} {before after : σ} :
    (pure value : ExceptT ε (Effect σ) β) before = some (.ok result, after) ↔
      value = result ∧ before = after := by
  show some (Except.ok value, before) = some (.ok result, after) ↔ _
  simp

theorem pure_eq_error {value : β} {before after : σ} {cause : ε} :
    (pure value : ExceptT ε (Effect σ) β) before = some (.error cause, after) ↔ False := by
  show some (Except.ok value, before) = some (.error cause, after) ↔ _
  simp

theorem modify_bind (change : σ → σ) (next : PUnit → ExceptT ε (Effect σ) γ) (before : σ) :
    ((modify change : ExceptT ε (Effect σ) PUnit) >>= next) before = next ⟨⟩ (change before) := rfl

-- A check within an attempt leaves the state as it is.
theorem check_eq_ok {check : Except ε β} {before after : σ} {result : β} :
    (liftM check : ExceptT ε (Effect σ) β) before = some (.ok result, after) ↔
      check = .ok result ∧ before = after := by
  show some (check, before) = some (.ok result, after) ↔ _
  simp

theorem check_eq_error {check : Except ε β} {before after : σ} {cause : ε} :
    (liftM check : ExceptT ε (Effect σ) β) before = some (.error cause, after) ↔
      check = .error cause ∧ before = after := by
  show some (check, before) = some (.error cause, after) ↔ _
  simp

-- An effect within an attempt cannot fail.
theorem effect_eq_ok {effect : Effect σ β} {before after : σ} {result : β} :
    (liftM effect : ExceptT ε (Effect σ) β) before = some (.ok result, after) ↔
      effect before = some (result, after) := by
  show (effect before).bind (fun step => some (Except.ok step.1, step.2)) = _ ↔ _
  cases effect before with
  | none => simp
  | some step => simp [Prod.ext_iff]

theorem effect_eq_error {effect : Effect σ β} {before after : σ} {cause : ε} :
    (liftM effect : ExceptT ε (Effect σ) β) before = some (.error cause, after) ↔ False := by
  show (effect before).bind (fun step => some (Except.ok step.1, step.2)) = _ ↔ _
  cases effect before <;> simp

theorem guard_eq_ok {condition : Prop} [Decidable condition] {cause : ε}
    {skipped : β → ExceptT ε (Effect σ) γ} {rest : ExceptT ε (Effect σ) γ} {before after : σ}
    {result : γ} :
    (if condition then (throw cause : ExceptT ε (Effect σ) β) >>= skipped else rest) before =
        some (.ok result, after) ↔
      ¬ condition ∧ rest before = some (.ok result, after) := by
  by_cases hit : condition
  · have thrown : ((throw cause : ExceptT ε (Effect σ) β) >>= skipped) before =
        some (.error cause, before) := rfl
    simp [hit, thrown]
  · simp [hit]

theorem guard_eq_error {condition : Prop} [Decidable condition] {cause other : ε}
    {skipped : β → ExceptT ε (Effect σ) γ} {rest : ExceptT ε (Effect σ) γ} {before after : σ} :
    (if condition then (throw cause : ExceptT ε (Effect σ) β) >>= skipped else rest) before =
        some (.error other, after) ↔
      condition ∧ cause = other ∧ before = after ∨ ¬ condition ∧
      rest before = some (.error other, after) := by
  by_cases hit : condition
  · have thrown : ((throw cause : ExceptT ε (Effect σ) β) >>= skipped) before =
        some (.error cause, before) := rfl
    simp [hit, thrown]
  · simp [hit]

theorem adapt_run (translate : ε → δ) (attempt : ExceptT ε (Effect σ) β) (before : σ) :
    ExceptT.adapt translate attempt before =
      (attempt before).bind fun step => some (step.1.mapError translate, step.2) := rfl

theorem adapt_eq_error {attempt : ExceptT ε (Effect σ) β} {translate : ε → δ} {before after : σ}
    {cause : δ} :
    ExceptT.adapt translate attempt before = some (.error cause, after) ↔
      ∃ original, attempt before = some (.error original, after) ∧ cause = translate original := by
  rw [adapt_run, Option.bind_eq_some_iff]
  constructor
  · rintro ⟨⟨outcome, middle⟩, ran, same⟩
    cases outcome <;> cases same
    exact ⟨_, ran, rfl⟩
  · rintro ⟨original, ran, rfl⟩
    exact ⟨_, ran, rfl⟩

theorem adapt_eq_ok {attempt : ExceptT ε (Effect σ) β} {translate : ε → δ} {before after : σ}
    {value : β} :
    ExceptT.adapt translate attempt before = some (.ok value, after) ↔
      attempt before = some (.ok value, after) := by
  rw [adapt_run, Option.bind_eq_some_iff]
  constructor
  · rintro ⟨⟨outcome, middle⟩, ran, same⟩
    cases outcome <;> cases same
    exact ran
  · intro ran
    exact ⟨_, ran, rfl⟩

theorem adapt_eq_none {attempt : ExceptT ε (Effect σ) β} {translate : ε → δ} {before : σ} :
    ExceptT.adapt translate attempt before = none ↔ attempt before = none := by
  rw [adapt_run]
  cases attempt before <;> simp

end Attempt

namespace Host

variable {σ α β : Type}

theorem reporting_run (host : Host σ α) (attempt : Attempt σ β) (before : σ) :
    host.reporting attempt before = (attempt before).bind fun step =>
      match step.1 with
      | .ok value => some (.ok value, step.2)
      | .error error =>
          some (.error error, host.emit (Notice.failure error.message).event step.2) := by
  show Option.bind _ _ = Option.bind _ _
  congr 1
  funext ⟨outcome, middle⟩
  cases outcome <;> rfl

theorem reporting_eq_ok {host : Host σ α} {attempt : Attempt σ β} {before after : σ} {value : β} :
    host.reporting attempt before = some (.ok value, after) ↔
      attempt before = some (.ok value, after) := by
  rw [reporting_run, Option.bind_eq_some_iff]
  constructor
  · rintro ⟨⟨outcome, middle⟩, ran, same⟩
    cases outcome <;> cases same
    exact ran
  · intro ran
    exact ⟨_, ran, rfl⟩

theorem reporting_eq_error {host : Host σ α} {attempt : Attempt σ β} {before after : σ}
    {error : Error} :
    host.reporting attempt before = some (.error error, after) ↔
      ∃ middle, attempt before = some (.error error, middle) ∧
        after = host.emit (Notice.failure error.message).event middle := by
  rw [reporting_run, Option.bind_eq_some_iff]
  constructor
  · rintro ⟨⟨outcome, middle⟩, ran, same⟩
    cases outcome <;> cases same
    exact ⟨middle, ran, rfl⟩
  · rintro ⟨middle, ran, rfl⟩
    exact ⟨_, ran, rfl⟩

end Host

end VoucherSwap
