import VoucherSwap.Stack.Layers
import VoucherSwap.Proofs.Outcome

/-!
Changes that a whole stack may make. A relation between the state before and the state after is
respected by an effect if every result of the effect stands for such a change, and by a hook if it
is respected on the way down and on the way back. What every layer, the application and the sender
of packets respect, the stack respects, for any number of layers.
-/

namespace VoucherSwap

variable {σ : Type}

/-- Every result comes with a change of this kind. -/
def Respects {β : Type} (Change : σ → σ → Prop) (effect : σ → Option (β × σ)) : Prop :=
  ∀ before result after, effect before = some (result, after) → Change before after

theorem Respects.mono {β : Type} {Change Other : σ → σ → Prop} {effect : σ → Option (β × σ)}
    (respects : Respects Change effect)
    (implies : ∀ {before after}, Change before after → Other before after) :
    Respects Other effect :=
  fun before result after ran => implies (respects before result after ran)

/-- Changes of a kind follow one another, and nothing is such a change as well. -/
structure Composable (Change : σ → σ → Prop) : Prop where
  refl : ∀ state, Change state state
  trans : ∀ {first second third}, Change first second → Change second third → Change first third

section

variable {β γ ε : Type} {Change : σ → σ → Prop} (composable : Composable Change)
include composable

theorem Composable.done (value : β) : Respects Change (pure value : ExceptT ε (Effect σ) β) := by
  intro before result after ran
  cases ran
  exact composable.refl before

theorem Composable.read : Respects Change (get : ExceptT ε (Effect σ) σ) := by
  intro before result after ran
  cases ran
  exact composable.refl before

theorem Composable.get : Respects Change (get : Effect σ σ) := by
  intro before result after ran
  cases ran
  exact composable.refl before

theorem Composable.pure (value : β) : Respects Change (pure value : Effect σ β) := by
  intro before result after ran
  obtain ⟨-, rfl⟩ := Effect.pure_eq_some.mp ran
  exact composable.refl before

theorem Composable.bind {effect : Effect σ β} {next : β → Effect σ γ}
    (first : Respects Change effect) (rest : ∀ value, Respects Change (next value)) :
    Respects Change (effect >>= next) := by
  intro before result after ran
  obtain ⟨value, middle, early, late⟩ := Effect.bind_eq_some.mp ran
  exact composable.trans (first _ _ _ early) (rest value _ _ _ late)

theorem Composable.check (check : Except ε β) :
    Respects Change (liftM check : ExceptT ε (Effect σ) β) := by
  intro before result after ran
  cases ran
  exact composable.refl before

-- A step of an attempt that fails ends it, so the rest of it need not be looked at then.
theorem Composable.attempt {attempt : ExceptT ε (Effect σ) β} {next : β → ExceptT ε (Effect σ) γ}
    (first : Respects Change attempt) (rest : ∀ value, Respects Change (next value)) :
    Respects Change (attempt >>= next) := by
  intro before result after ran
  cases result with
  | error cause =>
      rcases Attempt.bind_eq_error.mp ran with stopped | ⟨value, middle, early, late⟩
      · exact first _ _ _ stopped
      · exact composable.trans (first _ _ _ early) (rest value _ _ _ late)
  | ok result =>
      obtain ⟨value, middle, early, late⟩ := Attempt.bind_eq_ok.mp ran
      exact composable.trans (first _ _ _ early) (rest value _ _ _ late)

end

/-- A hook that makes only such changes, on the way down and on the way back. -/
structure Hook.Respects {Q : Type} {A : Q → Type} (Change : σ → σ → Prop) (hook : Hook σ A) :
    Prop where
  entering : ∀ request, VoucherSwap.Respects Change (hook request)
  finishing : ∀ {request below finish before middle},
    hook request before = some (.descend below finish, middle) →
      ∀ answer, VoucherSwap.Respects Change (finish answer)

structure Layer.Respects (Change : σ → σ → Prop) (layer : Layer σ) : Prop where
  incoming : layer.incoming.Respects Change
  send : layer.send.Respects Change

structure Application.Respects (Change : σ → σ → Prop) (application : Application σ) : Prop where
  receive : ∀ delivery, VoucherSwap.Respects Change (application.receive delivery)
  acknowledge : ∀ request, VoucherSwap.Respects Change (application.acknowledge request)
  timeout : ∀ delivery, VoucherSwap.Respects Change (application.timeout delivery)

theorem Application.Respects.incoming {Change : σ → σ → Prop} {application : Application σ}
    (respects : application.Respects Change) (request : Incoming) :
    VoucherSwap.Respects Change (application.incoming request) := by
  cases request with
  | receive delivery => exact respects.receive delivery
  | acknowledge answered => exact respects.acknowledge answered
  | timeout delivery => exact respects.timeout delivery

section

variable {P Q : Type} {A : Q → Type} {Change : σ → σ → Prop} {call : P → Q}
  {inner : Hook σ (A ∘ call)} (respects : inner.Respects Change)
include respects

theorem Hook.Respects.entering_lift (request : P) :
    VoucherSwap.Respects Change (inner.lift call request) := by
  intro before visit after ran
  obtain ⟨entered, ran, -⟩ := Effect.map_eq_some.mp ran
  exact respects.entering _ _ _ _ ran

theorem Hook.Respects.finishing_lift {request : P} {below : Q}
    {finish : A below → Effect σ (A (call request))} {before middle : σ}
    (ran : inner.lift call request before = some (.descend below finish, middle))
    (answer : A below) : VoucherSwap.Respects Change (finish answer) := by
  obtain ⟨visit, entered, same⟩ := Effect.map_eq_some.mp ran
  cases visit with
  | answer result => cases same
  | descend other rest =>
      cases same
      exact respects.finishing entered answer

end

section

variable {Q : Type} {A : Q → Type} {Change : σ → σ → Prop} (composable : Composable Change)
include composable

theorem Hook.respects_pass : (Hook.pass : Hook σ A).Respects Change where
  entering request := composable.pure _
  finishing := by
    intro request below finish before middle ran
    cases ran
    exact fun answer => composable.pure answer

theorem Layer.respects_passing : (Layer.passing : Layer σ).Respects Change :=
  ⟨Hook.respects_pass composable, Hook.respects_pass composable⟩

theorem Hook.Respects.atop {hook : Hook σ A} {below : Service σ A} (respects : hook.Respects Change)
    (under : ∀ request, VoucherSwap.Respects Change (below request)) (request : Q) :
    VoucherSwap.Respects Change (hook.atop below request) := by
  intro before result after ran
  obtain ⟨visit, entered, ran, went⟩ := Effect.bind_eq_some.mp ran
  have down := respects.entering _ _ _ _ ran
  cases visit with
  | answer result =>
      obtain ⟨-, rfl⟩ := Effect.pure_eq_some.mp went
      exact down
  | descend other finish =>
      obtain ⟨answer, middle, asked, finished⟩ := Effect.bind_eq_some.mp went
      exact composable.trans down (composable.trans (under _ _ _ _ asked)
        (respects.finishing ran answer _ _ _ finished))

omit composable in
theorem Stack.incoming_passing (rest : List (Layer σ)) (application : Application σ) :
    Stack.incoming ⟨.passing :: rest, application⟩ = Stack.incoming ⟨rest, application⟩ :=
  funext fun _ => Hook.pass_atop rfl

-- By induction on the layers; the first one is on top.
theorem Stack.respects_incoming {stack : Stack σ}
    (layers : ∀ layer ∈ stack.layers, layer.Respects Change)
    (application : stack.application.Respects Change) (request : Incoming) :
    Respects Change (stack.incoming request) := by
  obtain ⟨list, bottom⟩ := stack
  induction list generalizing request with
  | nil => exact application.incoming request
  | cons layer rest ih =>
      exact (layers layer List.mem_cons_self).incoming.atop composable
        (fun below =>
          ih below (fun other member => layers other (List.mem_cons_of_mem _ member)) application)
        request

-- By induction on the layers; the last one is on top.
theorem Stack.respects_send {stack : Stack σ}
    (layers : ∀ layer ∈ stack.layers, layer.Respects Change) {send : Packet → Effect σ Dispatch}
    (sends : ∀ packet, Respects Change (send packet)) (packet : Packet) :
    Respects Change (stack.send send packet) := by
  obtain ⟨list, bottom⟩ := stack
  induction list generalizing send with
  | nil => exact sends packet
  | cons layer rest ih =>
      exact ih ((layers layer List.mem_cons_self).send.atop composable sends)
        fun other member => layers other (List.mem_cons_of_mem _ member)

end

end VoucherSwap
